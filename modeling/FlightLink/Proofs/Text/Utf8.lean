import FlightLink.Text.Charset
import Mathlib.Tactic.Common

/-!
# Texts survive UTF-8

What a text has been written as is read as that text again.  Each character is
read on its own: its first byte announces how many bytes continue it, and none
of them is taken for anything else.
-/

namespace FlightLink.Text.Utf8

theorem toNat_toUInt8 {n : Nat} (hn : n < 256) : n.toUInt8.toNat = n :=
  UInt8.toNat_ofNat_of_lt' hn

theorem follow_cons {count value used : Nat} {low high b : UInt8} {rest : List UInt8}
    (hb : low ≤ b ∧ b ≤ high) :
    follow (count + 1) low high value used (b :: rest) =
      follow count 0x80 0xBF (value * 0x40 + (b.toNat - 0x80)) (used + 1) rest :=
  if_pos hb

/-- Six bits of a character follow its first byte. -/
theorem follow_continuation {k count value used : Nat} {low high : UInt8}
    {rest : List UInt8} (hk : k < 0x40) (hlow : low.toNat ≤ 0x80 + k)
    (hhigh : 0x80 + k ≤ high.toNat) :
    follow (count + 1) low high value used ((0x80 + k).toUInt8 :: rest) =
      follow count 0x80 0xBF (value * 0x40 + k) (used + 1) rest := by
  have hbyte : (0x80 + k).toUInt8.toNat = 0x80 + k := toNat_toUInt8 (by omega)
  have hrange : low ≤ (0x80 + k).toUInt8 ∧ (0x80 + k).toUInt8 ≤ high := by
    rw [UInt8.le_iff_toNat_le, UInt8.le_iff_toNat_le, hbyte]
    exact ⟨hlow, hhigh⟩
  rw [follow_cons hrange, hbyte, Nat.add_sub_cancel_left]

/-- How a character starts. -/
theorem scalar_of_lead? {b : UInt8} {rest : List UInt8} {l : Lead} {c : Char} {used : Nat}
    (hlead : lead? b = some l)
    (hfollow : follow l.count l.low l.high l.bits 0 rest = (some c.toNat, used)) :
    scalar b rest = (some c, used) := by
  rw [scalar, hlead]
  simp only [hfollow, Option.map_some, Char.ofNat_toNat]

theorem lead?_one {n : Nat} (hn : n < 0x80) :
    lead? n.toUInt8 = some ⟨0, 0x80, 0xBF, n⟩ := by
  simp only [lead?, toNat_toUInt8 (show n < 256 by omega), if_pos hn]

theorem lead?_two {m : Nat} (hlow : 2 ≤ m) (hhigh : m < 0x20) :
    lead? (0xC0 + m).toUInt8 = some ⟨1, 0x80, 0xBF, m⟩ := by
  simp only [lead?, toNat_toUInt8 (show 0xC0 + m < 256 by omega)]
  rw [if_neg (by omega), if_neg (by omega), if_pos (by omega), Nat.add_sub_cancel_left]

/-- Three bytes are announced in such a way that neither fewer would do nor a
surrogate can follow. -/
theorem exists_lead?_three {m k : Nat} (hm : m < 0x10) (hk : k < 0x40)
    (hshort : 0x20 ≤ m * 0x40 + k)
    (hsurrogate : m * 0x40 + k < 0x360 ∨ 0x380 ≤ m * 0x40 + k) :
    ∃ low high, lead? (0xE0 + m).toUInt8 = some ⟨2, low, high, m⟩ ∧
      low.toNat ≤ 0x80 + k ∧ 0x80 + k ≤ high.toNat := by
  simp only [lead?, toNat_toUInt8 (show 0xE0 + m < 256 by omega)]
  rw [if_neg (by omega), if_neg (by omega), if_neg (by omega)]
  by_cases hfirst : m = 0
  · subst hfirst
    exact ⟨0xA0, 0xBF, rfl, by simp; omega, by simp; omega⟩
  by_cases hlast : m = 0xD
  · subst hlast
    exact ⟨0x80, 0x9F, rfl, by simp, by simp; omega⟩
  refine ⟨0x80, 0xBF, ?_, by simp, by simp; omega⟩
  rw [if_neg (by omega), if_neg (by omega), if_pos (by omega), Nat.add_sub_cancel_left]

/-- Four bytes are announced in such a way that neither fewer would do nor the
range of characters is left. -/
theorem exists_lead?_four {m k : Nat} (hk : k < 0x40) (hshort : 0x10 ≤ m * 0x40 + k)
    (hlong : m * 0x40 + k < 0x110) :
    ∃ low high, lead? (0xF0 + m).toUInt8 = some ⟨3, low, high, m⟩ ∧
      low.toNat ≤ 0x80 + k ∧ 0x80 + k ≤ high.toNat := by
  simp only [lead?, toNat_toUInt8 (show 0xF0 + m < 256 by omega)]
  rw [if_neg (by omega), if_neg (by omega), if_neg (by omega), if_neg (by omega),
    if_neg (by omega), if_neg (by omega)]
  by_cases hfirst : m = 0
  · subst hfirst
    exact ⟨0x90, 0xBF, rfl, by simp; omega, by simp; omega⟩
  by_cases hlast : m = 4
  · subst hlast
    exact ⟨0x80, 0x8F, rfl, by simp, by simp; omega⟩
  refine ⟨0x80, 0xBF, ?_, by simp, by simp; omega⟩
  rw [if_neg (by omega), if_pos (by omega), Nat.add_sub_cancel_left]

/-- A character is read from its own bytes, whatever comes after them. -/
theorem exists_scalar_encodeChar (c : Char) :
    ∃ b rest, encodeChar c = b :: rest ∧
      ∀ more, scalar b (rest ++ more) = (some c, rest.length) := by
  have hvalid := c.valid
  have hn : c.toNat < 0xD800 ∨ 0xDFFF < c.toNat ∧ c.toNat < 0x110000 := hvalid
  unfold encodeChar
  generalize hc : c.toNat = n at hn
  dsimp only
  by_cases hone : n < 0x80
  · rw [if_pos hone]
    refine ⟨_, [], rfl, fun more => ?_⟩
    refine scalar_of_lead? (lead?_one hone) ?_
    rw [hc]
    rfl
  by_cases htwo : n < 0x800
  · rw [if_neg hone, if_pos htwo]
    refine ⟨_, [_], rfl, fun more => ?_⟩
    refine scalar_of_lead? (lead?_two (by omega) (by omega)) ?_
    rw [List.singleton_append, follow_continuation (by omega) (by simp) (by simp; omega),
      follow, hc, Nat.div_add_mod']
    rfl
  by_cases hthree : n < 0x10000
  · rw [if_neg hone, if_neg htwo, if_pos hthree]
    refine ⟨_, [_, _], rfl, fun more => ?_⟩
    have hsplit : n / 0x1000 * 0x40 + n / 0x40 % 0x40 = n / 0x40 := by omega
    obtain ⟨low, high, hlead, hlow, hhigh⟩ :=
      exists_lead?_three (m := n / 0x1000) (k := n / 0x40 % 0x40) (by omega) (by omega)
        (by omega) (by omega)
    refine scalar_of_lead? hlead ?_
    dsimp only
    rw [List.cons_append, List.singleton_append, follow_continuation (by omega) hlow hhigh,
      follow_continuation (by omega) (by simp) (by simp; omega), follow, hc, hsplit,
      Nat.div_add_mod']
    rfl
  · rw [if_neg hone, if_neg htwo, if_neg hthree]
    refine ⟨_, [_, _, _], rfl, fun more => ?_⟩
    have hsplit : n / 0x40000 * 0x40 + n / 0x1000 % 0x40 = n / 0x1000 := by omega
    have hsplit' : n / 0x1000 * 0x40 + n / 0x40 % 0x40 = n / 0x40 := by omega
    obtain ⟨low, high, hlead, hlow, hhigh⟩ :=
      exists_lead?_four (m := n / 0x40000) (k := n / 0x1000 % 0x40) (by omega) (by omega)
        (by omega)
    refine scalar_of_lead? hlead ?_
    dsimp only
    rw [List.cons_append, List.cons_append, List.singleton_append,
      follow_continuation (by omega) hlow hhigh,
      follow_continuation (by omega) (by simp) (by simp; omega),
      follow_continuation (by omega) (by simp) (by simp; omega), follow, hc, hsplit,
      hsplit', Nat.div_add_mod']
    rfl

theorem decodeOnto_length_append (done : List Char) (l more : List UInt8) :
    decodeOnto done l.length (l ++ more) = decodeOnto done 0 more := by
  induction l with
  | nil => rfl
  | cons b l ih => exact ih

theorem decodeOnto_encode_append (done cs : List Char) (more : List UInt8) :
    decodeOnto done 0 (encode cs ++ more) = decodeOnto (cs.reverse ++ done) 0 more := by
  induction cs generalizing done with
  | nil => rfl
  | cons c cs ih =>
      obtain ⟨b, rest, hencode, hscalar⟩ := exists_scalar_encodeChar c
      have hfirst : encode (c :: cs) ++ more = b :: (rest ++ (encode cs ++ more)) := by
        rw [encode, List.flatMap_cons, hencode, ← encode]
        simp
      rw [hfirst, decodeOnto, hscalar]
      dsimp only
      rw [decodeOnto_length_append, ih]
      simp

/-- A text is read as it was written. -/
theorem decode_encode (cs : List Char) : decode (encode cs) = cs := by
  have h := decodeOnto_encode_append [] cs []
  rw [List.append_nil, List.append_nil, decodeOnto, List.reverse_reverse] at h
  exact h

/-- Only the empty text has no bytes. -/
theorem encode_eq_nil_iff {cs : List Char} : encode cs = [] ↔ cs = [] := by
  constructor
  · intro h
    rw [← decode_encode cs, h]
    rfl
  · rintro rfl
    rfl

end FlightLink.Text.Utf8
