import FlightLink.Proofs.Text.Utf8

/-!
# Well-formed UTF-8

The standard lists the forms of the byte sequences that stand for a character, each as
the ranges of its bytes one after another.  Bytes are well-formed if they are such
sequences one after another, and these are exactly the bytes of texts.  Reading bytes
loses nothing if and only if they are well-formed.
-/

namespace FlightLink.Text.Utf8

/-- The bytes that continue a sequence, as a range. -/
def continuation : Nat × Nat := (0x80, 0xBF)

/-- The forms of sequences: the least and the greatest value of each byte. -/
def forms : List (List (Nat × Nat)) :=
  [[(0x00, 0x7F)],
   [(0xC2, 0xDF), continuation],
   [(0xE0, 0xE0), (0xA0, 0xBF), continuation],
   [(0xE1, 0xEC), continuation, continuation],
   [(0xED, 0xED), (0x80, 0x9F), continuation],
   [(0xEE, 0xEF), continuation, continuation],
   [(0xF0, 0xF0), (0x90, 0xBF), continuation, continuation],
   [(0xF1, 0xF3), continuation, continuation, continuation],
   [(0xF4, 0xF4), (0x80, 0x8F), continuation, continuation]]

def InRange (b : UInt8) (range : Nat × Nat) : Prop :=
  range.1 ≤ b.toNat ∧ b.toNat ≤ range.2

/-- The bytes have one of the forms. -/
def IsSequence (bytes : List UInt8) : Prop :=
  ∃ form ∈ forms, List.Forall₂ InRange bytes form

/-- The bytes are sequences one after another. -/
def WellFormed (bytes : List UInt8) : Prop :=
  ∃ sequences : List (List UInt8), (∀ q ∈ sequences, IsSequence q) ∧ bytes = sequences.flatten

/-! ## The bytes of a character have one of the forms -/

theorem inRange_toUInt8 {m low high : Nat} (hm : m < 256) (hlow : low ≤ m) (hhigh : m ≤ high) :
    InRange m.toUInt8 (low, high) := by
  rw [InRange, toNat_toUInt8 hm]
  exact ⟨hlow, hhigh⟩

theorem inRange_continuation {k : Nat} (hk : k < 0x40) :
    InRange (0x80 + k).toUInt8 continuation :=
  inRange_toUInt8 (by omega) (by omega) (by omega)

theorem isSequence_encodeChar (c : Char) : IsSequence (encodeChar c) := by
  have hvalid := c.valid
  have hn : c.toNat < 0xD800 ∨ 0xDFFF < c.toNat ∧ c.toNat < 0x110000 := hvalid
  unfold encodeChar
  generalize c.toNat = n at hn
  dsimp only
  by_cases hone : n < 0x80
  · rw [if_pos hone]
    exact ⟨[(0x00, 0x7F)], by decide, .cons (inRange_toUInt8 (by omega) (by omega) (by omega)) .nil⟩
  by_cases htwo : n < 0x800
  · rw [if_neg hone, if_pos htwo]
    exact ⟨[(0xC2, 0xDF), continuation], by decide,
      .cons (inRange_toUInt8 (by omega) (by omega) (by omega))
        (.cons (inRange_continuation (by omega)) .nil)⟩
  by_cases hthree : n < 0x10000
  · rw [if_neg hone, if_neg htwo, if_pos hthree]
    have hlast : List.Forall₂ InRange [(0x80 + n % 0x40).toUInt8] [continuation] :=
      .cons (inRange_continuation (by omega)) .nil
    -- The first of the six bits that the first byte leaves decide about the form.
    rcases (show n / 0x1000 = 0 ∨ 1 ≤ n / 0x1000 ∧ n / 0x1000 ≤ 0xC ∨ n / 0x1000 = 0xD ∨
        0xE ≤ n / 0x1000 ∧ n / 0x1000 ≤ 0xF by omega) with h | h | h | h
    · exact ⟨[(0xE0, 0xE0), (0xA0, 0xBF), continuation], by decide,
        .cons (inRange_toUInt8 (by omega) (by omega) (by omega))
          (.cons (inRange_toUInt8 (by omega) (by omega) (by omega)) hlast)⟩
    · exact ⟨[(0xE1, 0xEC), continuation, continuation], by decide,
        .cons (inRange_toUInt8 (by omega) (by omega) (by omega))
          (.cons (inRange_continuation (by omega)) hlast)⟩
    · exact ⟨[(0xED, 0xED), (0x80, 0x9F), continuation], by decide,
        .cons (inRange_toUInt8 (by omega) (by omega) (by omega))
          (.cons (inRange_toUInt8 (by omega) (by omega) (by omega)) hlast)⟩
    · exact ⟨[(0xEE, 0xEF), continuation, continuation], by decide,
        .cons (inRange_toUInt8 (by omega) (by omega) (by omega))
          (.cons (inRange_continuation (by omega)) hlast)⟩
  · rw [if_neg hone, if_neg htwo, if_neg hthree]
    have hlast : List.Forall₂ InRange
        [(0x80 + n / 0x40 % 0x40).toUInt8, (0x80 + n % 0x40).toUInt8]
        [continuation, continuation] :=
      .cons (inRange_continuation (by omega)) (.cons (inRange_continuation (by omega)) .nil)
    rcases (show n / 0x40000 = 0 ∨ 1 ≤ n / 0x40000 ∧ n / 0x40000 ≤ 3 ∨ n / 0x40000 = 4 by
      omega) with h | h | h
    · exact ⟨[(0xF0, 0xF0), (0x90, 0xBF), continuation, continuation], by decide,
        .cons (inRange_toUInt8 (by omega) (by omega) (by omega))
          (.cons (inRange_toUInt8 (by omega) (by omega) (by omega)) hlast)⟩
    · exact ⟨[(0xF1, 0xF3), continuation, continuation, continuation], by decide,
        .cons (inRange_toUInt8 (by omega) (by omega) (by omega))
          (.cons (inRange_continuation (by omega)) hlast)⟩
    · exact ⟨[(0xF4, 0xF4), (0x80, 0x8F), continuation, continuation], by decide,
        .cons (inRange_toUInt8 (by omega) (by omega) (by omega))
          (.cons (inRange_toUInt8 (by omega) (by omega) (by omega)) hlast)⟩

/-! ## Each form stands for characters -/

theorem toUInt8_eq {m : Nat} {b : UInt8} (h : m = b.toNat) : m.toUInt8 = b := by
  subst h
  exact UInt8.ofNat_toNat

theorem toNat_ofNat {n : Nat} (hn : n < 0xD800 ∨ 0xDFFF < n ∧ n < 0x110000) :
    (Char.ofNat n).toNat = n := by
  have hvalid : n.isValidChar := hn
  rw [Char.ofNat, dif_pos hvalid]
  rfl

theorem exists_encodeChar_one {a : UInt8} (ha : InRange a (0x00, 0x7F)) :
    ∃ c, encodeChar c = [a] := by
  obtain ⟨-, ha⟩ := ha
  dsimp only at ha
  refine ⟨Char.ofNat a.toNat, ?_⟩
  rw [encodeChar, toNat_ofNat (by omega)]
  rw [if_pos (by omega), toUInt8_eq rfl]

theorem exists_encodeChar_two {a b : UInt8} (ha : InRange a (0xC2, 0xDF))
    (hb : InRange b continuation) : ∃ c, encodeChar c = [a, b] := by
  obtain ⟨ha, ha'⟩ := ha
  obtain ⟨hb, hb'⟩ := hb
  dsimp only [continuation] at *
  refine ⟨Char.ofNat ((a.toNat - 0xC0) * 0x40 + (b.toNat - 0x80)), ?_⟩
  rw [encodeChar, toNat_ofNat (by omega)]
  rw [if_neg (by omega), if_pos (by omega), toUInt8_eq (b := a) (by omega),
    toUInt8_eq (b := b) (by omega)]

theorem exists_encodeChar_three {a b c : UInt8} (ha : InRange a (0xE0, 0xEF))
    (hb : InRange b continuation) (hc : InRange c continuation)
    (hshort : a.toNat = 0xE0 → 0xA0 ≤ b.toNat) (hsurrogate : a.toNat = 0xED → b.toNat ≤ 0x9F) :
    ∃ x, encodeChar x = [a, b, c] := by
  obtain ⟨ha, ha'⟩ := ha
  obtain ⟨hb, hb'⟩ := hb
  obtain ⟨hc, hc'⟩ := hc
  dsimp only [continuation] at *
  refine ⟨Char.ofNat
    ((a.toNat - 0xE0) * 0x1000 + (b.toNat - 0x80) * 0x40 + (c.toNat - 0x80)), ?_⟩
  rw [encodeChar, toNat_ofNat (by omega)]
  rw [if_neg (by omega), if_neg (by omega), if_pos (by omega), toUInt8_eq (b := a) (by omega),
    toUInt8_eq (b := b) (by omega), toUInt8_eq (b := c) (by omega)]

theorem exists_encodeChar_four {a b c d : UInt8} (ha : InRange a (0xF0, 0xF4))
    (hb : InRange b continuation) (hc : InRange c continuation) (hd : InRange d continuation)
    (hshort : a.toNat = 0xF0 → 0x90 ≤ b.toNat) (hlong : a.toNat = 0xF4 → b.toNat ≤ 0x8F) :
    ∃ x, encodeChar x = [a, b, c, d] := by
  obtain ⟨ha, ha'⟩ := ha
  obtain ⟨hb, hb'⟩ := hb
  obtain ⟨hc, hc'⟩ := hc
  obtain ⟨hd, hd'⟩ := hd
  dsimp only [continuation] at *
  refine ⟨Char.ofNat ((a.toNat - 0xF0) * 0x40000 + (b.toNat - 0x80) * 0x1000 +
    (c.toNat - 0x80) * 0x40 + (d.toNat - 0x80)), ?_⟩
  rw [encodeChar, toNat_ofNat (by omega)]
  rw [if_neg (by omega), if_neg (by omega), if_neg (by omega), toUInt8_eq (b := a) (by omega),
    toUInt8_eq (b := b) (by omega), toUInt8_eq (b := c) (by omega),
    toUInt8_eq (b := d) (by omega)]

theorem InRange.mono {b : UInt8} {low high low' high' : Nat} (h : InRange b (low, high))
    (hlow : low' ≤ low) (hhigh : high ≤ high') : InRange b (low', high') :=
  ⟨Nat.le_trans hlow h.1, Nat.le_trans h.2 hhigh⟩

/-- Bytes of one of the forms stand for a character. -/
theorem IsSequence.exists_encodeChar {bytes : List UInt8} (h : IsSequence bytes) :
    ∃ c, encodeChar c = bytes := by
  obtain ⟨form, hform, hbytes⟩ := h
  simp only [forms, List.mem_cons, List.not_mem_nil, or_false] at hform
  rcases hform with rfl | rfl | rfl | rfl | rfl | rfl | rfl | rfl | rfl
  · obtain _ | ⟨ha, _ | _⟩ := hbytes
    exact exists_encodeChar_one ha
  · obtain _ | ⟨ha, _ | ⟨hb, _ | _⟩⟩ := hbytes
    exact exists_encodeChar_two ha hb
  · obtain _ | ⟨ha, _ | ⟨hb, _ | ⟨hc, _ | _⟩⟩⟩ := hbytes
    have hfirst := ha.2
    exact exists_encodeChar_three (ha.mono (by omega) (by omega)) (hb.mono (by omega) (by omega))
      hc (fun _ => hb.1) (by omega)
  · obtain _ | ⟨ha, _ | ⟨hb, _ | ⟨hc, _ | _⟩⟩⟩ := hbytes
    have hfirst := ha.1
    have hlast := ha.2
    exact exists_encodeChar_three (ha.mono (by omega) (by omega)) hb hc (by omega) (by omega)
  · obtain _ | ⟨ha, _ | ⟨hb, _ | ⟨hc, _ | _⟩⟩⟩ := hbytes
    have hfirst := ha.1
    exact exists_encodeChar_three (ha.mono (by omega) (by omega)) (hb.mono (by omega) (by omega))
      hc (by omega) (fun _ => hb.2)
  · obtain _ | ⟨ha, _ | ⟨hb, _ | ⟨hc, _ | _⟩⟩⟩ := hbytes
    have hfirst := ha.1
    exact exists_encodeChar_three (ha.mono (by omega) (by omega)) hb hc (by omega) (by omega)
  · obtain _ | ⟨ha, _ | ⟨hb, _ | ⟨hc, _ | ⟨hd, _ | _⟩⟩⟩⟩ := hbytes
    have hlast := ha.2
    exact exists_encodeChar_four (ha.mono (by omega) (by omega)) (hb.mono (by omega) (by omega))
      hc hd (fun _ => hb.1) (by omega)
  · obtain _ | ⟨ha, _ | ⟨hb, _ | ⟨hc, _ | ⟨hd, _ | _⟩⟩⟩⟩ := hbytes
    have hfirst := ha.1
    have hlast := ha.2
    exact exists_encodeChar_four (ha.mono (by omega) (by omega)) hb hc hd (by omega) (by omega)
  · obtain _ | ⟨ha, _ | ⟨hb, _ | ⟨hc, _ | ⟨hd, _ | _⟩⟩⟩⟩ := hbytes
    have hfirst := ha.1
    exact exists_encodeChar_four (ha.mono (by omega) (by omega)) (hb.mono (by omega) (by omega))
      hc hd (by omega) (fun _ => hb.2)

/-! ## Well-formed bytes are the bytes of texts -/

theorem wellFormed_encode (cs : List Char) : WellFormed (encode cs) := by
  refine ⟨cs.map encodeChar, ?_, List.flatMap_def⟩
  intro q hq
  obtain ⟨c, -, rfl⟩ := List.mem_map.mp hq
  exact isSequence_encodeChar c

theorem WellFormed.exists_encode {bytes : List UInt8} (h : WellFormed bytes) :
    ∃ cs, encode cs = bytes := by
  obtain ⟨sequences, hall, rfl⟩ := h
  induction sequences with
  | nil => exact ⟨[], rfl⟩
  | cons q sequences ih =>
      rw [List.forall_mem_cons] at hall
      obtain ⟨c, hc⟩ := hall.1.exists_encodeChar
      obtain ⟨cs, hcs⟩ := ih hall.2
      refine ⟨c :: cs, ?_⟩
      rw [encode, List.flatMap_cons, hc, ← encode, hcs, List.flatten_cons]

/-- Reading bytes and writing them again changes nothing if and only if they are well-formed. -/
theorem encode_decode_eq_iff {bytes : List UInt8} :
    encode (decode bytes) = bytes ↔ WellFormed bytes := by
  constructor
  · intro h
    rw [← h]
    exact wellFormed_encode _
  · intro h
    obtain ⟨cs, rfl⟩ := h.exists_encode
    rw [decode_encode]

/-! ## Parts of a text -/

theorem encode_append (cs more : List Char) : encode (cs ++ more) = encode cs ++ encode more :=
  List.flatMap_append

/-- What has been read before stays in front. -/
theorem decodeOnto_eq (done : List Char) (skip : Nat) (bytes : List UInt8) :
    decodeOnto done skip bytes = done.reverse ++ decodeOnto [] skip bytes := by
  induction bytes generalizing done skip with
  | nil => simp [decodeOnto]
  | cons b rest ih =>
      cases skip with
      | succ skip => exact ih done skip
      | zero =>
          simp only [decodeOnto]
          rw [ih, ih [_]]
          simp

/-- A text is read as it was written, whatever comes after it. -/
theorem decode_encode_append (cs : List Char) (bytes : List UInt8) :
    decode (encode cs ++ bytes) = cs ++ decode bytes := by
  rw [decode, decodeOnto_encode_append, decodeOnto_eq]
  simp [decode]

/-- A byte that no sequence starts with is replaced, and reading goes on after it. -/
theorem decode_cons_of_lead?_eq_none {b : UInt8} (h : lead? b = none) (bytes : List UInt8) :
    decode (b :: bytes) = replacement :: decode bytes := by
  rw [decode, decodeOnto, scalar, h]
  exact decodeOnto_eq _ _ _

end FlightLink.Text.Utf8
