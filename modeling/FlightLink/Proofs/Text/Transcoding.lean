import FlightLink.Proofs.Text.WellFormed

/-!
# What transcoding keeps

In UTF-8 every text is read as it was written, and bytes are written as they were read
exactly if they are well-formed.  In windows-1251 it is the other way round: every byte
is written as it was read, and a text is read as it was written exactly if the code page
has all of its characters.  The marks that others put before a text to announce its
byte order are neither written nor taken for anything but the characters they look like.
-/

namespace FlightLink

namespace Text.Windows1251

/-- The code page has the character. -/
def Has (c : Char) : Prop := c.toNat < 0x80 ∨ c.toNat ∈ upperHalf

theorem length_upperHalf : upperHalf.length = 0x80 := by simp [upperHalf]

/-- The alphabet comes last, and no other character is in its range. -/
theorem nodup_upperHalf : upperHalf.Nodup := by
  refine List.nodup_append.mpr ⟨by decide +kernel, ?_, ?_⟩
  · exact List.Pairwise.map _ (fun _ _ hne h => hne (Nat.add_left_cancel h)) List.nodup_range
  · intro m hm n hn
    obtain ⟨k, hk, rfl⟩ := List.mem_map.mp hn
    have hk : k < 64 := List.mem_range.mp hk
    have hout : m < 0x410 ∨ 0x450 ≤ m := by
      revert m
      decide +kernel
    omega

/-- The upper half has characters only, and none of those of the lower half. -/
theorem bounds_of_mem_upperHalf {n : Nat} (h : n ∈ upperHalf) : 0x80 ≤ n ∧ n < 0xD800 := by
  have hall : ∀ m ∈ upperHalf, 0x80 ≤ m ∧ m < 0xD800 := by decide +kernel
  exact hall n h

/-- A code point of the upper half has one place there. -/
theorem idxOf?_upperHalf_eq_some_iff {n i : Nat} :
    upperHalf.idxOf? n = some i ↔ upperHalf[i]? = some n := by
  rw [List.idxOf?_eq_some_iff, List.getElem?_eq_some_iff]
  constructor
  · rintro ⟨hi, hn, -⟩
    exact ⟨hi, hn⟩
  · rintro ⟨hi, hn⟩
    refine ⟨hi, hn, fun j hj hn' => ?_⟩
    have hsame := (List.getElem_inj nodup_upperHalf).mp (hn'.trans hn.symm)
    omega

/-- The characters of the bytes: the lower half as it is, the upper half by its table. -/
theorem decodeByte_eq_iff {b : UInt8} {c : Char} :
    decodeByte b = c ↔ b.toNat < 0x80 ∧ c.toNat = b.toNat ∨
      0x80 ≤ b.toNat ∧ upperHalf[b.toNat - 0x80]? = some c.toNat := by
  have hlt : b < 0x80 ↔ b.toNat < 0x80 := UInt8.lt_iff_toNat_lt
  by_cases hb : b.toNat < 0x80
  · rw [decodeByte, if_pos (hlt.mpr hb), ← Char.toNat_inj, Utf8.toNat_ofNat (by omega)]
    omega
  · have hi : b.toNat - 0x80 < upperHalf.length := by
      have := b.toNat_lt
      rw [length_upperHalf]
      omega
    have hbounds := bounds_of_mem_upperHalf (List.getElem_mem hi)
    rw [decodeByte, if_neg (hlt.not.mpr hb), List.getD_eq_getElem?_getD,
      List.getElem?_eq_getElem hi, Option.getD_some, ← Char.toNat_inj,
      Utf8.toNat_ofNat (by omega), Option.some_inj]
    omega

/-- The bytes of the characters, likewise. -/
theorem encodeChar?_eq_some_iff_toNat {c : Char} {b : UInt8} :
    encodeChar? c = some b ↔ b.toNat < 0x80 ∧ c.toNat = b.toNat ∨
      0x80 ≤ b.toNat ∧ upperHalf[b.toNat - 0x80]? = some c.toNat := by
  have hbyte := b.toNat_lt
  rw [encodeChar?]
  split
  · next hc =>
      rw [Option.some_inj, ← UInt8.toNat_inj, Utf8.toNat_toUInt8 (by omega)]
      constructor
      · intro h
        exact .inl ⟨by omega, h⟩
      · rintro (⟨-, h⟩ | ⟨-, h⟩)
        · exact h
        · have hbounds := bounds_of_mem_upperHalf (List.mem_of_getElem? h)
          omega
  · next hc =>
      rw [Option.map_eq_some_iff]
      constructor
      · rintro ⟨i, hi, rfl⟩
        have hget := idxOf?_upperHalf_eq_some_iff.mp hi
        have hlt := (List.getElem?_eq_some_iff.mp hget).1
        rw [length_upperHalf] at hlt
        rw [Utf8.toNat_toUInt8 (by omega), Nat.add_sub_cancel_left]
        exact .inr ⟨by omega, hget⟩
      · rintro (⟨hb, h⟩ | ⟨hb, h⟩)
        · omega
        · exact ⟨_, idxOf?_upperHalf_eq_some_iff.mpr h, Utf8.toUInt8_eq (by omega)⟩

/-- A character is written as the byte that stands for it. -/
theorem encodeChar?_eq_some_iff {c : Char} {b : UInt8} :
    encodeChar? c = some b ↔ decodeByte b = c :=
  encodeChar?_eq_some_iff_toNat.trans decodeByte_eq_iff.symm

theorem has_decodeByte (b : UInt8) : Has (decodeByte b) := by
  rcases decodeByte_eq_iff.mp (rfl : decodeByte b = decodeByte b) with ⟨hb, hc⟩ | ⟨-, hc⟩
  · exact .inl (hc ▸ hb)
  · exact .inr (List.mem_of_getElem? hc)

theorem exists_encodeChar? {c : Char} (h : Has c) : ∃ b, encodeChar? c = some b := by
  rw [← Option.isSome_iff_exists, encodeChar?]
  split
  · rfl
  · next hc =>
      rw [Option.isSome_map, List.isSome_idxOf?]
      exact h.resolve_left hc

end Text.Windows1251

namespace Charset

open Text

/-! ## windows-1251 -/

/-- Each byte is written as it was read. -/
theorem encode_decode_windows1251 (bytes : List UInt8) :
    windows1251.encode (windows1251.decode bytes) = bytes := by
  rw [decode, encode, String.toList_ofList]
  induction bytes with
  | nil => rfl
  | cons b bytes ih =>
      have hfirst : Windows1251.encodeChar? (Windows1251.decodeByte b) = some b :=
        Windows1251.encodeChar?_eq_some_iff.mpr rfl
      rw [List.map_cons, List.flatMap_cons, hfirst, ih]
      rfl

/-- A text is read as it was written if the code page has all of its characters.  Of no other
text does this hold, since nothing else is ever read. -/
theorem decode_encode_windows1251_iff {t : String} :
    windows1251.decode (windows1251.encode t) = t ↔ ∀ c ∈ t.toList, Windows1251.Has c := by
  constructor
  · intro h c hc
    rw [← h, decode, String.toList_ofList] at hc
    obtain ⟨b, -, rfl⟩ := List.mem_map.mp hc
    exact Windows1251.has_decodeByte b
  · intro h
    rw [decode, encode, ← String.toList_inj, String.toList_ofList]
    generalize t.toList = cs at h
    induction cs with
    | nil => rfl
    | cons c cs ih =>
        rw [List.forall_mem_cons] at h
        obtain ⟨b, hb⟩ := Windows1251.exists_encodeChar? h.1
        rw [List.flatMap_cons, hb, List.map_append, ih h.2, List.map_singleton,
          Windows1251.encodeChar?_eq_some_iff.mp hb]
        rfl

/-! ## UTF-8 -/

theorem decode_encode_utf8 (t : String) : utf8.decode (utf8.encode t) = t := by
  rw [decode, encode, Utf8.decode_encode, String.ofList_toList]

theorem encode_decode_utf8_iff {bytes : List UInt8} :
    utf8.encode (utf8.decode bytes) = bytes ↔ Utf8.WellFormed bytes := by
  rw [decode, encode, String.toList_ofList, Utf8.encode_decode_eq_iff]

/-! ## Marks of the byte order -/

/-- A text is written part by part: nothing comes before the first one. -/
theorem encode_append (charset : Charset) (t more : String) :
    charset.encode (t ++ more) = charset.encode t ++ charset.encode more := by
  cases charset with
  | utf8 => rw [encode, encode, encode, String.toList_append, Utf8.encode_append]
  | windows1251 => simp [encode]

/-- What is put before a text in UTF-8, or in UTF-16 of either byte order, to announce it. -/
def byteOrderMarks : List (List UInt8) :=
  [[0xEF, 0xBB, 0xBF], [0xFE, 0xFF], [0xFF, 0xFE]]

/-- The characters that the marks look like. -/
def markReadings : Charset → List String
  | utf8 => ["\uFEFF", "\uFFFD\uFFFD", "\uFFFD\uFFFD"]
  | windows1251 => ["п»ї", "юя", "яю"]

/-- The character of the mark is written like any other. -/
theorem encode_mark :
    utf8.encode "\uFEFF" = [0xEF, 0xBB, 0xBF] ∧
    windows1251.encode "\uFEFF" = reference '\uFEFF' := by
  decide

theorem decode_utf8_mark (bytes : List UInt8) :
    utf8.decode ([0xEF, 0xBB, 0xBF] ++ bytes) = "\uFEFF" ++ utf8.decode bytes := by
  have hmark : Utf8.encode ['\uFEFF'] = [0xEF, 0xBB, 0xBF] := rfl
  rw [← hmark, decode, Utf8.decode_encode_append, String.ofList_append]
  rfl

theorem decode_utf8_utf16Mark {b b' : UInt8} (hb : Utf8.lead? b = none) (hb' : Utf8.lead? b' = none)
    (bytes : List UInt8) :
    utf8.decode ([b, b'] ++ bytes) = "\uFFFD\uFFFD" ++ utf8.decode bytes := by
  rw [decode, List.cons_append, List.singleton_append, Utf8.decode_cons_of_lead?_eq_none hb,
    Utf8.decode_cons_of_lead?_eq_none hb']
  exact @String.ofList_append [Utf8.replacement, Utf8.replacement] _

theorem decode_windows1251_append (bytes more : List UInt8) :
    windows1251.decode (bytes ++ more) = windows1251.decode bytes ++ windows1251.decode more := by
  rw [decode, decode, decode, List.map_append, String.ofList_append]

/-- A mark before a text is read as characters before it. -/
theorem decode_mark (charset : Charset) :
    List.Forall₂ (fun mark reading =>
        ∀ bytes, charset.decode (mark ++ bytes) = reading ++ charset.decode bytes)
      byteOrderMarks charset.markReadings := by
  cases charset with
  | utf8 =>
      exact .cons decode_utf8_mark (.cons (decode_utf8_utf16Mark rfl rfl)
        (.cons (decode_utf8_utf16Mark rfl rfl) .nil))
  | windows1251 =>
      exact .cons (decode_windows1251_append _) (.cons (decode_windows1251_append _)
        (.cons (decode_windows1251_append _) .nil))

/-- Transcoding loses nothing that it can carry, and neither adds a mark nor heeds one. -/
theorem transcoding_exact :
    (∀ t, utf8.decode (utf8.encode t) = t) ∧
    (∀ bytes, utf8.encode (utf8.decode bytes) = bytes ↔ Utf8.WellFormed bytes) ∧
    (∀ bytes, windows1251.encode (windows1251.decode bytes) = bytes) ∧
    (∀ t, windows1251.decode (windows1251.encode t) = t ↔
      ∀ c ∈ t.toList, Windows1251.Has c) ∧
    (utf8.encode "\uFEFF" = [0xEF, 0xBB, 0xBF] ∧
      windows1251.encode "\uFEFF" = reference '\uFEFF') ∧
    ∀ charset : Charset,
      (∀ t more, charset.encode (t ++ more) = charset.encode t ++ charset.encode more) ∧
      List.Forall₂ (fun mark reading =>
          ∀ bytes, charset.decode (mark ++ bytes) = reading ++ charset.decode bytes)
        byteOrderMarks charset.markReadings :=
  ⟨decode_encode_utf8, fun _ => encode_decode_utf8_iff, encode_decode_windows1251,
    fun _ => decode_encode_windows1251_iff, encode_mark,
    fun charset => ⟨charset.encode_append, charset.decode_mark⟩⟩

end Charset

end FlightLink
