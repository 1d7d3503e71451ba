import FlightLink.Json.Printer
import FlightLink.Proofs.Json.Reading

/-!
# What is printed is read

The printed form of a string spells it, and that of a natural number has no leading
zero, so that both are read as what they were.  A printed object consists of its printed
members between braces.
-/

namespace FlightLink.Json

/-! ## Strings -/

theorem hexValue?_hexDigit {k : Nat} (hk : k < 16) :
    Text.hexValue? (Text.hexDigit k) = some k := by
  have hall : ∀ k < 16, Text.hexValue? (Text.hexDigit k) = some k := by decide
  exact hall k hk

/-- A control character is escaped by its code. -/
theorem unit?_hexDigit {n : Nat} (hn : n < 0x20) :
    unit? '0' '0' (Text.hexDigit (n / 16)) (Text.hexDigit (n % 16)) = some n := by
  have hzero : Text.hexValue? '0' = some 0 := rfl
  rw [unit?, hzero, hexValue?_hexDigit (by omega), hexValue?_hexDigit (by omega)]
  simp
  omega

/-- What a character is escaped as spells it. -/
theorem spells_escape_append {body cs : List Char} (c : Char) (h : Spells body cs) :
    Spells (escape c ++ body) (c :: cs) := by
  rw [escape]
  split_ifs with hquote hbackslash hn hr ht hb hf hcontrol
  · subst hquote
    exact .short (by decide) h
  · subst hbackslash
    exact .short (by decide) h
  · exact hn ▸ .short (by decide) h
  · exact hr ▸ .short (by decide) h
  · exact ht ▸ .short (by decide) h
  · exact hb ▸ .short (by decide) h
  · exact hf ▸ .short (by decide) h
  · have hspells := Spells.unit (unit?_hexDigit hcontrol) (by simp [isHighSurrogate]; omega)
      (by simp [isLowSurrogate]; omega) h
    rwa [Char.ofNat_toNat] at hspells
  · exact .plain ⟨by omega, hquote, hbackslash⟩ h

theorem spells_flatMap_escape (cs : List Char) : Spells (cs.flatMap escape) cs := by
  induction cs with
  | nil => exact .nil
  | cons c cs ih => exact spells_escape_append c ih

variable {size depth : Nat}

theorem reads_string (s : String) : Reads (value? .strict size depth) (quoted s) (.string s) := by
  intro rest _
  refine ⟨rest, ?_, rfl⟩
  have htext : quoted s ++ rest = '"' :: (s.toList.flatMap escape ++ '"' :: rest) := by
    simp [quoted]
  rw [htext, value?_string, (spells_flatMap_escape s.toList).string?_eq, String.ofList_toList]
  rfl

/-! ## Natural numbers -/

theorem ofDigits_digits (n : Nat) : ofDigits (digits n) = n := by
  have hsame : ofDigits (digits n) = Nat.ofDigitChars 10 (digits n) 0 := by
    simp only [ofDigits, Nat.ofDigitChars, Nat.mul_comm 10]
    rfl
  rw [hsame, digits, Nat.ofDigitChars_ten_toDigits]

/-- No zero leads, since dropping the last digit never leaves a zero. -/
theorem isWhole_digits (n : Nat) : IsWhole (digits n) := by
  refine ⟨⟨Nat.toDigits_ne_nil, fun c hc => Nat.isDigit_of_mem_toDigits (by omega) (by omega) hc⟩,
    ?_⟩
  rw [digits]
  induction n using Nat.strongRecOn with
  | ind n ih =>
      rw [Nat.toDigits_eq_if (by omega)]
      split
      · intro hhead
        rw [List.head?_cons, Option.some_inj] at hhead
        rw [hhead]
      · next hn =>
          rw [List.head?_append_of_ne_nil _ Nat.toDigits_ne_nil]
          intro hhead
          have hzero := congrArg ofDigits (ih (n / 10) (by omega) hhead)
          rw [← digits, ofDigits_digits] at hzero
          have : ofDigits ['0'] = 0 := rfl
          omega

theorem reads_nat (r : Rigour) (n : Nat) :
    Reads (value? r size depth) (Json.nat n).render (.nat n) := by
  intro rest hrest
  refine ⟨rest, ?_, rfl⟩
  have hrender : (Json.nat n).render = digits n := by
    simp [Json.nat, render, Number.render, Number.ofNat]
  have hwhole := isWhole_digits n
  have hf : fraction? rest = some (none, rest) :=
    fraction?_of_head?_ne fun hc => (hrest.not_number hc).2.1 rfl
  have he : exponent? rest = some (none, rest) :=
    exponent?_of_head?_ne (fun hc => (hrest.not_number hc).2.2.1 rfl)
      fun hc => (hrest.not_number hc).2.2.2 rfl
  have hread : number? (digits n ++ rest) = some (.ofNat n, rest) := by
    have hparts := number?_append [] (by simp) hwhole
      (fun c hc => (hrest.not_number hc).1) hf he
    rwa [List.nil_append, ofDigits_digits] at hparts
  obtain ⟨d, ds, hds⟩ := List.exists_cons_of_ne_nil hwhole.1.1
  have hd : d.isDigit = true := hwhole.1.2 d (hds ▸ List.mem_cons_self ..)
  rw [hrender, hds, List.cons_append, value?_number _ _ _ (.inr hd), ← List.cons_append, ← hds,
    hread]
  rfl

/-! ## Scalars -/

/-- A value without parts, all of whose numbers are natural. -/
inductive IsScalar : Json → Prop where
  | null : IsScalar .null
  | bool (b : Bool) : IsScalar (.bool b)
  | nat (n : Nat) : IsScalar (.nat n)
  | string (s : String) : IsScalar (.string s)

theorem IsScalar.reads {v : Json} (h : IsScalar v) :
    Reads (value? .strict size depth) v.render v := by
  cases h with
  | null => exact fun rest _ => ⟨rest, by rw [render, value?_null], rfl⟩
  | bool b =>
      cases b with
      | false => exact fun rest _ => ⟨rest, by rw [render, value?_false], rfl⟩
      | true => exact fun rest _ => ⟨rest, by rw [render, value?_true], rfl⟩
  | nat n => exact reads_nat .strict n
  | string s =>
      rw [render]
      exact reads_string s

/-! ## Objects -/

theorem renderMembers_eq (name : String) (value : Json) (members : List (String × Json)) :
    quoted name ++ ':' :: (value.render ++ renderMembers members) =
      [','].intercalate (((name, value) :: members).map fun m => quoted m.1 ++ ':' :: m.2.render) ++
        ['\x7d'] := by
  induction members generalizing name value with
  | nil => simp [renderMembers, List.intercalate]
  | cons m members ih =>
      obtain ⟨name', value'⟩ := m
      rw [renderMembers, ih]
      simp only [List.map_cons, intercalate_cons_cons, List.append_assoc, List.cons_append]

theorem render_object (members : List (String × Json)) :
    render (.object members) =
      bracketed '\x7b' '\x7d' [] (members.map fun m => quoted m.1 ++ ':' :: m.2.render) := by
  cases members with
  | nil => rfl
  | cons m members =>
      obtain ⟨name, value⟩ := m
      rw [render, renderMembers_eq]
      rfl

end FlightLink.Json
