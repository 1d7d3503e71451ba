import FlightLink.Proofs.Json.Grammar
import Mathlib.Data.List.DropRight
import Mathlib.Data.List.Forall2

/-!
# What the grammar derives is read

A reader reads a text if it takes all of it, and at most the blanks after it, whatever
comes next.  Items that are read one by one are read together between brackets, and a
member of an object is read if its name and its value are.  By induction on the grammar,
every JSON text is read laxly, however deep it is nested.
-/

namespace FlightLink.Json

/-! ## Blanks -/

theorem skip_append {blanks : List Char} (h : Blanks blanks) (rest : List Char) :
    skip (blanks ++ rest) = skip rest :=
  List.dropWhile_append_of_pos h

theorem skip_cons_of_not_blank {c : Char} (h : isBlank c = false) (rest : List Char) :
    skip (c :: rest) = c :: rest := by
  rw [skip, List.dropWhile_cons_of_neg (by simp [h])]

theorem skip_skip (text : List Char) : skip (skip text) = skip text :=
  List.dropWhile_idempotent _ _

/-- What may come after a value: the end of the text, a blank, or what ends an item. -/
def Ends (rest : List Char) : Prop :=
  ∀ c, rest.head? = some c → isBlank c = true ∨ c = ',' ∨ c = ']' ∨ c = '\x7d'

theorem ends_cons {c : Char} {rest : List Char} (h : c = ',' ∨ c = ']' ∨ c = '\x7d') :
    Ends (c :: rest) := by
  intro c' hc'
  cases hc'
  exact .inr h

theorem Ends.append {blanks rest : List Char} (hblanks : Blanks blanks) (h : Ends rest) :
    Ends (blanks ++ rest) := by
  cases blanks with
  | nil => exact h
  | cons c blanks =>
      intro c' hc'
      cases hc'
      exact .inl (hblanks c (List.mem_cons_self ..))

theorem ends_of_blanks {blanks : List Char} (h : Blanks blanks) : Ends blanks :=
  fun c hc => .inl (h c (List.mem_of_mem_head? hc))

/-- What comes after a value does not continue a number. -/
theorem Ends.not_number {rest : List Char} (h : Ends rest) {c : Char}
    (hc : rest.head? = some c) : c.isDigit = false ∧ c ≠ '.' ∧ c ≠ 'e' ∧ c ≠ 'E' := by
  have hcases : c = ' ' ∨ c = '\n' ∨ c = '\t' ∨ c = '\r' ∨ c = ',' ∨ c = ']' ∨ c = '\x7d' := by
    have := h c hc
    simp only [isBlank, Bool.or_eq_true, beq_iff_eq] at this
    tauto
  rcases hcases with rfl | rfl | rfl | rfl | rfl | rfl | rfl <;> decide

/-! ## Strings -/

theorem unescape?_of_mem {c e : Char} (h : (c, e) ∈ shortEscapes) : unescape? c = some e := by
  have hall : ∀ p ∈ shortEscapes, unescape? p.1 = some p.2 := by decide
  exact hall _ h

theorem ne_u_of_mem {c e : Char} (h : (c, e) ∈ shortEscapes) : c ≠ 'u' := by
  have hall : ∀ p ∈ shortEscapes, p.1 ≠ 'u' := by decide
  exact hall _ h

variable {r : Rigour} {done done' : List Char} {high? : Option Nat}

theorem stringOnto_plain {c : Char} (hc : IsPlain c) (hdone : settled? r done high? = some done')
    (rest : List Char) :
    stringOnto r done high? (c :: rest) = stringOnto r (c :: done') none rest := by
  obtain ⟨hcontrol, hquote, hbackslash⟩ := hc
  have hgood : ¬ (decide (c.toNat < 0x20) || c == '\\') = true := by
    simp [hbackslash]
    omega
  rw [stringOnto.eq_5 _ _ _ _ _ hquote (fun _ _ _ _ _ h _ => hbackslash h)
    (fun _ _ h _ => hbackslash h), if_neg hgood, hdone]

theorem stringOnto_short {c e : Char} (hc : (c, e) ∈ shortEscapes)
    (hdone : settled? r done high? = some done') (rest : List Char) :
    stringOnto r done high? ('\\' :: c :: rest) = stringOnto r (e :: done') none rest := by
  rw [stringOnto.eq_4 _ _ _ _ _ (fun _ _ _ _ _ h _ => ne_u_of_mem hc h), unescape?_of_mem hc,
    hdone]

theorem stringOnto_unit {a b c d : Char} {n : Nat} (hn : unit? a b c d = some n)
    (hhigh : isHighSurrogate n = false) (hlow : isLowSurrogate n = false)
    (hdone : settled? r done high? = some done') (rest : List Char) :
    stringOnto r done high? ('\\' :: 'u' :: a :: b :: c :: d :: rest) =
      stringOnto r (Char.ofNat n :: done') none rest := by
  rw [stringOnto, hn]
  simp only [hlow, hdone, hhigh, Bool.false_eq_true, if_false]

theorem stringOnto_high {a b c d : Char} {n : Nat} (hn : unit? a b c d = some n)
    (hhigh : isHighSurrogate n = true) (hdone : settled? r done high? = some done')
    (rest : List Char) :
    stringOnto r done high? ('\\' :: 'u' :: a :: b :: c :: d :: rest) =
      stringOnto r done' (some n) rest := by
  have hlow : isLowSurrogate n = false := by
    simp only [isHighSurrogate, Bool.and_eq_true, decide_eq_true_eq] at hhigh
    simp only [isLowSurrogate, Bool.and_eq_false_iff, decide_eq_false_iff_not]
    omega
  rw [stringOnto, hn]
  simp only [hlow, hdone, hhigh, Bool.false_eq_true, if_false, if_true]

theorem stringOnto_low {a b c d e : Char} {n : Nat} (hn : unit? a b c d = some n)
    (hlow : isLowSurrogate n = true)
    (he : (high?.map (pairChar · n) <|> r.loneHalf?) = some e) (rest : List Char) :
    stringOnto r done high? ('\\' :: 'u' :: a :: b :: c :: d :: rest) =
      stringOnto r (e :: done) none rest := by
  rw [stringOnto, hn]
  simp only [hlow, he, if_true]

/-- What is spelled is read strictly. -/
theorem Spells.stringOnto_eq {body cs : List Char} (h : Spells body cs) (done rest : List Char) :
    stringOnto .strict done none (body ++ '"' :: rest) = some (done.reverse ++ cs, rest) := by
  induction h generalizing done with
  | nil => simp [stringOnto, settled?]
  | plain hc _ ih =>
      rw [List.cons_append, stringOnto_plain hc rfl, ih]
      simp
  | short hc _ ih =>
      rw [List.cons_append, List.cons_append, stringOnto_short hc rfl, ih]
      simp
  | unit hn hhigh hlow _ ih =>
      simp only [List.cons_append]
      rw [stringOnto_unit hn hhigh hlow rfl, ih]
      simp
  | pair hn hhigh hn' hlow _ ih =>
      simp only [List.cons_append]
      rw [stringOnto_high hn hhigh rfl, stringOnto_low hn' hlow rfl, ih]
      simp

/-- Any string is read laxly. -/
theorem IsStringBody.exists_stringOnto {body : List Char} (h : IsStringBody body)
    (done : List Char) (high? : Option Nat) :
    ∃ cs, ∀ rest, stringOnto .lax done high? (body ++ '"' :: rest) = some (cs, rest) := by
  have hsettled : ∀ (done : List Char) (high? : Option Nat),
      ∃ done', settled? .lax done high? = some done' := by
    rintro done (_ | high)
    · exact ⟨_, rfl⟩
    · exact ⟨_, rfl⟩
  induction h generalizing done high? with
  | nil =>
      obtain ⟨done', hdone⟩ := hsettled done high?
      refine ⟨done'.reverse, fun rest => ?_⟩
      rw [List.nil_append, stringOnto, hdone]
      rfl
  | @plain c body hc _ ih =>
      obtain ⟨done', hdone⟩ := hsettled done high?
      obtain ⟨cs, hcs⟩ := ih (c :: done') none
      exact ⟨cs, fun rest => by rw [List.cons_append, stringOnto_plain hc hdone, hcs]⟩
  | @short c e body hc _ ih =>
      obtain ⟨done', hdone⟩ := hsettled done high?
      obtain ⟨cs, hcs⟩ := ih (e :: done') none
      refine ⟨cs, fun rest => ?_⟩
      rw [List.cons_append, List.cons_append, stringOnto_short hc hdone, hcs]
  | @unit a b c d n body hn _ ih =>
      obtain ⟨done', hdone⟩ := hsettled done high?
      simp only [List.cons_append]
      cases hlow : isLowSurrogate n with
      | true =>
          obtain ⟨e, he⟩ : ∃ e, (high?.map (pairChar · n) <|> Rigour.lax.loneHalf?) = some e := by
            rcases high? with _ | high
            · exact ⟨_, rfl⟩
            · exact ⟨_, rfl⟩
          obtain ⟨cs, hcs⟩ := ih (e :: done) none
          exact ⟨cs, fun rest => by rw [stringOnto_low hn hlow he, hcs]⟩
      | false =>
          cases hhigh : isHighSurrogate n with
          | true =>
              obtain ⟨cs, hcs⟩ := ih done' (some n)
              exact ⟨cs, fun rest => by rw [stringOnto_high hn hhigh hdone, hcs]⟩
          | false =>
              obtain ⟨cs, hcs⟩ := ih (Char.ofNat n :: done') none
              exact ⟨cs, fun rest => by rw [stringOnto_unit hn hhigh hlow hdone, hcs]⟩

theorem Spells.string?_eq {body cs : List Char} (h : Spells body cs) (rest : List Char) :
    string? .strict ('"' :: (body ++ '"' :: rest)) = some (String.ofList cs, rest) := by
  rw [string?, h.stringOnto_eq]
  rfl

theorem IsStringBody.exists_string? {body : List Char} (h : IsStringBody body) :
    ∃ s, ∀ rest, string? .lax ('"' :: (body ++ '"' :: rest)) = some (s, rest) := by
  obtain ⟨cs, hcs⟩ := h.exists_stringOnto [] none
  exact ⟨String.ofList cs, fun rest => by rw [string?, hcs]; rfl⟩

/-! ## Numbers -/

/-- The text does not go on with a digit. -/
def NoDigit (rest : List Char) : Prop := ∀ c, rest.head? = some c → c.isDigit = false

theorem digits?_append {ds rest : List Char} (hds : IsDigits ds) (hrest : NoDigit rest) :
    digits? (ds ++ rest) = some (ds, rest) := by
  obtain ⟨hne, hall⟩ := hds
  have htake : (ds ++ rest).takeWhile Char.isDigit = ds := by
    rw [List.takeWhile_append_of_pos hall]
    cases rest with
    | nil => simp
    | cons c rest => simp [hrest c rfl]
  have hdrop : (ds ++ rest).dropWhile Char.isDigit = rest := by
    rw [List.dropWhile_append_of_pos hall]
    cases rest with
    | nil => simp
    | cons c rest => simp [hrest c rfl]
  rw [digits?, span, htake, hdrop]
  simp [hne]

theorem whole?_append {ds rest : List Char} (hds : IsWhole ds) (hrest : NoDigit rest) :
    whole? (ds ++ rest) = some (ofDigits ds, rest) := by
  have hzero : ¬ ((ds.head? == some '0' && decide (ds.length > 1)) = true) := by
    simp only [Bool.and_eq_true, beq_iff_eq, decide_eq_true_eq]
    rintro ⟨hhead, hlength⟩
    rw [hds.2 hhead] at hlength
    simp at hlength
  rw [whole?, digits?_append hds.1 hrest]
  simp only [Option.bind_eq_bind, Option.bind_some, if_neg hzero]
  rfl

theorem fraction?_of_head?_ne {rest : List Char} (hpoint : rest.head? ≠ some '.') :
    fraction? rest = some (none, rest) := by
  cases rest with
  | nil => rfl
  | cons c rest =>
      rw [fraction?]
      rintro rest' ⟨⟩
      exact hpoint rfl

theorem IsFraction.exists_fraction? {t : List Char} (h : IsFraction t) :
    ∃ f, ∀ rest, NoDigit rest → rest.head? ≠ some '.' →
      fraction? (t ++ rest) = some (f, rest) := by
  cases h with
  | absent =>
      exact ⟨none, fun rest _ hpoint => fraction?_of_head?_ne hpoint⟩
  | @digits ds hds =>
      refine ⟨some ds, fun rest hrest _ => ?_⟩
      rw [List.cons_append, fraction?, digits?_append hds hrest]
      rfl

theorem exponent?_of_head?_ne {rest : List Char} (hsmall : rest.head? ≠ some 'e')
    (hlarge : rest.head? ≠ some 'E') : exponent? rest = some (none, rest) := by
  cases rest with
  | nil => rfl
  | cons c rest =>
      have hc : ¬ (c = 'e' ∨ c = 'E') := by
        rintro (rfl | rfl)
        · exact hsmall rfl
        · exact hlarge rfl
      unfold exponent?
      dsimp only
      rw [if_neg hc]

theorem IsExponent.exists_exponent? {t : List Char} (h : IsExponent t) :
    ∃ e, ∀ rest, NoDigit rest → rest.head? ≠ some 'e' → rest.head? ≠ some 'E' →
      exponent? (t ++ rest) = some (e, rest) := by
  cases h with
  | absent =>
      exact ⟨none, fun rest _ hsmall hlarge => exponent?_of_head?_ne hsmall hlarge⟩
  | @digits mark sign ds hmark hsign hds =>
      simp only [List.mem_cons, List.not_mem_nil, or_false] at hsign
      refine ⟨some (sign ++ ds), fun rest hrest _ _ => ?_⟩
      have hread := digits?_append hds hrest
      rw [List.cons_append, List.append_assoc]
      unfold exponent?
      dsimp only
      rw [if_pos hmark]
      rcases hsign with rfl | rfl | rfl
      · have hfirst : ∀ c more, ds ++ rest = c :: more → c.isDigit = true := by
          intro c more hc
          cases ds with
          | nil => exact absurd rfl hds.1
          | cons d ds =>
              cases hc
              exact hds.2 _ (List.mem_cons_self ..)
        rw [List.nil_append]
        split
        · next h => exact absurd (hfirst _ _ h) (by decide)
        · next h => exact absurd (hfirst _ _ h) (by decide)
        · rw [hread]
          rfl
      · rw [List.singleton_append]
        simp only [hread]
        rfl
      · rw [List.singleton_append]
        simp only [hread]
        rfl

/-- A number is read part by part. -/
theorem number?_append (sign : List Char) {whole rest rest' rest'' : List Char}
    {f e : Option (List Char)} (hsign : sign ∈ [[], ['-']]) (hwhole : IsWhole whole)
    (hrest : NoDigit rest) (hf : fraction? rest = some (f, rest'))
    (he : exponent? rest' = some (e, rest'')) :
    number? (sign ++ (whole ++ rest)) =
      some (⟨!sign.isEmpty, ofDigits whole, f, e⟩, rest'') := by
  have hread := whole?_append hwhole hrest
  simp only [List.mem_cons, List.not_mem_nil, or_false] at hsign
  rcases hsign with rfl | rfl
  · obtain ⟨d, ds, rfl⟩ := List.exists_cons_of_ne_nil hwhole.1.1
    have hd : d ≠ '-' := by
      rintro rfl
      exact absurd (hwhole.1.2 '-' (List.mem_cons_self ..)) (by decide)
    rw [List.cons_append] at hread
    rw [List.nil_append, List.cons_append, number?]
    · simp [hread, hf, he]
    · rintro _ ⟨⟩
      exact hd rfl
  · rw [List.singleton_append]
    unfold number?
    simp [hread, hf, he]

theorem IsNumber.exists_number? {t : List Char} (h : IsNumber t) :
    ∃ n, ∀ rest, Ends rest → number? (t ++ rest) = some (n, rest) := by
  obtain @⟨sign, whole, fraction, exponent, hsign, hwhole, hfraction, hexponent⟩ := h
  obtain ⟨f, hf⟩ := hfraction.exists_fraction?
  obtain ⟨e, he⟩ := hexponent.exists_exponent?
  refine ⟨⟨!sign.isEmpty, ofDigits whole, f, e⟩, fun rest hrest => ?_⟩
  have hdigit : NoDigit rest := fun c hc => (hrest.not_number hc).1
  have hafter : NoDigit (exponent ++ rest) ∧ (exponent ++ rest).head? ≠ some '.' := by
    cases hexponent with
    | absent => exact ⟨hdigit, fun hc => (hrest.not_number hc).2.1 rfl⟩
    | digits hmark =>
        rcases hmark with rfl | rfl
        · exact ⟨by rintro c ⟨⟩; rfl, by simp⟩
        · exact ⟨by rintro c ⟨⟩; rfl, by simp⟩
  have hbehind : NoDigit (fraction ++ (exponent ++ rest)) := by
    cases hfraction with
    | absent => exact hafter.1
    | digits => rintro c ⟨⟩; rfl
  simp only [List.append_assoc]
  exact number?_append _ hsign hwhole hbehind (hf _ hafter.1 hafter.2)
    (he rest hdigit (fun hc => (hrest.not_number hc).2.2.1 rfl)
      fun hc => (hrest.not_number hc).2.2.2 rfl)

/-- A number starts with a digit or a sign. -/
theorem IsNumber.head? {t : List Char} (h : IsNumber t) :
    ∃ c t', t = c :: t' ∧ (c = '-' ∨ c.isDigit = true) := by
  obtain @⟨sign, whole, fraction, exponent, hsign, ⟨⟨hne, hall⟩, -⟩, -, -⟩ := h
  simp only [List.mem_cons, List.not_mem_nil, or_false] at hsign
  rcases hsign with rfl | rfl
  · obtain ⟨d, ds, rfl⟩ := List.exists_cons_of_ne_nil hne
    exact ⟨d, _, rfl, .inr (hall d (List.mem_cons_self ..))⟩
  · exact ⟨'-', _, rfl, .inl rfl⟩

/-! ## Readers -/

/-- The reader takes all of the text, and at most the blanks after it, whatever comes next. -/
def Reads {α : Type} (read : List Char → Reading α) (text : List Char) (a : α) : Prop :=
  ∀ rest, Ends rest → ∃ rest', read (text ++ rest) = some (a, rest') ∧ skip rest' = skip rest

/-- A reader of items up to a closing bracket: blanks before an item do not matter to it, and it
does not take the bracket for an item. -/
structure ReadsItems {α : Type} (item : List Char → Reading α) (closing : Char) : Prop where
  skips : ∀ text, item (skip text) = item text
  stops : ∀ rest, item (closing :: rest) = none
  bracket : closing = ']' ∨ closing = '\x7d'

section Items

variable {α : Type} {item : List Char → Reading α} {closing : Char}

theorem ReadsItems.not_blank (h : ReadsItems item closing) : isBlank closing = false := by
  rcases h.bracket with hc | hc <;> rw [hc] <;> rfl

theorem ReadsItems.ne_comma (h : ReadsItems item closing) : closing ≠ ',' := by
  rcases h.bracket with hc | hc <;> rw [hc] <;> decide

/-- Items that are read one by one are read together. -/
theorem ReadsItems.itemsOnto_eq (hitem : ReadsItems item closing) {texts : List (List Char)}
    {as : List α} (h : List.Forall₂ (Reads item) texts as) (hne : texts ≠ []) {fuel : Nat}
    (hfuel : texts.length ≤ fuel) (done : List α) (rest : List Char) :
    itemsOnto item closing fuel done ([','].intercalate texts ++ closing :: rest) =
      some (done.reverse ++ as, rest) := by
  induction h generalizing fuel done with
  | nil => exact absurd rfl hne
  | @cons text a texts as htext htexts ih =>
      obtain ⟨fuel, rfl⟩ : ∃ n, fuel = n + 1 := ⟨fuel - 1, by rw [List.length_cons] at hfuel; omega⟩
      rw [itemsOnto]
      cases htexts with
      | nil =>
          obtain ⟨rest', hread, hskip⟩ :=
            htext (closing :: rest) (ends_cons (.inr hitem.bracket))
          rw [skip_cons_of_not_blank hitem.not_blank] at hskip
          have hjoin : [','].intercalate [text] = text := by simp [List.intercalate]
          rw [hjoin, hread]
          dsimp only
          rw [hskip]
          simp [hitem.ne_comma]
      | @cons text' a' texts as _ _ =>
          obtain ⟨rest', hread, hskip⟩ :=
            htext (',' :: ([','].intercalate (text' :: texts) ++ closing :: rest))
              (ends_cons (.inl rfl))
          rw [skip_cons_of_not_blank rfl] at hskip
          rw [intercalate_cons_cons, List.append_assoc, List.cons_append, hread]
          dsimp only
          rw [hskip]
          dsimp only
          rw [if_pos rfl, ih (by simp) (by simpa using hfuel)]
          simp

theorem ReadsItems.itemsOnto_skip (hitem : ReadsItems item closing) (fuel : Nat)
    (done : List α) (text : List Char) :
    itemsOnto item closing fuel done (skip text) = itemsOnto item closing fuel done text := by
  cases fuel with
  | zero => rfl
  | succ fuel => rw [itemsOnto, itemsOnto, hitem.skips]

/-- Items that are read one by one are read between brackets. -/
theorem ReadsItems.items?_eq (hitem : ReadsItems item closing) {texts : List (List Char)}
    {as : List α} (h : List.Forall₂ (Reads item) texts as) {size : Nat}
    (hsize : texts.length ≤ size) {blanks : List Char} (hblanks : Blanks blanks)
    (rest : List Char) :
    items? size item closing (blanks ++ ([','].intercalate texts ++ closing :: rest)) =
      some (as, rest) := by
  rw [items?]
  cases h with
  | nil =>
      have hjoin : [','].intercalate ([] : List (List Char)) = [] := rfl
      rw [hjoin, List.nil_append, skip_append hblanks, skip_cons_of_not_blank hitem.not_blank]
      dsimp only
      rw [if_pos rfl]
  | @cons text a texts as htext htexts =>
      have hread := hitem.itemsOnto_eq (.cons htext htexts) (by simp) hsize [] rest
      rw [← hitem.itemsOnto_skip] at hread
      rw [← hitem.itemsOnto_skip _ _ (blanks ++ _), skip_append hblanks]
      generalize hskip : skip ([','].intercalate (text :: texts) ++ closing :: rest) = tail
        at hread ⊢
      obtain ⟨fuel, rfl⟩ : ∃ n, size = n + 1 := ⟨size - 1, by rw [List.length_cons] at hsize; omega⟩
      cases tail with
      | nil =>
          have hall := List.dropWhile_eq_nil_iff.mp hskip closing (by simp)
          exact absurd hall (by simp [hitem.not_blank])
      | cons c tail =>
          have hc : c ≠ closing := by
            rintro rfl
            rw [itemsOnto, hitem.stops] at hread
            cases hread
          dsimp only
          rw [if_neg hc, hread]
          rfl

/-- A reader that reads each of the texts as something reads all of them. -/
theorem exists_forall₂_reads {texts : List (List Char)}
    (h : ∀ text ∈ texts, ∃ a, Reads item text a) : ∃ as, List.Forall₂ (Reads item) texts as := by
  induction texts with
  | nil => exact ⟨[], .nil⟩
  | cons text texts ih =>
      rw [List.forall_mem_cons] at h
      obtain ⟨a, ha⟩ := h.1
      obtain ⟨as, has⟩ := ih h.2
      exact ⟨a :: as, .cons ha has⟩

end Items

/-! ## Members -/

theorem readsItems_member? (r : Rigour) (value : String → List Char → Reading Json) :
    ReadsItems (member? r value) '\x7d' where
  skips text := by rw [member?, member?, skip_skip]
  stops rest := by
    rw [member?, skip_cons_of_not_blank rfl]
    rfl
  bracket := .inr rfl

/-- A member is read if its name and its value are. -/
theorem reads_member {r : Rigour} {value : String → List Char → Reading Json} {m : Member}
    {name : String} {v : Json}
    (hname : ∀ rest, string? r ('"' :: (m.name ++ '"' :: rest)) = some (name, rest))
    (hvalue : Reads (value name) m.value v) : Reads (member? r value) m.text (name, v) := by
  intro rest hrest
  obtain ⟨rest', hread, hskip⟩ := hvalue rest hrest
  refine ⟨rest', ?_, hskip⟩
  have htext : m.text ++ rest = m.before ++
      '"' :: (m.name ++ '"' :: (m.after ++ ':' :: (m.value ++ rest))) := by
    simp [Member.text]
  rw [htext, member?, skip_append m.blanks_before, skip_cons_of_not_blank rfl, hname]
  simp only [Option.bind_eq_bind, Option.bind_some]
  rw [skip_append m.blanks_after, skip_cons_of_not_blank rfl]
  simp [hread]

/-! ## Values -/

variable {size depth : Nat}

theorem value?_skip (r : Rigour) (size depth : Nat) (text : List Char) :
    value? r size depth (skip text) = value? r size depth text := by
  rw [value?.eq_1, value?.eq_1 r size depth text, skip_skip]

theorem readsItems_value? (r : Rigour) (size depth : Nat) :
    ReadsItems (value? r size depth) ']' where
  skips := value?_skip r size depth
  stops rest := by
    rw [value?, skip_cons_of_not_blank rfl]
    rfl
  bracket := .inl rfl

theorem value?_string (r : Rigour) (size depth : Nat) (rest : List Char) :
    value? r size depth ('"' :: rest) =
      (string? r ('"' :: rest)).map fun (s, rest) => (.string s, rest) := by
  rw [value?, skip_cons_of_not_blank rfl]
  rfl

theorem value?_array (r : Rigour) (size depth : Nat) (rest : List Char) :
    value? r size (depth + 1) ('[' :: rest) =
      (items? size (value? r size depth) ']' rest).map fun (items, rest) =>
        (.array items, rest) := by
  rw [value?, skip_cons_of_not_blank rfl]
  rfl

theorem value?_object (r : Rigour) (size depth : Nat) (rest : List Char) :
    value? r size (depth + 1) ('\x7b' :: rest) =
      object? r size (fun _ => value? r size depth) rest := by
  rw [value?, skip_cons_of_not_blank rfl]
  rfl

theorem value?_null (r : Rigour) (size depth : Nat) (rest : List Char) :
    value? r size depth (['n', 'u', 'l', 'l'] ++ rest) = some (.null, rest) := by
  rw [value?, List.cons_append, skip_cons_of_not_blank rfl]
  rfl

theorem value?_true (r : Rigour) (size depth : Nat) (rest : List Char) :
    value? r size depth (['t', 'r', 'u', 'e'] ++ rest) = some (.bool true, rest) := by
  rw [value?, List.cons_append, skip_cons_of_not_blank rfl]
  rfl

theorem value?_false (r : Rigour) (size depth : Nat) (rest : List Char) :
    value? r size depth (['f', 'a', 'l', 's', 'e'] ++ rest) = some (.bool false, rest) := by
  rw [value?, List.cons_append, skip_cons_of_not_blank rfl]
  rfl

theorem value?_number (r : Rigour) (size depth : Nat) {c : Char} (hc : c = '-' ∨ c.isDigit = true)
    (rest : List Char) :
    value? r size depth (c :: rest) =
      (number? (c :: rest)).map fun (n, rest) => (.number n, rest) := by
  have hother : ∀ d, isBlank d = true ∨ d ∈ ['"', '[', '\x7b', 'n', 't', 'f'] → c ≠ d := by
    rintro d hd rfl
    simp only [isBlank, Bool.or_eq_true, beq_iff_eq, List.mem_cons, List.not_mem_nil,
      or_false] at hd
    have hd' : c ≠ '-' ∧ c.isDigit = false := by
      rcases hd with (((rfl | rfl) | rfl) | rfl) | rfl | rfl | rfl | rfl | rfl | rfl <;> decide
    rcases hc with hc | hc
    · exact hd'.1 hc
    · exact absurd (hc.symm.trans hd'.2) (by decide)
  have hblank : isBlank c = false := by
    by_contra h
    exact hother c (.inl (by simpa using h)) rfl
  rw [value?, skip_cons_of_not_blank hblank]
  dsimp only
  rw [if_neg (hother _ (.inr (by simp))), if_neg (hother _ (.inr (by simp))),
    if_neg (hother _ (.inr (by simp)))]
  split
  · exact absurd rfl (hother 'n' (.inr (by simp)))
  · exact absurd rfl (hother 't' (.inr (by simp)))
  · exact absurd rfl (hother 'f' (.inr (by simp)))
  · rfl

/-! ## Every text of the grammar is read -/

theorem reads_value?_padded {r : Rigour} {before text after : List Char} {v : Json}
    (hbefore : Blanks before) (hafter : Blanks after) (h : Reads (value? r size depth) text v) :
    Reads (value? r size depth) (before ++ (text ++ after)) v := by
  intro rest hrest
  obtain ⟨rest', hread, hskip⟩ := h (after ++ rest) (hrest.append hafter)
  refine ⟨rest', ?_, hskip.trans (skip_append hafter rest)⟩
  rw [← value?_skip, List.append_assoc, List.append_assoc, skip_append hbefore, value?_skip, hread]

theorem reads_value?_array {r : Rigour} {blanks : List Char} {texts : List (List Char)}
    {vs : List Json} (hblanks : Blanks blanks) (hsize : texts.length ≤ size)
    (h : List.Forall₂ (Reads (value? r size depth)) texts vs) :
    Reads (value? r size (depth + 1)) (bracketed '[' ']' blanks texts) (.array vs) := by
  intro rest _
  refine ⟨rest, ?_, rfl⟩
  have htext : bracketed '[' ']' blanks texts ++ rest =
      '[' :: (blanks ++ ([','].intercalate texts ++ ']' :: rest)) := by
    simp [bracketed]
  rw [htext, value?_array, (readsItems_value? r size depth).items?_eq h hsize hblanks]
  rfl

theorem object?_eq {r : Rigour} {value : String → List Char → Reading Json} {blanks : List Char}
    {texts : List (List Char)} {ms : List (String × Json)} (hblanks : Blanks blanks)
    (hsize : texts.length ≤ size) (h : List.Forall₂ (Reads (member? r value)) texts ms)
    (rest : List Char) :
    object? r size value (blanks ++ ([','].intercalate texts ++ '\x7d' :: rest)) =
      some (.object ms, rest) := by
  rw [object?, (readsItems_member? r value).items?_eq h hsize hblanks]
  rfl

theorem reads_value?_object {r : Rigour} {blanks : List Char} {texts : List (List Char)}
    {ms : List (String × Json)} (hblanks : Blanks blanks) (hsize : texts.length ≤ size)
    (h : List.Forall₂ (Reads (member? r fun _ => value? r size depth)) texts ms) :
    Reads (value? r size (depth + 1)) (bracketed '\x7b' '\x7d' blanks texts) (.object ms) := by
  intro rest _
  refine ⟨rest, ?_, rfl⟩
  have htext : bracketed '\x7b' '\x7d' blanks texts ++ rest =
      '\x7b' :: (blanks ++ ([','].intercalate texts ++ '\x7d' :: rest)) := by
    simp [bracketed]
  rw [htext, value?_object, object?_eq hblanks hsize h]

/-- Every JSON text is read laxly, if no limit is below its length. -/
theorem IsValue.exists_reads {text : List Char} (h : IsValue text) (hsize : text.length ≤ size)
    (hdepth : text.length ≤ depth) : ∃ v, Reads (value? .lax size depth) text v := by
  induction h generalizing depth with
  | literal h =>
      simp only [literals, List.mem_cons, List.not_mem_nil, or_false] at h
      rcases h with rfl | rfl | rfl
      · exact ⟨.null, fun rest _ => ⟨rest, value?_null .lax size depth rest, rfl⟩⟩
      · exact ⟨.bool true, fun rest _ => ⟨rest, value?_true .lax size depth rest, rfl⟩⟩
      · exact ⟨.bool false, fun rest _ => ⟨rest, value?_false .lax size depth rest, rfl⟩⟩
  | number h =>
      obtain ⟨n, hn⟩ := h.exists_number?
      obtain ⟨c, t, rfl, hc⟩ := h.head?
      refine ⟨.number n, fun rest hrest => ⟨rest, ?_, rfl⟩⟩
      have hread := hn rest hrest
      rw [List.cons_append] at hread ⊢
      rw [value?_number _ _ _ hc, hread]
      rfl
  | @string body h =>
      obtain ⟨s, hs⟩ := h.exists_string?
      refine ⟨.string s, fun rest _ => ⟨rest, ?_, rfl⟩⟩
      have htext : '"' :: (body ++ ['"']) ++ rest = '"' :: (body ++ '"' :: rest) := by simp
      rw [htext, value?_string, hs]
      rfl
  | @array blanks texts hblanks h ih =>
      obtain ⟨depth, rfl⟩ : ∃ n, depth = n + 1 :=
        ⟨depth - 1, by simp only [bracketed, List.length_cons] at hdepth; omega⟩
      have hitems : ∀ text ∈ texts, ∃ v, Reads (value? .lax size depth) text v := by
        intro text htext
        have := length_le_length_bracketed '[' ']' blanks htext
        exact ih text htext (by omega) (by omega)
      obtain ⟨vs, hvs⟩ := exists_forall₂_reads hitems
      have := length_texts_lt_length_bracketed '[' ']' blanks texts
      exact ⟨.array vs, reads_value?_array hblanks (by omega) hvs⟩
  | @object blanks members hblanks h ih =>
      obtain ⟨depth, rfl⟩ : ∃ n, depth = n + 1 :=
        ⟨depth - 1, by simp only [bracketed, List.length_cons] at hdepth; omega⟩
      have hitems : ∀ text ∈ members.map Member.text,
          ∃ nv, Reads (member? .lax fun _ => value? .lax size depth) text nv := by
        intro text htext
        have := length_le_length_bracketed '\x7b' '\x7d' blanks htext
        obtain ⟨m, hm, rfl⟩ := List.mem_map.mp htext
        have := m.length_value_lt
        obtain ⟨name, hname⟩ := m.isStringBody_name.exists_string?
        obtain ⟨v, hv⟩ : ∃ v, Reads (value? .lax size depth) m.value v :=
          ih m hm (by omega) (by omega)
        exact ⟨(name, v), reads_member hname hv⟩
      obtain ⟨nvs, hnvs⟩ := exists_forall₂_reads hitems
      have := length_texts_lt_length_bracketed '\x7b' '\x7d' blanks (members.map Member.text)
      exact ⟨.object nvs, reads_value?_object hblanks (by omega) hnvs⟩
  | @padded before text after hbefore hafter h ih =>
      simp only [List.length_append] at hsize hdepth
      obtain ⟨v, hv⟩ : ∃ v, Reads (value? .lax size depth) text v := ih (by omega) (by omega)
      exact ⟨v, reads_value?_padded hbefore hafter hv⟩

/-! ## Documents -/

/-- Only blanks follow the value of a document. -/
theorem alone?_of_blanks {v : Json} {blanks rest : List Char} (h : Blanks blanks)
    (hrest : skip rest = skip blanks) : alone? (some (v, rest)) = some v := by
  have hskip : skip blanks = [] := by
    rw [skip, List.dropWhile_eq_nil_iff]
    exact h
  rw [alone?, hrest, hskip]
  rfl

theorem parseFor?_object {names : List String} {text : String} {rest : List Char}
    (h : skip text.toList = '\x7b' :: rest) :
    parseFor? names text =
      alone? (object? .strict text.length (valueFor? names text.length) rest) := by
  rw [parseFor?, h]
  rfl

theorem parseFor?_of_ne {names : List String} {text : String} {c : Char} {rest : List Char}
    (h : skip text.toList = c :: rest) (hc : c ≠ '\x7b') :
    parseFor? names text = alone? (value? .strict text.length depthLimit (c :: rest)) := by
  rw [parseFor?, h]
  split
  · next hother => exact absurd (List.cons.inj hother).1 hc
  · rfl

end FlightLink.Json
