import FlightLink.Json.Parser
import Mathlib.Data.List.Basic

/-!
# The grammar of JSON

What a JSON text is, apart from how it is read: a value with blanks around it, made of
literals, numbers, strings, arrays and objects.  A string is spelled by the characters
between its quotes, some of which are escapes.  Half a surrogate pair may be escaped as
well, but does not spell anything on its own.
-/

namespace FlightLink.Json

def Blanks (text : List Char) : Prop := ∀ c ∈ text, isBlank c = true

theorem blanks_nil : Blanks [] := nofun

/-! ## Strings -/

/-- The letters of the short escapes, with the characters that they stand for. -/
def shortEscapes : List (Char × Char) :=
  [('"', '"'), ('\\', '\\'), ('/', '/'), ('b', '\x08'), ('f', '\x0c'), ('n', '\n'), ('r', '\r'),
    ('t', '\t')]

/-- A character that needs no escape. -/
def IsPlain (c : Char) : Prop := 0x20 ≤ c.toNat ∧ c ≠ '"' ∧ c ≠ '\\'

/-- What may stand between the quotes of a string. -/
inductive IsStringBody : List Char → Prop where
  | nil : IsStringBody []
  | plain {c : Char} {body : List Char} (hc : IsPlain c) (h : IsStringBody body) :
      IsStringBody (c :: body)
  | short {c e : Char} {body : List Char} (hc : (c, e) ∈ shortEscapes) (h : IsStringBody body) :
      IsStringBody ('\\' :: c :: body)
  | unit {a b c d : Char} {n : Nat} {body : List Char} (hn : unit? a b c d = some n)
      (h : IsStringBody body) : IsStringBody ('\\' :: 'u' :: a :: b :: c :: d :: body)

/-- The characters that are spelled between the quotes of a string. -/
inductive Spells : List Char → List Char → Prop where
  | nil : Spells [] []
  | plain {c : Char} {body cs : List Char} (hc : IsPlain c) (h : Spells body cs) :
      Spells (c :: body) (c :: cs)
  | short {c e : Char} {body cs : List Char} (hc : (c, e) ∈ shortEscapes) (h : Spells body cs) :
      Spells ('\\' :: c :: body) (e :: cs)
  | unit {a b c d : Char} {n : Nat} {body cs : List Char} (hn : unit? a b c d = some n)
      (hhigh : isHighSurrogate n = false) (hlow : isLowSurrogate n = false) (h : Spells body cs) :
      Spells ('\\' :: 'u' :: a :: b :: c :: d :: body) (Char.ofNat n :: cs)
  | pair {a b c d a' b' c' d' : Char} {n n' : Nat} {body cs : List Char}
      (hn : unit? a b c d = some n) (hhigh : isHighSurrogate n = true)
      (hn' : unit? a' b' c' d' = some n') (hlow : isLowSurrogate n' = true)
      (h : Spells body cs) :
      Spells ('\\' :: 'u' :: a :: b :: c :: d :: '\\' :: 'u' :: a' :: b' :: c' :: d' :: body)
        (pairChar n n' :: cs)

/-- Whatever spells something may stand between quotes. -/
theorem Spells.isStringBody {body cs : List Char} (h : Spells body cs) : IsStringBody body := by
  induction h with
  | nil => exact .nil
  | plain hc _ ih => exact .plain hc ih
  | short hc _ ih => exact .short hc ih
  | unit hn _ _ _ ih => exact .unit hn ih
  | pair hn _ hn' _ _ ih => exact .unit hn (.unit hn' ih)

/-! ## Numbers -/

def IsDigits (ds : List Char) : Prop := ds ≠ [] ∧ ∀ c ∈ ds, c.isDigit = true

/-- Digits before the point: a leading zero stands alone. -/
def IsWhole (ds : List Char) : Prop := IsDigits ds ∧ (ds.head? = some '0' → ds = ['0'])

inductive IsFraction : List Char → Prop where
  | absent : IsFraction []
  | digits {ds : List Char} (h : IsDigits ds) : IsFraction ('.' :: ds)

inductive IsExponent : List Char → Prop where
  | absent : IsExponent []
  | digits {mark : Char} {sign ds : List Char} (hmark : mark = 'e' ∨ mark = 'E')
      (hsign : sign ∈ [[], ['+'], ['-']]) (h : IsDigits ds) : IsExponent (mark :: (sign ++ ds))

inductive IsNumber : List Char → Prop where
  | mk {sign whole fraction exponent : List Char} (hsign : sign ∈ [[], ['-']])
      (hwhole : IsWhole whole) (hfraction : IsFraction fraction)
      (hexponent : IsExponent exponent) :
      IsNumber (sign ++ (whole ++ (fraction ++ exponent)))

/-! ## Values -/

def literals : List (List Char) :=
  [['n', 'u', 'l', 'l'], ['t', 'r', 'u', 'e'], ['f', 'a', 'l', 's', 'e']]

/-- A member of an object: its name between quotes, with blanks around it, and its value. -/
structure Member where
  before : List Char
  name : List Char
  after : List Char
  value : List Char
  blanks_before : Blanks before
  isStringBody_name : IsStringBody name
  blanks_after : Blanks after

def Member.text (m : Member) : List Char :=
  m.before ++ '"' :: (m.name ++ '"' :: (m.after ++ ':' :: m.value))

/-- Texts separated by commas, after blanks and between brackets of some kind. -/
def bracketed (opening closing : Char) (blanks : List Char) (texts : List (List Char)) :
    List Char :=
  opening :: (blanks ++ ([','].intercalate texts ++ [closing]))

/-- A JSON text. -/
inductive IsValue : List Char → Prop where
  | literal {text : List Char} (h : text ∈ literals) : IsValue text
  | number {text : List Char} (h : IsNumber text) : IsValue text
  | string {body : List Char} (h : IsStringBody body) : IsValue ('"' :: (body ++ ['"']))
  | array {blanks : List Char} {texts : List (List Char)} (hblanks : Blanks blanks)
      (h : ∀ text ∈ texts, IsValue text) : IsValue (bracketed '[' ']' blanks texts)
  | object {blanks : List Char} {members : List Member} (hblanks : Blanks blanks)
      (h : ∀ m ∈ members, IsValue m.value) :
      IsValue (bracketed '\x7b' '\x7d' blanks (members.map Member.text))
  | padded {before text after : List Char} (hbefore : Blanks before) (hafter : Blanks after)
      (h : IsValue text) : IsValue (before ++ (text ++ after))

/-! ## Lengths -/

theorem intercalate_cons_cons (text text' : List Char) (texts : List (List Char)) :
    [','].intercalate (text :: text' :: texts) =
      text ++ ',' :: [','].intercalate (text' :: texts) := by
  simp [List.intercalate]

theorem length_le_length_intercalate {texts : List (List Char)} {text : List Char}
    (h : text ∈ texts) : text.length ≤ ([','].intercalate texts).length := by
  induction texts with
  | nil => cases h
  | cons first texts ih =>
      cases texts with
      | nil =>
          rw [List.mem_singleton] at h
          simp [h, List.intercalate]
      | cons second texts =>
          rw [intercalate_cons_cons, List.length_append, List.length_cons]
          rcases List.mem_cons.mp h with rfl | h
          · omega
          · have := ih h
            omega

/-- There is a comma between any two texts. -/
theorem length_le_length_intercalate_succ (texts : List (List Char)) :
    texts.length ≤ ([','].intercalate texts).length + 1 := by
  induction texts with
  | nil => simp
  | cons first texts ih =>
      cases texts with
      | nil => simp
      | cons second texts =>
          rw [intercalate_cons_cons]
          simp only [List.length_append, List.length_cons] at ih ⊢
          omega

theorem length_le_length_bracketed (opening closing : Char) (blanks : List Char)
    {texts : List (List Char)} {text : List Char} (h : text ∈ texts) :
    text.length + 2 ≤ (bracketed opening closing blanks texts).length := by
  have := length_le_length_intercalate h
  simp only [bracketed, List.length_cons, List.length_append, List.length_nil]
  omega

theorem length_texts_lt_length_bracketed (opening closing : Char) (blanks : List Char)
    (texts : List (List Char)) :
    texts.length < (bracketed opening closing blanks texts).length := by
  have := length_le_length_intercalate_succ texts
  simp only [bracketed, List.length_cons, List.length_append, List.length_nil]
  omega

theorem Member.length_value_lt (m : Member) : m.value.length < m.text.length := by
  simp only [text, List.length_append, List.length_cons]
  omega

end FlightLink.Json
