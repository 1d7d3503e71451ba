import FlightLink.Json
import FlightLink.Text.Hex

/-!
# Reading JSON

A document is exactly one value with blanks around it, without comments, trailing commas and leading
zeros.  `Json.parse?` reads all of it strictly: escapes may not name half of a surrogate pair on its
own, and arrays and objects may be nested at most `depthLimit` deep.

`Json.parseFor?` reads a document in which only the members of some names matter.  The values of the
other members must be well formed, but nobody asks what they say, so they are read laxly: half a
surrogate pair counts as a character, and nothing limits how deep they are nested.
-/

namespace FlightLink.Json

/-- How deep arrays and objects may be nested. -/
def depthLimit : Nat := 127

/-- What is read is a value of some kind and the text after it. -/
abbrev Reading (α : Type) := Option (α × List Char)

/-- The blanks between the parts of a document. -/
def isBlank (c : Char) : Bool :=
  c == ' ' || c == '\n' || c == '\t' || c == '\r'

/-- The text from its first character that is not blank. -/
def skip (text : List Char) : List Char :=
  text.dropWhile isBlank

/-- The character of a short escape. -/
def unescape? (c : Char) : Option Char :=
  if c = '"' then some '"'
  else if c = '\\' then some '\\'
  else if c = '/' then some '/'
  else if c = 'b' then some '\x08'
  else if c = 'f' then some '\x0c'
  else if c = 'n' then some '\n'
  else if c = 'r' then some '\r'
  else if c = 't' then some '\t'
  else none

/-- The value of four hexadecimal digits. -/
def unit? (a b c d : Char) : Option Nat := do
  let a ← Text.hexValue? a
  let b ← Text.hexValue? b
  let c ← Text.hexValue? c
  let d ← Text.hexValue? d
  return ((a * 16 + b) * 16 + c) * 16 + d

/-- Whether a unit opens a surrogate pair. -/
def isHighSurrogate (n : Nat) : Bool := 0xD800 ≤ n && n < 0xDC00

/-- Whether a unit closes a surrogate pair. -/
def isLowSurrogate (n : Nat) : Bool := 0xDC00 ≤ n && n < 0xE000

/-- The character of a surrogate pair. -/
def pairChar (high low : Nat) : Char :=
  Char.ofNat (0x10000 + (high - 0xD800) * 0x400 + (low - 0xDC00))

/-- How strings are read. -/
inductive Rigour where
  /-- Both halves of a surrogate pair must be there. -/
  | strict
  /-- Half of a surrogate pair on its own reads as a replacement character. -/
  | lax
  deriving DecidableEq, Repr

/-- What half of a surrogate pair on its own reads as. -/
def Rigour.loneHalf? : Rigour → Option Char
  | strict => none
  | lax => some '\uFFFD'

/-- The characters of a string so far, last one first, once it is clear that the half of a surrogate
pair in `high?` stays on its own. -/
def settled? (r : Rigour) (done : List Char) (high? : Option Nat) : Option (List Char) :=
  match high? with
  | none => some done
  | some _ => r.loneHalf?.map (· :: done)

/-- Reads a string after its opening quote.  `done` holds its characters so far, last one first,
and `high?` the first half of a surrogate pair that may be completed next. -/
def stringOnto (r : Rigour) (done : List Char) (high? : Option Nat) :
    List Char → Reading (List Char)
  | [] => none
  | '"' :: rest => (settled? r done high?).map fun done => (done.reverse, rest)
  | '\\' :: 'u' :: a :: b :: c :: d :: rest =>
    match unit? a b c d with
    | none => none
    | some n =>
      if isLowSurrogate n then
        match high?.map (pairChar · n) <|> r.loneHalf? with
        | none => none
        | some e => stringOnto r (e :: done) none rest
      else
        match settled? r done high? with
        | none => none
        | some done =>
          if isHighSurrogate n then stringOnto r done (some n) rest
          else stringOnto r (Char.ofNat n :: done) none rest
  | '\\' :: c :: rest =>
    match unescape? c, settled? r done high? with
    | some e, some done => stringOnto r (e :: done) none rest
    | _, _ => none
  | c :: rest =>
    if c.toNat < 0x20 || c == '\\' then none
    else
      match settled? r done high? with
      | none => none
      | some done => stringOnto r (c :: done) none rest

/-- Reads a string with its opening quote. -/
def string? (r : Rigour) : List Char → Reading String
  | '"' :: rest => (stringOnto r [] none rest).map fun (cs, rest) => (String.ofList cs, rest)
  | _ => none

/-- The digits at the front of a text, and the rest. -/
def span (text : List Char) : List Char × List Char :=
  (text.takeWhile Char.isDigit, text.dropWhile Char.isDigit)

/-- At least one digit. -/
def digits? (text : List Char) : Reading (List Char) :=
  let (ds, rest) := span text
  if ds.isEmpty then none else some (ds, rest)

/-- The value of decimal digits. -/
def ofDigits (ds : List Char) : Nat :=
  ds.foldl (fun n c => n * 10 + (c.toNat - 0x30)) 0

/-- The digits before the point: a zero alone, or digits that do not start with one. -/
def whole? (text : List Char) : Option (Nat × List Char) := do
  let (ds, rest) ← digits? text
  if ds.head? == some '0' && ds.length > 1 then none
  return (ofDigits ds, rest)

/-- The point with the digits after it, if there is one. -/
def fraction? : List Char → Reading (Option (List Char))
  | '.' :: rest => (digits? rest).map fun (ds, rest) => (some ds, rest)
  | rest => some (none, rest)

/-- The exponent with its sign, if there is one. -/
def exponent? : List Char → Reading (Option (List Char))
  | c :: rest =>
    if c = 'e' ∨ c = 'E' then
      match rest with
      | '+' :: rest => (digits? rest).map fun (ds, rest) => (some ('+' :: ds), rest)
      | '-' :: rest => (digits? rest).map fun (ds, rest) => (some ('-' :: ds), rest)
      | rest => (digits? rest).map fun (ds, rest) => (some ds, rest)
    else some (none, c :: rest)
  | [] => some (none, [])

/-- Reads a number. -/
def number? (text : List Char) : Option (Number × List Char) := do
  let (negative, rest) := match text with
    | '-' :: rest => (true, rest)
    | _ => (false, text)
  let (whole, rest) ← whole? rest
  let (fraction, rest) ← fraction? rest
  let (exponent, rest) ← exponent? rest
  return (⟨negative, whole, fraction, exponent⟩, rest)

/-- Reads items separated by commas up to the closing character; `done` holds the items so far,
last one first, and there are at most as many as the first argument says. -/
def itemsOnto {α : Type} (item : List Char → Reading α) (close : Char) :
    Nat → List α → List Char → Reading (List α)
  | 0, _, _ => none
  | fuel + 1, done, text =>
    match item text with
    | none => none
    | some (a, rest) =>
      match skip rest with
      | [] => none
      | c :: rest =>
        if c = ',' then itemsOnto item close fuel (a :: done) rest
        else if c = close then some ((a :: done).reverse, rest)
        else none

/-- Reads items between an opening character, already read, and the closing one.  No more than `size`
characters are left to read, so there cannot be more items than that. -/
def items? {α : Type} (size : Nat) (item : List Char → Reading α) (close : Char)
    (text : List Char) : Reading (List α) :=
  match skip text with
  | [] => none
  | c :: rest =>
    if c = close then some ([], rest) else itemsOnto item close size [] text

/-- Reads the name and the value of a member; how the value is read may depend on the name. -/
def member? (r : Rigour) (value : String → List Char → Reading Json) (text : List Char) :
    Option ((String × Json) × List Char) := do
  let (name, rest) ← string? r (skip text)
  match skip rest with
  | ':' :: rest =>
    let (v, rest) ← value name rest
    return ((name, v), rest)
  | _ => none

/-- Reads an object after its opening brace. -/
def object? (r : Rigour) (size : Nat) (value : String → List Char → Reading Json)
    (text : List Char) : Reading Json :=
  (items? size (member? r value) '\x7d' text).map fun (ms, rest) => (.object ms, rest)

/-- Reads a value in which arrays and objects are nested at most `depth` deep, from a text of at most
`size` characters. -/
def value? (r : Rigour) (size : Nat) : (depth : Nat) → List Char → Reading Json
  | depth, text =>
    match skip text with
    | [] => none
    | c :: rest =>
      if c = '"' then (string? r (c :: rest)).map fun (s, rest) => (.string s, rest)
      else if c = '[' then
        match depth with
        | 0 => none
        | depth + 1 =>
          (items? size (value? r size depth) ']' rest).map fun (items, rest) => (.array items, rest)
      else if c = '\x7b' then
        match depth with
        | 0 => none
        | depth + 1 => object? r size (fun _ => value? r size depth) rest
      else
        match c, rest with
        | 'n', 'u' :: 'l' :: 'l' :: rest => some (.null, rest)
        | 't', 'r' :: 'u' :: 'e' :: rest => some (.bool true, rest)
        | 'f', 'a' :: 'l' :: 's' :: 'e' :: rest => some (.bool false, rest)
        | c, rest => (number? (c :: rest)).map fun (n, rest) => (.number n, rest)

/-- Reads the value of a member where only some names matter.  There are no more brackets in a text
than characters, so `size` limits the depth of no value. -/
def valueFor? (names : List String) (size : Nat) (name : String) : List Char → Reading Json :=
  if names.contains name then value? .strict size (depthLimit - 1) else value? .lax size size

/-- The value of a document: only blanks may follow it. -/
def alone? (reading : Reading Json) : Option Json :=
  match reading with
  | some (v, rest) => if (skip rest).isEmpty then some v else none
  | none => none

/-- Reads a whole document. -/
def parse? (text : String) : Option Json :=
  alone? (value? .strict text.length depthLimit text.toList)

/-- Reads a whole document in which, if it is an object, only the members of some names matter. -/
def parseFor? (names : List String) (text : String) : Option Json :=
  alone? <|
    match skip text.toList with
    | '\x7b' :: rest => object? .strict text.length (valueFor? names text.length) rest
    | rest => value? .strict text.length depthLimit rest

end FlightLink.Json
