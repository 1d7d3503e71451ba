import FlightLink.Json
import FlightLink.Text.Hex

/-!
# Printing JSON

A value is printed without spaces.  In strings only quotes, backslashes and control characters are
escaped.
-/

namespace FlightLink.Json

/-- A character within a string. -/
def escape (c : Char) : List Char :=
  if c = '"' then ['\\', '"']
  else if c = '\\' then ['\\', '\\']
  else if c = '\n' then ['\\', 'n']
  else if c = '\r' then ['\\', 'r']
  else if c = '\t' then ['\\', 't']
  else if c = '\x08' then ['\\', 'b']
  else if c = '\x0c' then ['\\', 'f']
  else if c.toNat < 0x20 then
    ['\\', 'u', '0', '0', Text.hexDigit (c.toNat / 16), Text.hexDigit (c.toNat % 16)]
  else [c]

/-- A text between quotes. -/
def quoted (s : String) : List Char :=
  '"' :: (s.toList.flatMap escape ++ ['"'])

/-- The decimal digits of a number. -/
def digits (n : Nat) : List Char :=
  Nat.toDigits 10 n

/-- A number as it is written. -/
def Number.render (n : Number) : List Char :=
  (if n.negative then ['-'] else []) ++ digits n.whole ++
    (match n.fraction? with
      | none => []
      | some ds => '.' :: ds) ++
    (match n.exponent? with
      | none => []
      | some ds => 'e' :: ds)

mutual

/-- A value without spaces. -/
def render : Json → List Char
  | null => ['n', 'u', 'l', 'l']
  | bool true => ['t', 'r', 'u', 'e']
  | bool false => ['f', 'a', 'l', 's', 'e']
  | number n => n.render
  | string s => quoted s
  | array [] => ['[', ']']
  | array (item :: items) => '[' :: (item.render ++ renderItems items)
  | object [] => ['\x7b', '\x7d']
  | object ((name, value) :: members) =>
    '\x7b' :: (quoted name ++ ':' :: (value.render ++ renderMembers members))

/-- The items after the first, with the closing bracket. -/
def renderItems : List Json → List Char
  | [] => [']']
  | item :: items => ',' :: (item.render ++ renderItems items)

/-- The members after the first, with the closing brace. -/
def renderMembers : List (String × Json) → List Char
  | [] => ['\x7d']
  | (name, value) :: members =>
    ',' :: (quoted name ++ ':' :: (value.render ++ renderMembers members))

end

/-- A value as text without spaces. -/
def text (value : Json) : String :=
  String.ofList value.render

end FlightLink.Json
