import FlightLink.Text.Hex
import FlightLink.Text.Shapeless

/-!
# Quoted texts

A text between double quotes.  Quotes and backslashes are escaped by a backslash, the usual control
characters by a letter, and whatever has no shape of its own by its code point in hexadecimal
digits, so that the text can be told from its quoted form.
-/

namespace FlightLink.Text

/-- A character by its code point. -/
def codePointEscape (c : Char) : List Char :=
  ['\\', 'u', '\x7b'] ++ Nat.toDigits 16 c.toNat ++ ['\x7d']

/-- A character within double quotes. -/
def quoteChar (c : Char) : List Char :=
  if c = '\x00' then ['\\', '0']
  else if c = '\t' then ['\\', 't']
  else if c = '\r' then ['\\', 'r']
  else if c = '\n' then ['\\', 'n']
  else if c = '\\' then ['\\', '\\']
  else if c = '"' then ['\\', '"']
  else if isShapeless c then codePointEscape c
  else [c]

/-- A text between double quotes. -/
def quoted (s : String) : String :=
  String.ofList ('"' :: s.toList.flatMap quoteChar ++ ['"'])

end FlightLink.Text
