import FlightLink.Text.Blank
import FlightLink.Text.Utf8
import FlightLink.Text.Windows1251

/-!
# Character sets of packet texts

A channel writes its texts in UTF-8 or in windows-1251, chosen by one of the labels of the Encoding
Standard.  Characters outside windows-1251 are written as decimal character references.
-/

namespace FlightLink

/-- The character sets that a channel can use. -/
inductive Charset where
  | utf8
  | windows1251
  deriving DecidableEq, Repr

namespace Charset

/-- The standard's name of the character set. -/
def label : Charset → String
  | utf8 => "UTF-8"
  | windows1251 => "windows-1251"

/-- The labels of the standard, in lower case. -/
def labels : Charset → List String
  | utf8 =>
    ["unicode-1-1-utf-8", "unicode11utf8", "unicode20utf8", "utf-8", "utf8", "x-unicode20utf8"]
  | windows1251 => ["cp1251", "windows-1251", "x-cp1251"]

/-- The character set of a label; blank ends and the case of ASCII letters do not matter. -/
def ofLabel? (text : String) : Option Charset :=
  let wanted := String.ofList ((Text.trimChars text.toList).map Char.toLower)
  [utf8, windows1251].find? fun c => c.labels.contains wanted

/-- The decimal reference to a character. -/
def reference (c : Char) : List UInt8 :=
  Text.Utf8.encode ("&#".toList ++ (toString c.toNat).toList ++ [';'])

/-- The bytes of a text. -/
def encode (charset : Charset) (text : String) : List UInt8 :=
  match charset with
  | utf8 => Text.Utf8.encode text.toList
  | windows1251 =>
    text.toList.flatMap fun c =>
      match Text.Windows1251.encodeChar? c with
      | some b => [b]
      | none => reference c

/-- The text of arbitrary bytes.  A byte-order mark is a character like any other. -/
def decode (charset : Charset) (bytes : List UInt8) : String :=
  match charset with
  | utf8 => String.ofList (Text.Utf8.decode bytes)
  | windows1251 => String.ofList (bytes.map Text.Windows1251.decodeByte)

end Charset

end FlightLink
