/-!
# Blank characters

A text is trimmed by removing the characters of the Unicode property `White_Space` from both of
its ends.  A text that holds nothing else counts as empty wherever a name is required.
-/

namespace FlightLink.Text

/-- The Unicode property `White_Space`. -/
def isBlank (c : Char) : Bool :=
  let n := c.toNat
  (9 ≤ n && n ≤ 13) || n == 0x20 || n == 0x85 || n == 0xA0 || n == 0x1680 ||
    (0x2000 ≤ n && n ≤ 0x200A) || n == 0x2028 || n == 0x2029 || n == 0x202F || n == 0x205F ||
    n == 0x3000

/-- A text without its blank ends, as a list of characters. -/
def trimChars (cs : List Char) : List Char :=
  ((cs.dropWhile isBlank).reverse.dropWhile isBlank).reverse

/-- A text without its blank ends. -/
def trim (s : String) : String :=
  String.ofList (trimChars s.toList)

/-- Whether a text holds blank characters only. -/
def allBlank (s : String) : Bool :=
  s.toList.all isBlank

end FlightLink.Text
