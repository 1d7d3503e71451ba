/-!
# The single-byte code page windows-1251

Bytes below 128 are ASCII; the upper half follows the table of the Encoding Standard, which maps
every byte, so reading never fails.
-/

namespace FlightLink.Text.Windows1251

/-- The code points of the bytes from 128 to 255, in order. -/
def upperHalf : List Nat :=
  [0x0402, 0x0403, 0x201A, 0x0453, 0x201E, 0x2026, 0x2020, 0x2021,
   0x20AC, 0x2030, 0x0409, 0x2039, 0x040A, 0x040C, 0x040B, 0x040F,
   0x0452, 0x2018, 0x2019, 0x201C, 0x201D, 0x2022, 0x2013, 0x2014,
   0x0098, 0x2122, 0x0459, 0x203A, 0x045A, 0x045C, 0x045B, 0x045F,
   0x00A0, 0x040E, 0x045E, 0x0408, 0x00A4, 0x0490, 0x00A6, 0x00A7,
   0x0401, 0x00A9, 0x0404, 0x00AB, 0x00AC, 0x00AD, 0x00AE, 0x0407,
   0x00B0, 0x00B1, 0x0406, 0x0456, 0x0491, 0x00B5, 0x00B6, 0x00B7,
   0x0451, 0x2116, 0x0454, 0x00BB, 0x0458, 0x0405, 0x0455, 0x0457] ++
  (List.range 64).map (0x0410 + ·)

/-- The character of a byte. -/
def decodeByte (b : UInt8) : Char :=
  if b < 0x80 then Char.ofNat b.toNat
  else Char.ofNat (upperHalf.getD (b.toNat - 0x80) 0)

/-- The byte of a character, if the code page has it. -/
def encodeChar? (c : Char) : Option UInt8 :=
  if c.toNat < 0x80 then some c.toNat.toUInt8
  else (upperHalf.idxOf? c.toNat).map fun i => (0x80 + i).toUInt8

end FlightLink.Text.Windows1251
