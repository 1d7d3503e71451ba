/-!
# UTF-8

Writing a text as UTF-8 and reading bytes as text.  Reading never fails: each longest start of a
sequence that no text contains becomes one replacement character, and reading goes on with the
byte that ruled the sequence out.  `firstMalformed?` says where such a sequence first occurs.
-/

namespace FlightLink.Text.Utf8

/-- The one to four bytes of a character. -/
def encodeChar (c : Char) : List UInt8 :=
  let n := c.toNat
  if n < 0x80 then [n.toUInt8]
  else if n < 0x800 then
    [(0xC0 + n / 0x40).toUInt8, (0x80 + n % 0x40).toUInt8]
  else if n < 0x10000 then
    [(0xE0 + n / 0x1000).toUInt8, (0x80 + n / 0x40 % 0x40).toUInt8, (0x80 + n % 0x40).toUInt8]
  else
    [(0xF0 + n / 0x40000).toUInt8, (0x80 + n / 0x1000 % 0x40).toUInt8,
      (0x80 + n / 0x40 % 0x40).toUInt8, (0x80 + n % 0x40).toUInt8]

/-- The bytes of a text. -/
def encode (cs : List Char) : List UInt8 :=
  cs.flatMap encodeChar

/-- What a first byte announces: how many bytes continue it, the range of the first of these, and
the bits that it contributes itself. -/
structure Lead where
  count : Nat
  low : UInt8
  high : UInt8
  bits : Nat
  deriving DecidableEq, Repr

/-- The announcement of a first byte, if a sequence of the standard can start with it. -/
def lead? (b : UInt8) : Option Lead :=
  let n := b.toNat
  if n < 0x80 then some ⟨0, 0x80, 0xBF, n⟩
  else if n < 0xC2 then none
  else if n < 0xE0 then some ⟨1, 0x80, 0xBF, n - 0xC0⟩
  else if n = 0xE0 then some ⟨2, 0xA0, 0xBF, 0⟩
  else if n = 0xED then some ⟨2, 0x80, 0x9F, 0xD⟩
  else if n < 0xF0 then some ⟨2, 0x80, 0xBF, n - 0xE0⟩
  else if n = 0xF0 then some ⟨3, 0x90, 0xBF, 0⟩
  else if n < 0xF4 then some ⟨3, 0x80, 0xBF, n - 0xF0⟩
  else if n = 0xF4 then some ⟨3, 0x80, 0x8F, 4⟩
  else none

/-- Reads continuation bytes, the first within the given range, onto `value`.  The answer is the
completed value, or `none` at a byte that does not continue, with the number of bytes used. -/
def follow : Nat → UInt8 → UInt8 → Nat → Nat → List UInt8 → Option Nat × Nat
  | 0, _, _, value, used, _ => (some value, used)
  | _ + 1, _, _, _, used, [] => (none, used)
  | count + 1, low, high, value, used, b :: rest =>
    if low ≤ b ∧ b ≤ high then
      follow count 0x80 0xBF (value * 0x40 + (b.toNat - 0x80)) (used + 1) rest
    else (none, used)

/-- The character that starts with `b` before `rest`, or `none` if the sequence is malformed, and
how many bytes of `rest` belong to it. -/
def scalar (b : UInt8) (rest : List UInt8) : Option Char × Nat :=
  match lead? b with
  | none => (none, 0)
  | some l =>
    let (value, used) := follow l.count l.low l.high l.bits 0 rest
    (value.map Char.ofNat, used)

/-- The character that stands for a malformed sequence. -/
def replacement : Char := '\uFFFD'

/-- Reads on after `skip` bytes that are already accounted for; `done` holds the text so far,
last character first. -/
def decodeOnto (done : List Char) : Nat → List UInt8 → List Char
  | _, [] => done.reverse
  | skip + 1, _ :: rest => decodeOnto done skip rest
  | 0, b :: rest =>
    let (c, used) := scalar b rest
    decodeOnto (c.getD replacement :: done) used rest

/-- The text of arbitrary bytes. -/
def decode (bytes : List UInt8) : List Char :=
  decodeOnto [] 0 bytes

/-- A malformed sequence: where it starts, and its length unless the bytes end within it. -/
structure Malformed where
  index : Nat
  length? : Option Nat
  deriving DecidableEq, Repr

/-- Searches for a malformed sequence from position `index` on. -/
def malformedFrom (index : Nat) : Nat → List UInt8 → Option Malformed
  | _, [] => none
  | skip + 1, _ :: rest => malformedFrom (index + 1) skip rest
  | 0, b :: rest =>
    match scalar b rest with
    | (some _, used) => malformedFrom (index + 1) used rest
    | (none, used) =>
      let cutShort := (lead? b).isSome && (rest.drop used).isEmpty
      some ⟨index, if cutShort then none else some (used + 1)⟩

/-- The first malformed sequence of the bytes, if they are no text. -/
def firstMalformed? (bytes : List UInt8) : Option Malformed :=
  malformedFrom 0 0 bytes

/-- The text of bytes that are well-formed throughout. -/
def decode? (bytes : List UInt8) : Except Malformed (List Char) :=
  match firstMalformed? bytes with
  | some m => .error m
  | none => .ok (decode bytes)

end FlightLink.Text.Utf8
