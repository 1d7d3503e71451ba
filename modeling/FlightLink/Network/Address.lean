import FlightLink.Text.Hex

/-!
# Addresses

IP addresses of both families with their textual forms, ports, and the socket addresses made of
the two.  An IPv4 address has exactly one textual form; an IPv6 address has many, of which the
canonical one shortens the first of the longest runs of zero groups.
-/

namespace FlightLink

/-- An IP address: four bytes, or eight groups of sixteen bits. -/
inductive IpAddress where
  | v4 (a b c d : UInt8)
  | v6 (groups : Vector UInt16 8)
  deriving DecidableEq, Repr

namespace IpAddress

/-- The parts of a text between occurrences of a separator. -/
def splitAt (separator : Char) : List Char → List (List Char)
  | [] => [[]]
  | c :: rest =>
    if c = separator then [] :: splitAt separator rest
    else
      match splitAt separator rest with
      | [] => [[c]]
      | part :: parts => (c :: part) :: parts

/-- The parts of a text around its first double colon. -/
def splitAtGap? : List Char → Option (List Char × List Char)
  | ':' :: ':' :: rest => some ([], rest)
  | [] => none
  | c :: rest => (splitAtGap? rest).map fun (head, tail) => (c :: head, tail)

/-- A byte in decimal digits, without superfluous zeros. -/
def decimalByte? (digits : List Char) : Option UInt8 :=
  if digits.isEmpty || digits.length > 3 || !digits.all Char.isDigit then none
  else if digits.length > 1 && digits.head? == some '0' then none
  else
    let n := digits.foldl (fun n c => n * 10 + (c.toNat - 0x30)) 0
    if n < 256 then some n.toUInt8 else none

/-- One to four hexadecimal digits. -/
def hexGroup? (digits : List Char) : Option UInt16 :=
  if digits.isEmpty || digits.length > 4 then none
  else (digits.mapM Text.hexValue?).map fun values =>
    (values.foldl (fun n v => n * 16 + v) 0).toUInt16

/-- Four bytes in dotted decimal form. -/
def dotted? (text : List Char) : Option (UInt8 × UInt8 × UInt8 × UInt8) :=
  match (splitAt '.' text).mapM decimalByte? with
  | some [a, b, c, d] => some (a, b, c, d)
  | _ => none

/-- The two groups that four bytes fill. -/
def groupsOfBytes (a b c d : UInt8) : List UInt16 :=
  [(a.toNat * 256 + b.toNat).toUInt16, (c.toNat * 256 + d.toNat).toUInt16]

/-- Groups separated by colons, the last of which may be a dotted IPv4 address. -/
def groups? : List (List Char) → Option (List UInt16)
  | [] => some []
  | [last] =>
    match dotted? last with
    | some (a, b, c, d) => some (groupsOfBytes a b c d)
    | none => (hexGroup? last).map ([·])
  | part :: parts => do
    let group ← hexGroup? part
    return group :: (← groups? parts)

/-- The groups of a side of a double colon, which may be empty. -/
def sideGroups? (text : List Char) : Option (List UInt16) :=
  if text.isEmpty then some [] else groups? (splitAt ':' text)

/-- An address from a list of groups of the right length. -/
def ofGroups? (groups : List UInt16) : Option IpAddress :=
  if h : groups.toArray.size = 8 then some (.v6 ⟨groups.toArray, h⟩) else none

/-- An IPv6 address in any of its textual forms.  A double colon stands for at least one group,
and a dotted part can only come last. -/
def parse6? (text : List Char) : Option IpAddress :=
  match splitAtGap? text with
  | none => (groups? (splitAt ':' text)).bind ofGroups?
  | some (head, tail) => do
    if head.contains '.' then none
    let front ← sideGroups? head
    let back ← sideGroups? tail
    if front.length + back.length > 7 then none
    ofGroups? (front ++ List.replicate (8 - (front.length + back.length)) 0 ++ back)

/-- An IP address in textual form. -/
def parse? (text : String) : Option IpAddress :=
  match dotted? text.toList with
  | some (a, b, c, d) => some (.v4 a b c d)
  | none => parse6? text.toList

/-- A run of zero groups. -/
structure ZeroRun where
  start : Nat
  length : Nat
  deriving DecidableEq, Repr

/-- The first of the longest runs of zeros among the groups from position `index` on; `current` is
the run that ends just before it. -/
def longestZeroRun (index : Nat) (current best : ZeroRun) : List UInt16 → ZeroRun
  | [] => best
  | group :: rest =>
    if group = 0 then
      let current : ZeroRun :=
        if current.length = 0 then ⟨index, 1⟩ else ⟨current.start, current.length + 1⟩
      longestZeroRun (index + 1) current (if best.length < current.length then current else best)
        rest
    else longestZeroRun (index + 1) ⟨0, 0⟩ best rest

/-- Groups in hexadecimal digits, separated by colons. -/
def groupsText (groups : List UInt16) : String :=
  ":".intercalate (groups.map fun g => Text.hexNumber g.toNat)

/-- The dotted decimal form of four bytes. -/
def dottedText (a b c d : UInt8) : String :=
  ".".intercalate ([a, b, c, d].map fun n => toString n.toNat)

/-- The canonical text of an IPv6 address.  An IPv4-mapped address ends in dotted form. -/
def groupsCanonical (groups : List UInt16) : String :=
  match groups with
  | [0, 0, 0, 0, 0, 0xFFFF, g, h] =>
    "::ffff:" ++ dottedText (g.toNat / 256).toUInt8 (g.toNat % 256).toUInt8
      (h.toNat / 256).toUInt8 (h.toNat % 256).toUInt8
  | _ =>
    let run := longestZeroRun 0 ⟨0, 0⟩ ⟨0, 0⟩ groups
    if run.length > 1 then
      groupsText (groups.take run.start) ++ "::" ++ groupsText (groups.drop (run.start + run.length))
    else groupsText groups

/-- The canonical text of an address. -/
def text : IpAddress → String
  | v4 a b c d => dottedText a b c d
  | v6 groups => groupsCanonical groups.toList

/-- Whether the address belongs to the IPv4 family. -/
def isV4 : IpAddress → Bool
  | v4 .. => true
  | v6 _ => false

/-- The address of this host on its own network. -/
def loopback : IpAddress := .v4 127 0 0 1

/-- Stands for every IPv4 address of this host. -/
def unspecified : IpAddress := .v4 0 0 0 0

end IpAddress

/-- A port, known by its number or by the name of a service. -/
inductive Port where
  | number (n : Nat)
  | service (name : String)
  deriving DecidableEq, Repr

/-- A port as part of an address. -/
def Port.text : Port → String
  | number n => toString n
  | service name => name

/-- An IP address with a port. -/
structure SocketAddress where
  ip : IpAddress
  port : Port
  deriving DecidableEq, Repr

/-- The text of a socket address; an IPv6 address stands in brackets. -/
def SocketAddress.text (a : SocketAddress) : String :=
  if a.ip.isV4 then s!"{a.ip.text}:{a.port.text}" else s!"[{a.ip.text}]:{a.port.text}"

end FlightLink
