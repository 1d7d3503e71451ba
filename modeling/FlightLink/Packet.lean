import FlightLink.Fault

/-!
# Packets

A packet is a header of five bytes and a body.  The header holds the protocol version, a reserved
byte, the length of the whole packet in big-endian order, and the kind of the packet.  Reading a
header never fails; a malformed one is recognised by `Header.isValid`.
-/

namespace FlightLink.Packet

/-- The kinds of packets. -/
inductive Kind where
  | operational
  | operator
  | identification
  | system
  | status
  | unknown
  deriving DecidableEq, Repr

namespace Kind

/-- Every kind, in the order of the codes. -/
def all : List Kind :=
  [operational, operator, identification, system, status, unknown]

/-- The code of a kind on the wire. -/
def code : Kind → UInt8
  | operational => 1
  | operator => 2
  | identification => 3
  | system => 4
  | status => 5
  | unknown => 6

/-- The kind of a code; codes without a kind are unknown. -/
def ofCode (code : UInt8) : Kind :=
  if code = 1 then operational
  else if code = 2 then operator
  else if code = 3 then identification
  else if code = 4 then system
  else if code = 5 then status
  else unknown

/-- The name of a kind in log texts. -/
def name : Kind → String
  | operational => "Operational"
  | operator => "Operator"
  | identification => "Identification"
  | system => "System"
  | status => "Status"
  | unknown => "Unknown"

end Kind

/-- The protocol version, which opens every header. -/
def version : UInt8 := 2

/-- The value of the reserved byte. -/
def reserved : UInt8 := 0

/-- The number of bytes in a header. -/
def headerLength : Nat := 5

/-- Every packet is shorter than this. -/
def lengthLimit : Nat := 65530

/-- The contents of a header.  The length counts the header itself. -/
structure Header where
  version : UInt8
  reserved : UInt8
  length : Nat
  kind : Kind
  deriving DecidableEq, Repr

namespace Header

/-- Reads the five bytes of a header. -/
def decode (version reserved high low code : UInt8) : Header :=
  ⟨version, reserved, high.toNat * 256 + low.toNat, Kind.ofCode code⟩

/-- The five bytes of a header. -/
def encode (h : Header) : List UInt8 :=
  [h.version, h.reserved, (h.length / 256).toUInt8, (h.length % 256).toUInt8, h.kind.code]

/-- Whether a packet may follow: version, reserved byte and kind are known, the body is not empty
and the length is below the limit. -/
def isValid (h : Header) : Bool :=
  h.version == Packet.version && h.reserved == Packet.reserved && h.kind != .unknown &&
    headerLength < h.length && h.length < lengthLimit

/-- The number of bytes that follow the header. -/
def bodyLength (h : Header) : Nat :=
  h.length - headerLength

end Header

end FlightLink.Packet

namespace FlightLink

/-- A packet: its kind and its body. -/
structure Packet where
  kind : Packet.Kind
  body : List UInt8
  deriving DecidableEq, Repr

namespace Packet

/-- The bytes of a packet, which exist if its length is below the limit. -/
def encode (p : Packet) : Except Fault (List UInt8) :=
  let length := headerLength + p.body.length
  if length < lengthLimit then
    .ok ((Header.mk version reserved length p.kind).encode ++ p.body)
  else .error (.payloadTooLong p.body.length)

end Packet

end FlightLink
