import FlightLink.Packet
import FlightLink.Text.Charset

/-!
# Messages

A message is the kind of a packet and its text.  System and identification messages have fixed
literals; an identification names the sender and the receiver.
-/

namespace FlightLink

/-- The kind of a packet and its text. -/
structure Message where
  kind : Packet.Kind
  text : String
  deriving DecidableEq, Repr

namespace Message

def shutdownText : String := "00"
def startupText : String := "01"
def heartbeatText : String := "03"
def acceptText : String := "ACCEPT"
def rejectText : String := "REJECT"

/-- Data of the application. -/
def operational (text : String) : Message := ⟨.operational, text⟩

/-- Asks the peer for an association, or answers such a request. -/
def startup : Message := ⟨.system, startupText⟩

/-- Ends the association. -/
def shutdown : Message := ⟨.system, shutdownText⟩

/-- Tells the peer that the association is alive. -/
def heartbeat : Message := ⟨.system, heartbeatText⟩

/-- Accepts the identification of the peer. -/
def accept : Message := ⟨.identification, acceptText⟩

/-- Rejects the identification of the peer. -/
def reject : Message := ⟨.identification, rejectText⟩

/-- The identification that `sender` sends to `receiver`. -/
def identification (sender receiver : String) : Message :=
  ⟨.identification, s!"{sender}-{receiver}"⟩

/-- Whether the message is a heartbeat. -/
def isHeartbeat (m : Message) : Bool :=
  m.kind == .system && m.text == heartbeatText

/-- The message as one line of text. -/
def describe (m : Message) : String :=
  s!"{m.kind.name}: {m.text}"

/-- The bytes of the message on the wire, if it fits into one packet. -/
def encode (m : Message) (charset : Charset) : Except Fault (List UInt8) :=
  Packet.encode ⟨m.kind, charset.encode m.text⟩

/-- The message of a received packet. -/
def ofPacket (charset : Charset) (p : Packet) : Message :=
  ⟨p.kind, charset.decode p.body⟩

end Message

end FlightLink
