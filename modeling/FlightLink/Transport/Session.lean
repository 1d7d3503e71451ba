import FlightLink.Fifo
import FlightLink.Network
import FlightLink.Transport.Exchange

/-!
# Sessions

A session carries packets over one connection.  It has two halves that run side by side: one reads
what arrives, the other takes requests from a queue and writes them one after another.  Each half
reports what it has done.  When one half comes to its end, the session is cancelled, which makes
the other half stop as well; cancelling a session from outside stops both.

`Session.move?` is the whole of a session's behaviour: it says which moves are possible, what they
change, and what is reported.  How the connection answers is part of the move.
-/

namespace FlightLink.Transport

/-- What the halves of a session report. -/
inductive Report where
  | received (bytes : ByteArray)
  /-- A packet with a due event has been written. -/
  | sent (e : Event)
  /-- A packet has not been written, or not as a whole. -/
  | unsent (after? : Option Event)
  /-- A half has come to its end, for a reason unless it was told to stop. -/
  | ended (reason? : Option String)
  deriving DecidableEq

/-- What the writing half is asked to do. -/
inductive Request where
  | packet (p : Parcel)
  /-- End the stream, which is the last thing that is done. -/
  | close
  deriving DecidableEq

/-- What the writing half is doing. -/
inductive Writer where
  | waiting
  /-- The first `written` bytes of a packet have been written. -/
  | writing (p : Parcel) (written : Nat)
  | done
  deriving DecidableEq

/-- A session. -/
structure Session where
  id : Nat
  peer : SocketAddress
  socket : Network.Socket
  requests : Fifo Request
  /-- Whether the reading half is at work. -/
  reading : Bool
  writer : Writer
  cancelled : Bool

namespace Session

/-- What a half of a session may do. -/
inductive Move where
  | receive (bytes : ByteArray)
  /-- The other end has ended its stream. -/
  | reachEnd
  | failReading (text : String)
  | stopReading
  /-- Take the next request from the queue. -/
  | takeRequest
  /-- Write that many further bytes of the packet. -/
  | write (count : Nat)
  | failWriting (text : String)
  | stopWriting
  deriving DecidableEq

/-- A session on a new connection. -/
def ofConnection (id : Nat) (peer : SocketAddress) (socket : Network.Socket) : Session :=
  ⟨id, peer, socket, .empty, true, .waiting, false⟩

/-- Whether requests are taken. -/
def isWriting (s : Session) : Bool := s.writer != .done

/-- Whether both halves have come to their ends. -/
def isOver (s : Session) : Bool := !s.reading && !s.isWriting

/-- Queues a request. -/
def request (s : Session) (r : Request) : Session :=
  { s with requests := s.requests.push r }

/-- Tells both halves to stop. -/
def cancel (s : Session) : Session :=
  { s with cancelled := true }

/-- The session once nobody can ask anything of it any more: its request queue comes to an end, and
both halves are told to stop. -/
def dismiss (s : Session) : Session :=
  (s.request .close).cancel

/-- Ends the reading half. -/
def endReading? (s : Session) (reason? : Option String) : Option (Session × List Report) :=
  if s.reading then some ({ s with reading := false }.cancel, [.ended reason?]) else none

/-- Ends the writing half. -/
def endWriting (s : Session) (reports : List Report) (reason? : Option String) :
    Session × List Report :=
  ({ s with writer := .done }.cancel, reports ++ [.ended reason?])

/-- Takes the next request. -/
def takeRequest? (s : Session) : Option (Session × List Report) :=
  if s.writer = .waiting then
    match s.requests.pop? with
    | none => none
    | some (.packet p, rest) => some ({ s with requests := rest, writer := .writing p 0 }, [])
    | some (.close, rest) =>
      some ({ s with requests := rest }.endWriting [] (some "connection closed"))
  else none

/-- Writes further bytes of the current packet.  The packet is done once all its bytes are
written. -/
def write? (s : Session) (count : Nat) : Option (Session × List Report) :=
  match s.writer with
  | .writing p written =>
    if p.bytes.size < written + count then none
    else if written + count = p.bytes.size then
      some ({ s with writer := .waiting }, p.after?.toList.map .sent)
    else some ({ s with writer := .writing p (written + count) }, [])
  | _ => none

/-- Ends the writing half before the current packet is written. -/
def breakOff? (s : Session) (reason? : Option String) : Option (Session × List Report) :=
  match s.writer with
  | .writing p _ => some (s.endWriting [.unsent p.after?] reason?)
  | _ => none

/-- A move of a session and what is reported, if the move is possible. -/
def move? (s : Session) : Move → Option (Session × List Report)
  | .receive bytes => if s.reading then some (s, [.received bytes]) else none
  | .reachEnd => s.endReading? (some "connection closed by peer")
  | .failReading text => s.endReading? (some s!"read failed: {text}")
  | .stopReading => if s.cancelled then s.endReading? none else none
  | .takeRequest => s.takeRequest?
  | .write count => s.write? count
  | .failWriting text => s.breakOff? (some s!"write failed: {text}")
  | .stopWriting =>
    if s.cancelled then
      match s.writer with
      | .waiting => some (s.endWriting [] none)
      | .writing .. => s.breakOff? none
      | .done => none
    else none

end Session

end FlightLink.Transport
