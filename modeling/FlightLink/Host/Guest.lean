import FlightLink.Network

/-!
# Guests

A guest holds the other end of a connection of a station and does what it is told: it writes,
ends its stream, closes or resets the connection.  What it reads it keeps.  Bytes for which there
is no room wait in its outbox.
-/

namespace FlightLink

/-- How the connection of a guest has ended as the guest sees it. -/
inductive Guest.Fate where
  /-- The other side has closed. -/
  | eof
  | reset
  /-- There has never been a connection. -/
  | refused
  deriving DecidableEq, Repr

/-- A guest; one whose attempt to connect failed has no socket. -/
structure Guest where
  socket? : Option Network.Socket
  reading : Bool
  /-- What waits to be written; the first `written` bytes of the first part have been. -/
  outbox : List ByteArray
  written : Nat
  /-- Whether the stream ends after the outbox. -/
  finishing : Bool
  /-- What has been read. -/
  received : ByteArray
  fate? : Option Guest.Fate

namespace Guest

/-- How many bytes a guest reads at once. -/
def readLimit : Nat := 65536

/-- A guest at a socket. -/
def ofSocket (s : Network.Socket) (reading : Bool) : Guest :=
  ⟨some s, reading, [], 0, false, .empty, none⟩

/-- A guest after the answer to its attempt to connect. -/
def ofAnswer (reading : Bool) : Network.Dialled → Guest
  | .connected s => ofSocket s reading
  | .failed _ => ⟨none, false, [], 0, false, .empty, some .refused⟩
  | .silence => ⟨none, false, [], 0, false, .empty, none⟩

/-- A guest and the network after a step. -/
abbrev Result := Guest × Network

/-- Writes the parts of the outbox, the first one from `written` on, as far as there is room. -/
def flush (g : Guest) (net : Network) (s : Network.Socket) : List ByteArray → Nat → Result
  | [], _ =>
    let g := { g with outbox := [], written := 0 }
    if g.finishing then ({ g with finishing := false }, net.finish s) else (g, net)
  | part :: rest, written =>
    match net.write s part written with
    | (.written count, net) =>
      if written + count = part.size then flush g net s rest 0
      else ({ g with outbox := part :: rest, written := written + count }, net)
    | (.failed _, net) => ({ g with outbox := [], written := 0 }, net)
    | (.silence, net) => ({ g with outbox := part :: rest, written }, net)

/-- Whether something waits to be written, and can be. -/
def canFlush (g : Guest) (net : Network) (s : Network.Socket) : Bool :=
  match g.outbox with
  | [] => g.finishing
  | part :: _ => net.isWritable s (part.size - g.written)

/-- What a guest does on its own, if there is anything: it reads what has arrived and writes what
waits. -/
def turn? (g : Guest) (net : Network) : Option Result :=
  match g.socket? with
  | none => none
  | some s =>
    if g.reading && g.fate?.isNone && net.isReadable s then
      match net.read s readLimit with
      | (.data bytes, net) => some ({ g with received := g.received ++ bytes }, net)
      | (.ended, net) => some ({ g with fate? := some .eof }, net)
      | (.failed _, net) => some ({ g with fate? := some .reset }, net)
      | (.silence, _) => none
    else if g.canFlush net s then some (g.flush net s g.outbox g.written)
    else none

/-- What a guest can be told to do. -/
inductive Deed where
  | write (bytes : ByteArray)
  | startReading
  /-- End the stream. -/
  | finish
  /-- Close the connection. -/
  | close
  /-- Reset the connection. -/
  | reset
  /-- Make writing to the guest fail. -/
  | breakOff

/-- A guest that has let go of its connection. -/
def depart (g : Guest) : Guest :=
  { g with socket? := none, reading := false, outbox := [], written := 0, finishing := false }

/-- Does what a guest is told.  Without a connection there is nothing to do. -/
def perform (g : Guest) (net : Network) (deed : Deed) : Result :=
  match g.socket? with
  | none => (g, net)
  | some s =>
    match deed with
    | .write bytes => g.flush net s (g.outbox ++ [bytes]) g.written
    | .startReading => ({ g with reading := true }, net)
    | .finish => { g with finishing := true }.flush net s g.outbox g.written
    | .close => (g.depart, net.close s)
    | .reset => (g.depart, net.abort s)
    | .breakOff => (g, net.breakOff s)

end Guest

end FlightLink
