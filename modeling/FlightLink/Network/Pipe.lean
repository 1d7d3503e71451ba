/-!
# Pipes

One direction of a connection: the bytes that have been written and not yet read, and what follows
them once the writer has ended the stream or one side has reset the connection.  A pipe holds a
limited number of bytes.
-/

namespace FlightLink.Network

/-- What follows the bytes of a pipe. -/
inductive Tail where
  /-- The writer has ended the stream. -/
  | ended
  /-- The connection has been reset. -/
  | reset
  deriving DecidableEq, Repr

/-- The bytes on their way in one direction.  The first `taken` bytes of `data` have been read. -/
structure Pipe where
  data : ByteArray
  taken : Nat
  tail? : Option Tail

namespace Pipe

/-- How many bytes a pipe holds. -/
def capacity : Nat := 1048576

/-- A new pipe. -/
def empty : Pipe := ⟨.empty, 0, none⟩

/-- How many bytes wait to be read. -/
def pending (p : Pipe) : Nat := p.data.size - p.taken

/-- How many bytes can be written. -/
def room (p : Pipe) : Nat := capacity - p.pending

/-- Whether a reader would be answered at once. -/
def isReadable (p : Pipe) : Bool := 0 < p.pending || p.tail?.isSome

/-- The pipe without the room taken up by bytes that have been read, once that is worthwhile. -/
def compact (p : Pipe) : Pipe :=
  if p.taken = p.data.size then { p with data := .empty, taken := 0 }
  else if capacity ≤ p.taken then
    { p with data := p.data.extract p.taken p.data.size, taken := 0 }
  else p

/-- Writes the part of `bytes` from `start` on as far as there is room; the number tells how much
that is. -/
def write (p : Pipe) (bytes : ByteArray) (start : Nat) : Nat × Pipe :=
  let count := min p.room (bytes.size - start)
  let p := p.compact
  (count, { p with data := bytes.copySlice start p.data p.data.size count })

/-- Reads at most `limit` bytes. -/
def read (p : Pipe) (limit : Nat) : ByteArray × Pipe :=
  let count := min limit p.pending
  (p.data.extract p.taken (p.taken + count), { p with taken := p.taken + count })

/-- Puts an end to the pipe, unless it already has one. -/
def finish (p : Pipe) (tail : Tail) : Pipe :=
  if p.tail?.isSome then p else { p with tail? := some tail }

end Pipe

end FlightLink.Network
