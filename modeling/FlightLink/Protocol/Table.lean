import FlightLink.Fault
import FlightLink.Log
import FlightLink.Protocol.Role

/-!
# The transition table

The table of a role consists of the rows that are particular to it, which cover the identification
of the two sides, and of the rows common to both roles, which cover the association.  An event
without an entry in the current state is ignored.
-/

namespace FlightLink.Table

/-- The events that lead from one state to another. -/
structure Row where
  source : State
  target : State
  events : List Event
  deriving DecidableEq, Repr

/-- One transition. -/
structure Entry where
  source : State
  event : Event
  target : State
  deriving DecidableEq, Repr

/-- The transitions of a row. -/
def Row.entries (r : Row) : List Entry :=
  r.events.map fun e => ⟨r.source, e, r.target⟩

/-- The identification phase of a client. -/
def clientRows : List Row :=
  [⟨.idle, .connectionPending, [.localSetup]⟩,
   ⟨.idle, .idle, [.localDisconnect, .remoteDisconnect]⟩,
   ⟨.connectionPending, .idPending, [.remoteSetup]⟩,
   ⟨.connectionPending, .idle,
    [.localDisconnect, .remoteDisconnect, .localData, .localShutdown, .localStartup, .remoteData,
      .remoteAccept, .remoteReject, .remoteHeartbeat, .remoteShutdown, .remoteStartup,
      .identificationTimeout]⟩,
   ⟨.idPending, .ready, [.remoteIdValid]⟩,
   ⟨.idPending, .idle,
    [.localDisconnect, .remoteDisconnect, .remoteReject, .remoteAccept, .remoteIdInvalid,
      .remoteData, .remoteHeartbeat, .remoteShutdown, .remoteStartup, .identificationTimeout,
      .localData, .localShutdown, .localStartup]⟩]

/-- The identification phase of a server. -/
def serverRows : List Row :=
  [⟨.idle, .systemIdPending, [.remoteSetup]⟩,
   ⟨.idle, .idle, [.localDisconnect, .remoteDisconnect]⟩,
   ⟨.systemIdPending, .idPending, [.remoteIdValid]⟩,
   ⟨.systemIdPending, .idle,
    [.localDisconnect, .remoteDisconnect, .remoteAccept, .remoteReject, .identificationTimeout,
      .remoteData, .remoteIdInvalid, .remoteHeartbeat, .remoteShutdown, .remoteStartup]⟩,
   ⟨.systemIdPending, .systemIdPending, [.remoteSetup]⟩,
   ⟨.idPending, .ready, [.remoteAccept]⟩,
   ⟨.idPending, .idle,
    [.localDisconnect, .remoteDisconnect, .remoteData, .remoteReject, .remoteHeartbeat,
      .remoteShutdown, .remoteStartup, .identificationTimeout]⟩]

/-- The association phase, the same for both roles.  While the peer's answer is awaited, the
receive timer repeats the request for an association. -/
def commonRows : List Row :=
  [⟨.ready, .associationPending, [.localStartup]⟩,
   ⟨.ready, .idle, [.localDisconnect, .remoteDisconnect]⟩,
   ⟨.ready, .ready, [.localShutdown]⟩,
   ⟨.associationPending, .ready, [.localShutdown]⟩,
   ⟨.associationPending, .dataReady, [.remoteStartup]⟩,
   ⟨.associationPending, .idle, [.localDisconnect, .remoteDisconnect]⟩,
   ⟨.associationPending, .associationPending, [.identificationTimeout, .receiveTimeout]⟩,
   ⟨.dataReady, .associationPending, [.remoteShutdown]⟩,
   ⟨.dataReady, .ready, [.localShutdown]⟩,
   ⟨.dataReady, .idle, [.localDisconnect, .remoteDisconnect, .receiveTimeout]⟩,
   ⟨.dataReady, .dataReady, [.localData, .remoteData, .remoteHeartbeat, .sendTimeout]⟩]

/-- The rows of a role. -/
def rows : Role → List Row
  | .client => clientRows ++ commonRows
  | .server => serverRows ++ commonRows

/-- The transitions of a role. -/
def entries (role : Role) : List Entry :=
  (rows role).flatMap Row.entries

/-- The state that `event` leads to, unless it is ignored in `state`. -/
def next? (role : Role) (state : State) (event : Event) : Option State :=
  ((entries role).find? fun e => e.source == state && e.event == event).map Entry.target

/-- Whether no event leads from one state to two; the fault names the first that does. -/
def unambiguous : List Entry → Except Fault Unit
  | [] => .ok ()
  | e :: rest =>
    match rest.find? fun o => o.source == e.source && o.event == e.event && o.target != e.target with
    | some o => .error (.ambiguousTransition e.source e.event e.target o.target)
    | none => unambiguous rest

/-- Neither table is ambiguous. -/
theorem unambiguous_entries (role : Role) : unambiguous (entries role) = .ok () := by
  cases role <;> rfl

/-- What is noted when the table of a role is put to use. -/
def note (role : Role) : Note :=
  ⟨.trace, .table, s!"{role.title} state machine with {(entries role).length} transitions"⟩

end FlightLink.Table
