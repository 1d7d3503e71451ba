import FlightLink.Log
import FlightLink.Message

/-!
# Actions

What a channel asks of its surroundings: packets to send, timers to start and stop, requests to
the transport, payloads for the application, and log records.  The effects of a step are its
actions together with the notes that it writes, in the order in which they come up.
-/

namespace FlightLink

/-- The timers of a channel. -/
inductive TimerKind where
  /-- Supervises sending: a heartbeat is due on expiry. -/
  | send
  /-- Supervises receiving. -/
  | receive
  /-- Supervises the identification of the peer. -/
  | identification
  /-- Delays the next attempt to connect. -/
  | reconnect
  deriving DecidableEq, Repr

namespace TimerKind

/-- Every timer. -/
def all : List TimerKind := [send, receive, identification, reconnect]

/-- The name of a timer in the standard. -/
def name : TimerKind → String
  | send => "Ts"
  | receive => "Tr"
  | identification => "Ti"
  | reconnect => "Reconnect"

/-- The event of an expiry; the reconnect timer has none. -/
def event? : TimerKind → Option Event
  | send => some .sendTimeout
  | receive => some .receiveTimeout
  | identification => some .identificationTimeout
  | reconnect => none

end TimerKind

/-- What a channel asks of its surroundings. -/
inductive Action where
  /-- Send a message; the event comes back once it is written. -/
  | send (message : Message) (after? : Option Event)
  | restartTimer (kind : TimerKind)
  | stopTimer (kind : TimerKind)
  /-- Drop any connection, then connect or listen. -/
  | reconnect
  /-- Close the connection once everything queued is written. -/
  | disconnect
  /-- Close the connection and stay offline until the next `reconnect`. -/
  | halt
  /-- Hand the configuration to the timers and the transport. -/
  | reconfigure
  /-- Hand a received payload to the application. -/
  | deliver (message : Message)
  | log (record : LogRecord)
  deriving DecidableEq, Repr

/-- Whether the action sends a packet whose event is expected back. -/
def Action.awaitsEvent : Action → Bool
  | send _ (some _) => true
  | _ => false

/-- An action, or a note that is written at once. -/
inductive Effect where
  | action (a : Action)
  | note (n : Note)
  deriving DecidableEq, Repr

namespace Effect

/-- The actions among effects. -/
def actions (effects : List Effect) : List Action :=
  effects.filterMap fun
    | action a => some a
    | note _ => none

/-- The notes among effects. -/
def notes (effects : List Effect) : List Note :=
  effects.filterMap fun
    | action _ => none
    | note n => some n

/-- Whether the effect sends a packet whose event is expected back. -/
def awaitsEvent : Effect → Bool
  | action a => a.awaitsEvent
  | note _ => false

/-- How many events are expected back after the effects. -/
def awaited (effects : List Effect) : Nat :=
  effects.countP awaitsEvent

end Effect

end FlightLink
