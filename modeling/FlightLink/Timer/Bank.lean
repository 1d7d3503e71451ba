import FlightLink.Settings
import FlightLink.Timer

/-!
# The timers of a channel

The four timers of a channel share one queue of expiries.  Expiries enter it as time passes, and
`TimerBank.expired` takes the first one that still counts, dropping the stale ones before it.
-/

namespace FlightLink

/-- The timers of a channel and the expiries that have not been taken. -/
structure TimerBank where
  send : Timer
  receive : Timer
  identification : Timer
  reconnect : Timer
  queue : List Expiry
  deriving DecidableEq, Repr

namespace TimerBank

/-- The interval of a timer in a configuration. -/
def interval (config : Config) : TimerKind → Nat
  | .send => Clock.seconds config.ts
  | .receive => Clock.seconds config.tr
  | .identification => Clock.seconds config.ti
  | .reconnect => Clock.seconds config.reconnectTimeout

/-- The timers of a configuration, none of them started. -/
def ofConfig (config : Config) : TimerBank where
  send := .idle .send (interval config .send)
  receive := .idle .receive (interval config .receive)
  identification := .idle .identification (interval config .identification)
  reconnect := .idle .reconnect (interval config .reconnect)
  queue := []

/-- The timer of a kind. -/
def get (b : TimerBank) : TimerKind → Timer
  | .send => b.send
  | .receive => b.receive
  | .identification => b.identification
  | .reconnect => b.reconnect

/-- Replaces the timer of a kind. -/
def set (b : TimerBank) (kind : TimerKind) (t : Timer) : TimerBank :=
  match kind with
  | .send => { b with send := t }
  | .receive => { b with receive := t }
  | .identification => { b with identification := t }
  | .reconnect => { b with reconnect := t }

/-- Starts the timer of a kind anew. -/
def restart (b : TimerBank) (now : Nat) (kind : TimerKind) : TimerBank :=
  b.set kind ((b.get kind).start now)

/-- Stops the timer of a kind. -/
def stop (b : TimerBank) (kind : TimerKind) : TimerBank :=
  b.set kind (b.get kind).stop

/-- Uses the intervals of a configuration from the next starts on. -/
def reconfigure (b : TimerBank) (config : Config) : TimerBank :=
  TimerKind.all.foldl
    (fun b kind => b.set kind ((b.get kind).setInterval (interval config kind))) b

/-- The timers in the order of their kinds. -/
def timers (b : TimerBank) : List Timer :=
  TimerKind.all.map b.get

/-- The next deadline. -/
def nextDeadline? (b : TimerBank) (clock : Clock) : Option Nat :=
  (b.timers.flatMap (·.deadlines clock)).min?

/-- Queues the expiries of the runs that have come to their end. -/
def elapse (b : TimerBank) (clock : Clock) (now : Nat) : TimerBank :=
  let expiries := b.timers.flatMap (·.due clock now)
  let b := TimerKind.all.foldl (fun b kind => b.set kind ((b.get kind).settle clock now)) b
  { b with queue := b.queue ++ expiries }

/-- An honoured expiry if there is one, the timers afterwards, and the notes about stale expiries
that were dropped. -/
structure Expired where
  kind? : Option TimerKind
  bank : TimerBank
  notes : List Note
  deriving DecidableEq, Repr

/-- Takes expiries from a queue up to the first that counts. -/
def expiredFrom (b : TimerBank) : List Expiry → Expired
  | [] => ⟨none, { b with queue := [] }, []⟩
  | x :: rest =>
    let t := b.get x.kind
    if t.honours x then ⟨some x.kind, { b.set x.kind (t.fire x) with queue := rest }, []⟩
    else
      let e := expiredFrom b rest
      { e with notes := t.staleNote x :: e.notes }

/-- Takes expiries up to the first that counts. -/
def expired (b : TimerBank) : Expired :=
  b.expiredFrom b.queue

/-- Whether an expiry that counts is queued. -/
def hasExpired (b : TimerBank) : Bool :=
  b.queue.any fun x => (b.get x.kind).honours x

end TimerBank

end FlightLink
