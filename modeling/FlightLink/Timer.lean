import FlightLink.Channel.Action
import FlightLink.Clock

/-!
# Timers

A timer runs once each time it is started and reports its expiry through a queue.  Every start has
a generation of its own, and an expiry counts only if its generation is the current one, so that
nothing started before a stop or a restart is observed after it, even if its expiry was already
queued.
-/

namespace FlightLink

/-- The report that a timer has run out. -/
structure Expiry where
  kind : TimerKind
  generation : Nat
  deriving DecidableEq, Repr

/-- A start of a timer: when it was made, and the interval that it was made with. -/
structure Arm where
  since : Nat
  interval : Nat
  deriving DecidableEq, Repr

/-- When an arm expires. -/
def Arm.deadline (a : Arm) (clock : Clock) : Nat := clock.wake a.since a.interval

/-- A run of a timer that has not come to its end. -/
structure Timer.Run where
  generation : Nat
  arm : Arm
  deriving DecidableEq, Repr

/-- A timer.  It is armed from a start until a stop or until an expiry is honoured. -/
structure Timer where
  kind : TimerKind
  interval : Nat
  generation : Nat
  armed : Bool
  runs : List Timer.Run
  deriving DecidableEq, Repr

namespace Timer

/-- A timer that has never been started. -/
def idle (kind : TimerKind) (interval : Nat) : Timer :=
  ⟨kind, interval, 0, false, []⟩

/-- Ends the current run, if there is one. -/
def stop (t : Timer) : Timer :=
  if t.armed then
    { t with armed := false, runs := t.runs.filter (·.generation != t.generation) }
  else t

/-- Starts a new run, which replaces the current one. -/
def start (t : Timer) (now : Nat) : Timer :=
  let t := t.stop
  let generation := t.generation + 1
  { t with
    generation, armed := true
    runs := t.runs ++ [⟨generation, ⟨now, t.interval⟩⟩] }

/-- Changes the interval of future runs. -/
def setInterval (t : Timer) (interval : Nat) : Timer :=
  { t with interval }

/-- Whether an expiry belongs to the current run. -/
def honours (t : Timer) (x : Expiry) : Bool :=
  t.armed && x.generation == t.generation

/-- Takes an expiry; the timer is no longer armed if it honours it. -/
def fire (t : Timer) (x : Expiry) : Timer :=
  if t.honours x then { t with armed := false } else t

/-- The runs that have come to their end. -/
def dueRuns (t : Timer) (clock : Clock) (now : Nat) : List Run :=
  t.runs.filter (·.arm.deadline clock ≤ now)

/-- The expiries of the runs that have come to their end. -/
def due (t : Timer) (clock : Clock) (now : Nat) : List Expiry :=
  (t.dueRuns clock now).map fun r => ⟨t.kind, r.generation⟩

/-- The timer without the runs that have come to their end. -/
def settle (t : Timer) (clock : Clock) (now : Nat) : Timer :=
  { t with runs := t.runs.filter (now < ·.arm.deadline clock) }

/-- The deadlines of the runs. -/
def deadlines (t : Timer) (clock : Clock) : List Nat :=
  t.runs.map (·.arm.deadline clock)

/-- What is noted when an expiry is dropped. -/
def staleNote (t : Timer) (x : Expiry) : Note :=
  ⟨.trace, .timer,
    s!"dropping stale {x.kind.name} expiry {x.generation} (current {t.generation})"⟩

end Timer

end FlightLink
