import FlightLink.Timer.Bank

/-!
# Rehearsing timers

Timers on a clock that is moved by hand.  While the clock moves, every run that comes to its end
reports so at its own instant, earlier ones first.  The hand sleeps while it waits for the clock,
and no longer than the clock lets anybody sleep.
-/

namespace FlightLink.Rehearsal

/-- The earliest deadline within the time that the clock is about to cover. -/
def nextInstant? (deadlines : List Nat) (limit : Nat) : Option Nat :=
  (deadlines.filter (· ≤ limit)).min?

/-! ## Single timers -/

/-- A timer on the bench.  One that has been dropped can no longer be used, but a run that was
detached from it before still reports. -/
structure BenchTimer where
  timer : Timer
  dropped : Bool

/-- Timers that share a queue of expiries, all of which are kept for later reference. -/
structure Bench where
  now : Nat
  timers : List BenchTimer
  /-- Whether anybody still takes expiries. -/
  queueOpen : Bool
  seen : Array Expiry

namespace Bench

/-- A bench with timers of the given kinds and intervals. -/
def ofTimers (timers : List (TimerKind × Nat)) : Bench where
  now := 0
  timers := timers.map fun (kind, interval) => ⟨.idle kind interval, false⟩
  queueOpen := true
  seen := #[]

/-- Collects the expiries that are due now. -/
def settle (b : Bench) : Bench :=
  let due := b.timers.flatMap (·.timer.due .standard b.now)
  { b with
    timers := b.timers.map fun t => { t with timer := t.timer.settle .standard b.now }
    seen := if b.queueOpen then b.seen ++ due else b.seen }

/-- The deadlines of all runs. -/
def deadlines (b : Bench) : List Nat :=
  b.timers.flatMap (·.timer.deadlines .standard)

/-- Moves the clock to `limit`, one instant after another; `fuel` bounds the instants by the time
covered. -/
def moveTo (limit : Nat) : (fuel : Nat) → Bench → Bench
  | 0, b => { b with now := limit }
  | fuel + 1, b =>
    match nextInstant? b.deadlines limit with
    | none => { b with now := limit }
    | some t => moveTo limit fuel { b with now := max b.now t }.settle

/-- Moves the clock. -/
def advance (b : Bench) (duration : Nat) : Bench :=
  moveTo (Clock.standard.wake b.now duration) (duration + b.deadlines.length + 1) b

/-- The timer at a position, unless it has been dropped. -/
def get? (b : Bench) (i : Nat) : Option Timer :=
  match b.timers[i]? with
  | some t => if t.dropped then none else some t.timer
  | none => none

/-- Replaces the timer at a position. -/
def set (b : Bench) (i : Nat) (t : Timer) : Bench :=
  { b with timers := b.timers.set i ⟨t, false⟩ }

/-- Uses the timer at a position, if it can still be used. -/
def use? (b : Bench) (i : Nat) (f : Timer → Timer) : Option Bench :=
  (b.get? i).map fun t => (b.set i (f t)).settle

/-- Drops the timer at a position. -/
def drop? (b : Bench) (i : Nat) : Option Bench :=
  (b.get? i).map fun t => { b with timers := b.timers.set i ⟨t.stop, true⟩ }

/-- Hands an expiry that has been seen to the timer at a position, and tells whether it counted. -/
def fire? (b : Bench) (i : Nat) (expiry : Nat) : Option (Bool × Bench) :=
  match b.get? i, b.seen[expiry]? with
  | some t, some x => some (t.honours x, b.set i (t.fire x))
  | _, _ => none

/-- Which timers are armed; `none` for those dropped. -/
def armed (b : Bench) : List (Option Bool) :=
  b.timers.map fun t => if t.dropped then none else some t.timer.armed

end Bench

/-! ## The timers of a channel -/

/-- The timers of a channel on a clock. -/
structure BankStage where
  now : Nat
  bank : TimerBank

namespace BankStage

/-- The timers of a configuration at the start of the clock. -/
def ofConfig (config : Config) : BankStage := ⟨0, .ofConfig config⟩

/-- Moves the clock to `limit`, one instant after another. -/
def moveTo (limit : Nat) : (fuel : Nat) → BankStage → BankStage
  | 0, s => { s with now := limit }
  | fuel + 1, s =>
    match nextInstant? (s.bank.timers.flatMap (·.deadlines .standard)) limit with
    | none => { s with now := limit }
    | some t => moveTo limit fuel ⟨t, s.bank.elapse .standard t⟩

/-- Moves the clock; expiries are queued. -/
def advance (s : BankStage) (duration : Nat) : BankStage :=
  moveTo (Clock.standard.wake s.now duration) (duration + 1) s

/-- Waits until `limit` for an expiry that counts. -/
def awaitExpiry (limit : Nat) : (fuel : Nat) → BankStage → Option TimerKind × BankStage
  | 0, s => (none, { s with now := limit })
  | fuel + 1, s =>
    let e := s.bank.expired
    match e.kind? with
    | some kind => (some kind, ⟨s.now, e.bank⟩)
    | none =>
      match nextInstant? (e.bank.timers.flatMap (·.deadlines .standard)) limit with
      | none => (none, ⟨limit, e.bank⟩)
      | some t => awaitExpiry limit fuel ⟨t, e.bank.elapse .standard t⟩

/-- Waits for an expiry that counts. -/
def expired (s : BankStage) (duration : Nat) : Option TimerKind × BankStage :=
  awaitExpiry (Clock.standard.wake s.now duration) (duration + 2) s

/-- Which timers are armed. -/
def armed (s : BankStage) : List Bool :=
  s.bank.timers.map Timer.armed

end BankStage

end FlightLink.Rehearsal
