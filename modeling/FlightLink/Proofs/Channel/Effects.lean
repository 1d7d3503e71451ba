import FlightLink.Channel
import Mathlib.Data.List.Basic

/-!
# What the effects of a step consist of

Most statements about a step look at one kind of action only: the packets that
it sends, the payloads that it delivers, or the timers that it starts and
stops.  Each of these views picks its part out of the effects, in order, and
passes over everything else.  Log records and notes are in none of them.
-/

namespace FlightLink

/-! ## Views -/

/-- The packet that an action sends, with the event expected back. -/
@[simp] def Action.sent? : Action → Option (Message × Option Event)
  | send m after? => some (m, after?)
  | _ => none

/-- The payload that an action delivers. -/
@[simp] def Action.delivered? : Action → Option Message
  | deliver m => some m
  | _ => none

/-- The timer that an action starts or stops, and whether it is armed then. -/
@[simp] def Action.timing? : Action → Option (TimerKind × Bool)
  | restartTimer kind => some (kind, true)
  | stopTimer kind => some (kind, false)
  | _ => none

/-- Whether records of a severity report the ordinary course of things. -/
def Severity.isRoutine : Severity → Bool
  | debug | info => true
  | warning | error => false

/-- Whether an action is one of those that go with a change of state. -/
def Action.isControl : Action → Bool
  | send _ _ | restartTimer _ | stopTimer _ | disconnect | halt => true
  | log r => r.severity.isRoutine
  | reconnect | reconfigure | deliver _ => false

namespace Effect

variable {α : Type}

/-- A view without log records. -/
class OmitsRecords (pick : Action → Option α) : Prop where
  log (r : LogRecord) : pick (.log r) = none

/-- A view without log records about the ordinary course of things. -/
class OmitsRoutine (pick : Action → Option α) : Prop where
  log {r : LogRecord} (h : r.severity.isRoutine) : pick (.log r) = none

/-- A view without the actions that go with a change of state. -/
class OmitsControl (pick : Action → Option α) : Prop where
  control {a : Action} (h : a.isControl) : pick a = none

instance (pick : Action → Option α) [OmitsRecords pick] : OmitsRoutine pick :=
  ⟨fun _ => OmitsRecords.log _⟩

instance (pick : Action → Option α) [OmitsControl pick] : OmitsRoutine pick :=
  ⟨fun h => OmitsControl.control h⟩

instance : OmitsRecords Action.sent? := ⟨fun _ => rfl⟩

instance : OmitsRecords Action.delivered? := ⟨fun _ => rfl⟩

instance : OmitsRecords Action.timing? := ⟨fun _ => rfl⟩

instance : OmitsControl Action.delivered? where
  control {a} h := by
    cases a with
    | deliver m => cases h
    | _ => rfl

/-- What `pick` finds in the actions among effects. -/
def collect (pick : Action → Option α) (effects : List Effect) : List α :=
  (actions effects).filterMap pick

/-- The packets sent, with the events expected back. -/
abbrev packets (effects : List Effect) : List (Message × Option Event) :=
  collect Action.sent? effects

/-- The messages sent. -/
def messages (effects : List Effect) : List Message :=
  (packets effects).map Prod.fst

/-- The events expected back. -/
def expected (effects : List Effect) : List Event :=
  (packets effects).filterMap Prod.snd

/-- The payloads delivered. -/
abbrev deliveries (effects : List Effect) : List Message :=
  collect Action.delivered? effects

/-- The timers started and stopped. -/
abbrev timings (effects : List Effect) : List (TimerKind × Bool) :=
  collect Action.timing? effects

@[simp] theorem actions_append (earlier later : List Effect) :
    actions (earlier ++ later) = actions earlier ++ actions later := by
  simp [actions]

@[simp] theorem collect_nil (pick : Action → Option α) :
    collect pick [] = [] := rfl

@[simp] theorem collect_append
    (pick : Action → Option α) (earlier later : List Effect) :
    collect pick (earlier ++ later) =
      collect pick earlier ++ collect pick later := by
  simp [collect]

@[simp] theorem collect_action
    (pick : Action → Option α) (a : Action) (effects : List Effect) :
    collect pick (.action a :: effects) =
      (pick a).toList ++ collect pick effects := by
  cases h : pick a <;> simp [collect, actions, h]

@[simp] theorem collect_note
    (pick : Action → Option α) (n : Note) (effects : List Effect) :
    collect pick (.note n :: effects) = collect pick effects := by
  simp [collect, actions]

@[simp] theorem messages_nil : messages [] = [] := rfl

@[simp] theorem messages_append (earlier later : List Effect) :
    messages (earlier ++ later) = messages earlier ++ messages later := by
  simp [messages]

@[simp] theorem expected_nil : expected [] = [] := rfl

@[simp] theorem expected_append (earlier later : List Effect) :
    expected (earlier ++ later) = expected earlier ++ expected later := by
  simp [expected]

/-- As many events are awaited as are expected back. -/
theorem awaited_eq_length_expected (effects : List Effect) :
    awaited effects = (expected effects).length := by
  induction effects with
  | nil => rfl
  | cons x effects ih =>
      have hone : awaited [x] = (expected [x]).length := by
        match x with
        | .note n => rfl
        | .action (.send m (some e)) => rfl
        | .action (.send m none) => rfl
        | .action (.restartTimer _) | .action (.stopTimer _) => rfl
        | .action .reconnect | .action .disconnect | .action .halt => rfl
        | .action .reconfigure | .action (.deliver _) | .action (.log _) => rfl
      calc
        awaited (x :: effects) = awaited [x] + awaited effects := by
          rw [awaited, awaited, awaited, ← List.countP_append]
          rfl
        _ = (expected [x]).length + (expected effects).length := by
          rw [hone, ih]
        _ = (expected (x :: effects)).length := by
          rw [← List.length_append, ← expected_append]
          rfl

end Effect

/-! ## Parts of a step -/

namespace Channel

open Effect

variable {α : Type} {pick : Action → Option α}

/-- No view contains the records that it is blind to. -/
theorem collect_recorded {r : LogRecord} (hpick : pick (.log r) = none)
    (c : Channel) (effects : List Effect) :
    collect pick (c.recorded r :: effects) = collect pick effects := by
  rw [recorded]
  split
  · simp
  · simp [hpick]

@[simp] theorem collect_noted
    (c : Channel) (level : Note.Level) (text : String)
    (effects : List Effect) :
    collect pick (c.noted level text :: effects) = collect pick effects :=
  collect_note pick _ effects

@[simp] theorem collect_entered
    (s : State) (e? : Option Event) (effects : List Effect) :
    collect pick (entered s e? :: effects) = collect pick effects :=
  collect_note pick _ effects

@[simp] theorem collect_restarting
    (kind : TimerKind) (effects : List Effect) :
    collect pick (restarting kind :: effects) =
      (pick (.restartTimer kind)).toList ++ collect pick effects :=
  collect_action pick _ effects

@[simp] theorem collect_stopping
    (kind : TimerKind) (effects : List Effect) :
    collect pick (stopping kind :: effects) =
      (pick (.stopTimer kind)).toList ++ collect pick effects :=
  collect_action pick _ effects

section Routine

variable [OmitsRoutine pick]

@[simp] theorem collect_logged_info
    (c : Channel) (text : String) (effects : List Effect) :
    collect pick (c.logged .info text :: effects) = collect pick effects :=
  collect_recorded (OmitsRoutine.log rfl) c effects

@[simp] theorem collect_changing
    (c : Channel) (s : State) (e : Event) (effects : List Effect) :
    collect pick (c.changing s e :: effects) = collect pick effects := by
  rw [changing]
  split
  · exact collect_noted c _ _ effects
  · exact collect_logged_info c _ effects

@[simp] theorem collect_sending
    (c : Channel) (m : Message) (after? : Option Event) :
    collect pick (c.sending m after?) = (pick (.send m after?)).toList := by
  have hroutine : (c.routine m.isHeartbeat).isRoutine := by
    unfold routine
    split <;> rfl
  rw [sending, collect_recorded (OmitsRoutine.log hroutine)]
  simp

@[simp] theorem collect_delivering (c : Channel) (m : Message) :
    collect pick (c.delivering m) = (pick (.deliver m)).toList := by
  rw [delivering, loggedReceipt, collect_recorded (OmitsRoutine.log rfl)]
  simp

end Routine

section Records

variable [OmitsRecords pick]

@[simp] theorem collect_logged
    (c : Channel) (severity : Severity) (text : String)
    (effects : List Effect) :
    collect pick (c.logged severity text :: effects) = collect pick effects :=
  collect_recorded (OmitsRecords.log _) c effects

@[simp] theorem collect_loggedReceipt
    (c : Channel) (severity : Severity) (kind : Packet.Kind) (text : String)
    (effects : List Effect) :
    collect pick (c.loggedReceipt severity kind text :: effects) =
      collect pick effects :=
  collect_recorded (OmitsRecords.log _) c effects

end Records

end Channel

end FlightLink
