import FlightLink.Proofs.Channel.Hold
import Mathlib.Data.List.Induction

/-!
# Received messages over a run

A channel is used through its queue of actions: inputs in any order and with
any arguments, and takings of single actions in between.  The course of such a
run records the actions taken and the messages settled, each with its fate.

Messages are settled in the order of their arrival, those that are not yet
settled are on hold, and the payloads among the settled ones are those handed
to the application.  A protocol message is let go of only when the connection
is lost, and every one of them is reported by a warning of its own.
-/

namespace FlightLink

/-- The warning that an action logs. -/
def Action.warning? : Action → Option LogRecord
  | log r => if r.severity = .warning then some r else none
  | _ => none

instance : Effect.OmitsControl Action.warning? where
  control {a} h := by
    cases a with
    | log r =>
        have hne : r.severity ≠ .warning := by
          intro hwarning
          simp [Action.isControl, hwarning, Severity.isRoutine] at h
        exact if_neg hne
    | _ => rfl

/-- The warnings logged. -/
abbrev Effect.warnings (effects : List Effect) : List LogRecord :=
  collect Action.warning? effects

namespace Channel

open Effect

/-! ## Deliveries -/

/-- A settled payload is delivered whatever its fate is. -/
theorem deliveries_settle (c : Channel) (m : Message) (fate : Fate) :
    deliveries (c.settle m fate).effects = [m].filter Message.isPayload := by
  cases fate with
  | dispatched =>
      have hraise : ((c.messageEvent? m).elim [] fun e =>
          deliveries (c.raise e).effects) = [] := by
        cases c.messageEvent? m <;> simp
      rw [settle, deliveries, collect_dispatch, hraise]
      cases h : m.isPayload <;> simp [h]
  | released =>
      simp only [settle, releasing, Message.isPayload, List.filter_singleton]
      cases m.kind <;> simp

theorem deliveries_settleAll (c : Channel) (l : List (Message × Fate)) :
    deliveries (c.settleAll l).effects =
      (l.map Prod.fst).filter Message.isPayload := by
  induction l generalizing c with
  | nil => rfl
  | cons x rest ih =>
      obtain ⟨m, fate⟩ := x
      rw [settleAll, andThen_effects, deliveries, collect_append,
        ← deliveries, ← deliveries, ih, deliveries_settle, List.map_cons,
        ← List.filter_append]
      rfl

theorem deliveries_disable (c : Channel) : deliveries c.disable.effects = [] := by
  unfold disable
  split
  · rfl
  · simp [entering, TimerKind.all]

theorem deliveries_obey (c : Channel) (x : Command) :
    deliveries (c.obey x).effects = [] := by
  cases x with
  | data text => simp only [obey, send]; split <;> simp
  | startup => simp only [obey, send]; split <;> simp
  | shutdown => simp [obey]
  | disconnect => simp [obey]
  | disable => exact c.deliveries_disable
  | enable => simp only [obey]; split <;> simp
  | reconfigure settings =>
      simp only [obey, reconfigure]
      split
      · simp
      · split <;> simp

/-- Nothing is delivered before messages are settled. -/
theorem deliveries_before (c : Channel) (i : Input) :
    deliveries (c.before i).effects = [] := by
  match i with
  | .start =>
      simp only [before, step, start]
      split
      · simp
      · exact c.deliveries_disable
  | .raise e => exact collect_raise_eq_nil c e
  | .command x => exact c.deliveries_obey x
  | .timerExpired kind =>
      simp only [before, step, timerExpired]
      split <;> simp
  | .log severity text => simp [before, step]
  | .connectionChanged true =>
      simp only [before, step, connectionChanged, if_true]
      split <;> simp
  | .connectionChanged false => rfl
  | .receive m =>
      simp only [before, receive]
      split <;> simp
  | .confirm e =>
      simp only [before, confirm]
      split
      · simp
      · rw [andThen_effects, replay_of_held_eq_nil (raise_held _ e)]
        simp
  | .unsent none =>
      rw [before, unsent, replay_of_held_eq_nil rfl]
      rfl
  | .unsent (some e) =>
      simp only [before, unsent]
      split
      · rw [andThen_effects, replay_of_held_eq_nil rfl]
        simp
      · rw [replay_of_held_eq_nil rfl]
        rfl

/-- A step delivers the payloads that it settles. -/
theorem deliveries_step {c : Channel} (h : c.HoldsInOrder) (i : Input) :
    deliveries (c.step i).effects =
      ((c.settled i).map Prod.fst).filter Message.isPayload := by
  have hafter : ∀ c' : Channel, deliveries (c'.after i).effects = [] := by
    intro c'
    unfold after
    split <;> simp
  rw [step_eq_staged h]
  simp only [staged, andThen_effects, deliveries, collect_append]
  rw [← deliveries, ← deliveries, ← deliveries, deliveries_before, hafter,
    deliveries_settleAll]
  simp

/-! ## Connection losses -/

/-- The warning that a held protocol message is let go of. -/
def discardRecord (c : Channel) (m : Message) : LogRecord :=
  (LogRecord.plain c.config.id .warning
    s!"connection lost, discarding {m.text}").about m.kind .incoming

theorem warnings_releasing (c : Channel) (m : Message) :
    warnings (c.releasing m) =
      ([m].filter (!·.isPayload)).map c.discardRecord := by
  have hprotocol : ∀ kind : Packet.Kind, ∀ text : String,
      warnings [c.loggedReceipt .warning kind text] =
        [(LogRecord.plain c.config.id .warning text).about kind .incoming] := by
    intro kind text
    rw [loggedReceipt, recorded,
      if_neg (by simp [LogRecord.plain, LogRecord.about])]
    rfl
  unfold releasing discardRecord Message.isPayload
  rw [List.filter_singleton]
  cases h : m.kind <;> simp [hprotocol, h, Action.warning?]

/-- Each protocol message on hold is reported when the connection is lost, and
there are no other warnings. -/
theorem warnings_connectionLost (c : Channel) :
    warnings (c.step (.connectionChanged false)).effects =
      (c.held.toList.filter (!·.isPayload)).map c.discardRecord := by
  have hrelease : ∀ l : List Message, warnings (l.flatMap c.releasing) =
      (l.filter (!·.isPayload)).map c.discardRecord := by
    intro l
    induction l with
    | nil => rfl
    | cons m rest ih =>
        rw [List.flatMap_cons, warnings, collect_append, ← warnings,
          ← warnings, ih, warnings_releasing, ← List.map_append,
          ← List.filter_append]
        rfl
  simp only [step, connectionChanged, Bool.false_eq_true, if_false,
    andThen_effects, warnings, collect_append, collect_raise_eq_nil,
    List.append_nil]
  exact hrelease c.held.toList

/-- Only the loss of the connection lets go of messages. -/
theorem eq_connectionLost_of_released {c : Channel} {i : Input} {m : Message}
    (h : (m, .released) ∈ c.settled i) : i = .connectionChanged false := by
  by_cases hquiet : i.isQuiet
  · simp [(c.settled_of_isQuiet hquiet).1] at h
  match i with
  | .connectionChanged false => rfl
  | .receive _ =>
      simp only [settled] at h
      split at h <;> simp at h
  | .confirm _ => simp [settled] at h
  | .unsent _ => simp [settled] at h

/-! ## Runs -/

namespace Queued

/-- What can be done to a channel with its queue of actions. -/
inductive Operation where
  | input (i : Input)
  /-- Takes the next action. -/
  | poll

/-- The messages that arrive with an operation. -/
def Operation.arrivals : Operation → List Message
  | input i => i.arrivals
  | poll => []

/-- A channel with its queue after a run, the actions taken from the queue, and
the messages settled with their fates, all in order. -/
structure Course where
  queued : Queued
  polled : List Action
  settled : List (Message × Fate)

namespace Course

/-- The course of a new channel. -/
def ofConfig (config : Config) : Course :=
  ⟨.ofConfig config, [], []⟩

/-- The course with one more operation. -/
def next (x : Course) : Operation → Course
  | .input i =>
    { x with
      queued := (x.queued.step i).1
      settled := x.settled ++ x.queued.channel.settled i }
  | .poll =>
    { x with
      queued := x.queued.poll.2
      polled := x.polled ++ x.queued.poll.1.toList }

/-- The course of a run. -/
def run (config : Config) (ops : List Operation) : Course :=
  ops.foldl next (ofConfig config)

/-- All actions asked for so far, those that still wait included. -/
def produced (x : Course) : List Action :=
  x.polled ++ x.queued.actions.toList

/-- What the course of a run has to do with the messages received. -/
structure Accounts (x : Course) (received : List Message) : Prop where
  holds : x.queued.channel.HoldsInOrder
  settled :
    x.settled.map Prod.fst ++ x.queued.channel.held.toList = received
  delivered :
    x.produced.filterMap Action.delivered? =
      (x.settled.map Prod.fst).filter Message.isPayload

theorem produced_input (x : Course) (i : Input) :
    (x.next (.input i)).produced =
      x.produced ++ Effect.actions (x.queued.channel.step i).effects := by
  simp [produced, next, Queued.step, List.append_assoc]

theorem produced_poll (x : Course) : (x.next .poll).produced = x.produced := by
  have hpoll : x.queued.poll.1.toList ++ x.queued.poll.2.actions.toList =
      x.queued.actions.toList := by
    unfold poll
    split
    · rfl
    · next hpop => simpa using (Fifo.toList_of_pop? hpop).symm
  simp only [produced, next, List.append_assoc, hpoll]

theorem channel_poll (q : Queued) : q.poll.2.channel = q.channel := by
  unfold poll
  split <;> rfl

theorem accounts_ofConfig (config : Config) :
    (ofConfig config).Accounts [] where
  holds := fun h => (h rfl).elim
  settled := rfl
  delivered := rfl

theorem Accounts.next {x : Course} {received : List Message}
    (h : x.Accounts received) (op : Operation) :
    (x.next op).Accounts (received ++ op.arrivals) := by
  cases op with
  | input i =>
      refine ⟨holdsInOrder_step h.holds i, ?_, ?_⟩
      · have hkept : (x.next (.input i)).queued.channel.held.toList =
            x.queued.channel.kept i := by
          simp [Course.next, Queued.step, held_step h.holds]
        rw [hkept, Course.next, List.map_append, List.append_assoc,
          settled_append_kept h.holds, ← List.append_assoc, h.settled]
        rfl
      · rw [produced_input, List.filterMap_append, h.delivered, Course.next,
          List.map_append, List.filter_append]
        exact congrArg _ (deliveries_step h.holds i)
  | poll =>
      have hchannel := channel_poll x.queued
      refine ⟨?_, ?_, ?_⟩
      · rw [Course.next, hchannel]
        exact h.holds
      · simpa [Course.next, hchannel, Operation.arrivals] using h.settled
      · rw [produced_poll]
        exact h.delivered

theorem accounts_run (config : Config) (ops : List Operation) :
    (run config ops).Accounts (ops.flatMap Operation.arrivals) := by
  induction ops using List.reverseRecOn with
  | nil => exact accounts_ofConfig config
  | append_singleton ops op ih =>
      rw [run, List.foldl_append, List.flatMap_append, List.flatMap_singleton]
      exact ih.next op

/-- After any run, the payloads delivered and those on hold are the payloads
received, and all messages settled and on hold are the messages received, in
the order of their arrival.  Nothing is on hold unless an event is awaited.
Whatever the next input is, its step settles the messages that the course
records for it; only the loss of the connection lets go of messages, with one
warning for each protocol message on hold. -/
theorem received_eq_settled_append_held
    (config : Config) (ops : List Operation) :
    let x := run config ops
    let c := x.queued.channel
    let received := ops.flatMap Operation.arrivals
    x.produced.filterMap Action.delivered? ++
        c.held.toList.filter Message.isPayload =
      received.filter Message.isPayload ∧
    x.settled.map Prod.fst ++ c.held.toList = received ∧
    (c.held ≠ #[] → 0 < c.awaiting) ∧
    (∀ i, c.step i = c.staged i) ∧
    (∀ i m, (m, .released) ∈ c.settled i → i = .connectionChanged false) ∧
    warnings (c.step (.connectionChanged false)).effects =
      (c.held.toList.filter (!·.isPayload)).map c.discardRecord := by
  intro x c received
  have h : x.Accounts received := accounts_run config ops
  have hpayloads : x.produced.filterMap Action.delivered? ++
      c.held.toList.filter Message.isPayload =
        received.filter Message.isPayload := by
    rw [h.delivered, ← List.filter_append, h.settled]
  exact ⟨hpayloads, h.settled, h.holds, step_eq_staged h.holds,
    fun i m hm => eq_connectionLost_of_released hm,
    c.warnings_connectionLost⟩

end Course

end Queued

end Channel

end FlightLink
