import FlightLink.Channel.Queued
import FlightLink.Proofs.Channel.Supervision
import Mathlib.Logic.Function.Iterate

/-!
# A channel with its timers

The actions of a channel are carried out one at a time and in their order, and
expiries are taken once none is left.  Everything else can come at any time:
commands, messages, changes of the connection, and the passing of time.  Two
things are excluded.  The only event raised from outside is that of a new
connection, and the events that come back after packets have been sent are
among those asked for.

While actions wait, the timers that the state requires are those armed once
the waiting actions have been carried out.
-/

namespace FlightLink.Channel

open Effect

/-- A channel with its actions and timers at a time, and the events that its
packets have asked for so far. -/
structure Timed where
  queued : Queued
  timers : TimerBank
  now : Nat
  asked : List Event

namespace Timed

/-- A new channel whose timers have not been started. -/
def ofConfig (config : Config) (now : Nat) : Timed :=
  ⟨.ofConfig config, .ofConfig config, now, []⟩

/-- Hands an input to the channel. -/
def take (x : Timed) (i : Input) : Timed :=
  { x with
    queued := (x.queued.step i).1
    asked := x.asked ++ expected (x.queued.channel.step i).effects }

/-- Carries out the next action, if there is one. -/
def perform (x : Timed) : Timed :=
  { x with
    queued := x.queued.poll.2
    timers :=
      x.queued.poll.1.elim x.timers
        (x.timers.carryOut x.queued.channel.config x.now) }

/-- Lets time pass. -/
def pass (x : Timed) (clock : Clock) (duration : Nat) : Timed :=
  { x with
    now := x.now + duration
    timers := x.timers.elapse clock (x.now + duration) }

/-- Takes expiries up to the first that counts. -/
def poll (x : Timed) : Timed :=
  { x with timers := x.timers.expired.bank }

/-- The inputs that may come from outside. -/
def Admits (x : Timed) : Input → Prop
  | .raise e => e = .remoteSetup
  | .confirm e => e ∈ x.asked
  | .timerExpired _ => False
  | _ => True

/-- What can happen to a channel with its timers. -/
inductive Step : Timed → Timed → Prop where
  | input {x : Timed} {i : Input} (hadmits : x.Admits i) : Step x (x.take i)
  | perform (x : Timed) : Step x x.perform
  | pass (x : Timed) (clock : Clock) (duration : Nat) : Step x (x.pass clock duration)
  | drop {x : Timed} (hstale : x.timers.expired.kind? = none) : Step x x.poll
  | expire {x : Timed} {kind : TimerKind}
      (hdone : x.queued.actions.toList = [])
      (hcounts : x.timers.expired.kind? = some kind) :
      Step x (x.poll.take (.timerExpired kind))

/-- What a new channel can become. -/
inductive Reachable (config : Config) : Timed → Prop where
  | init (now : Nat) : Reachable config (ofConfig config now)
  | step {x y : Timed} (h : Reachable config x) (hstep : Step x y) :
      Reachable config y

/-- The timers that will be armed once the waiting actions have been carried
out. -/
def armed (x : Timed) : TimerKind → Bool :=
  arming x.timers.isArmed (x.queued.actions.toList.filterMap Action.timing?)

/-- The waiting actions arm the timers as the state requires. -/
structure Keeps (x : Timed) : Prop where
  supervised : x.queued.channel.Supervised x.armed
  asked : .identificationTimeout ∉ x.asked

theorem Keeps.ofConfig (config : Config) (now : Nat) :
    (ofConfig config now).Keeps where
  supervised := by
    have harmed : (Timed.ofConfig config now).armed = fun _ => false := by
      funext kind
      cases kind <;> rfl
    rw [harmed]
    exact Supervised.ofConfig config
  asked := List.not_mem_nil

theorem armed_take (x : Timed) (i : Input) :
    (x.take i).armed =
      arming x.armed (timings (x.queued.channel.step i).effects) := by
  simp only [armed, take, Queued.step, Fifo.toList_append, List.filterMap_append,
    arming_append]
  rfl

theorem Keeps.of_step {x : Timed} {i : Input}
    (hasked : .identificationTimeout ∉ x.asked)
    (hstep : (x.queued.channel.step i).Supervised x.armed) :
    (x.take i).Keeps := by
  constructor
  · rw [armed_take]
    exact hstep.channel
  · rw [take, List.mem_append, not_or]
    exact ⟨hasked, hstep.expected⟩

/-- Carrying out an action makes no difference to what is armed in the end. -/
theorem armed_perform (x : Timed) : x.perform.armed = x.armed := by
  unfold armed perform Queued.poll
  cases hpop : x.queued.actions.pop? with
  | none => rfl
  | some p =>
      obtain ⟨a, rest⟩ := p
      rw [Fifo.toList_of_pop? hpop]
      simp only [Option.elim_some, TimerBank.isArmed_carryOut]
      cases htiming : a.timing? with
      | none => rw [List.filterMap_cons_none htiming]; rfl
      | some timing => rw [List.filterMap_cons_some htiming]; rfl

theorem Keeps.perform {x : Timed} (h : x.Keeps) : x.perform.Keeps := by
  have hchannel : x.perform.queued.channel = x.queued.channel := by
    unfold Timed.perform Queued.poll
    split <;> rfl
  constructor
  · rw [armed_perform, hchannel]
    exact h.supervised
  · exact h.asked

theorem Keeps.pass {x : Timed} (h : x.Keeps) (clock : Clock) (duration : Nat) :
    (x.pass clock duration).Keeps := by
  have harmed : (x.pass clock duration).armed = x.armed := by
    rw [armed, armed, Timed.pass, TimerBank.isArmed_elapse]
  constructor
  · rw [harmed]
    exact h.supervised
  · exact h.asked

/-- Stale expiries make no difference. -/
theorem Keeps.drop {x : Timed} (h : x.Keeps)
    (hstale : x.timers.expired.kind? = none) :
    x.poll.Keeps := by
  have hexpired := x.timers.isArmed_expiredFrom x.timers.queue
  rw [TimerBank.expired] at hstale
  rw [hstale] at hexpired
  have harmed : x.poll.armed = x.armed := by
    rw [armed, armed, poll, TimerBank.expired, hexpired]
  constructor
  · rw [harmed]
    exact h.supervised
  · exact h.asked

/-- An expiry that counts is that of an armed timer, and the channel learns of
it after all its actions have been carried out. -/
theorem Keeps.expire {x : Timed} (h : x.Keeps) {kind : TimerKind}
    (hdone : x.queued.actions.toList = [])
    (hcounts : x.timers.expired.kind? = some kind) :
    (x.poll.take (.timerExpired kind)).Keeps := by
  have hexpired := x.timers.isArmed_expiredFrom x.timers.queue
  rw [TimerBank.expired] at hcounts
  rw [hcounts] at hexpired
  obtain ⟨hkind, hrest⟩ := hexpired
  have harmed : x.armed = x.timers.isArmed := by
    rw [armed, hdone]
    rfl
  have hpoll : x.poll.armed = Function.update x.armed kind false := by
    rw [harmed, armed, poll, hdone, TimerBank.expired, hrest]
    rfl
  have hstep := h.supervised.timerExpired (harmed ▸ hkind)
  rw [← hpoll] at hstep
  exact .of_step h.asked hstep

/-- Every input that may come from outside keeps the timers in step. -/
theorem Keeps.input {x : Timed} (h : x.Keeps) {i : Input}
    (hadmits : x.Admits i) :
    (x.take i).Keeps := by
  apply Keeps.of_step h.asked
  have hchannel := h.supervised
  cases i with
  | start => exact hchannel.start
  | raise e =>
      obtain rfl : e = .remoteSetup := hadmits
      exact hchannel.raise (by simp)
  | command x => exact hchannel.obey x
  | connectionChanged connected => exact hchannel.connectionChanged connected
  | timerExpired kind => cases hadmits
  | confirm e =>
      refine hchannel.confirm ?_
      rintro rfl
      exact h.asked hadmits
  | unsent after? => exact hchannel.unsent after?
  | receive m => exact hchannel.receive m
  | log severity text =>
      refine hchannel.still rfl rfl rfl ?_ ?_
      · simp [Channel.step]
      · simp [Channel.step, expected]

theorem Keeps.step {x y : Timed} (h : x.Keeps) (hstep : Step x y) :
    y.Keeps := by
  cases hstep with
  | input hadmits => exact h.input hadmits
  | perform => exact h.perform
  | pass clock duration => exact h.pass clock duration
  | drop hstale => exact h.drop hstale
  | expire hdone hcounts => exact h.expire hdone hcounts

theorem Reachable.keeps {config : Config} {x : Timed}
    (h : Reachable config x) : x.Keeps := by
  induction h with
  | init now => exact .ofConfig config now
  | step _ hstep ih => exact ih.step hstep

/-- Whenever a channel has no action waiting, its timers are armed as its state
requires. -/
theorem Reachable.timers_follow_state {config : Config} {x : Timed}
    (h : Reachable config x)
    (hdone : x.queued.actions.toList = []) :
    Supervises x.queued.channel.role x.queued.channel.state x.timers.isArmed := by
  have harmed : x.armed = x.timers.isArmed := by
    rw [armed, hdone]
    rfl
  rw [← harmed]
  exact h.keeps.supervised.supervises

theorem Reachable.perform_iterate {config : Config} {x : Timed}
    (h : Reachable config x) (n : Nat) : Reachable config (perform^[n] x) := by
  induction n with
  | zero => exact h
  | succ n ih =>
      rw [Function.iterate_succ_apply']
      exact ih.step (.perform _)

/-- A client that has just identified itself waits for its peer to do so. -/
theorem timers_follow_state_identified :
    ∃ x, Reachable (.sample .client) x ∧ x.queued.actions.toList = [] ∧
      Supervises .client .idPending x.timers.isArmed := by
  let x₀ := ofConfig (.sample .client) 0
  let x₁ := perform^[4] (x₀.take (.connectionChanged true))
  let x₂ := perform^[2] (x₁.take (.confirm .remoteSetup))
  have hadmits : x₀.Admits (.connectionChanged true) := trivial
  have hconnected : Reachable (.sample .client) x₁ :=
    ((Reachable.init 0).step (.input hadmits)).perform_iterate 4
  have hasked : x₁.Admits (.confirm .remoteSetup) := by
    have : .remoteSetup ∈ x₁.asked := by decide +kernel
    exact this
  have h : Reachable (.sample .client) x₂ :=
    (hconnected.step (.input hasked)).perform_iterate 2
  have hdone : x₂.queued.actions.toList = [] := by decide +kernel
  have hrole : x₂.queued.channel.role = .client := by decide +kernel
  have hstate : x₂.queued.channel.state = .idPending := by decide +kernel
  have hsupervises := h.timers_follow_state hdone
  rw [hrole, hstate] at hsupervises
  exact ⟨x₂, h, hdone, hsupervises⟩

end Timed

end FlightLink.Channel
