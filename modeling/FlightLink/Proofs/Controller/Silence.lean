import FlightLink.Proofs.Channel.Service
import FlightLink.Proofs.Controller.Drive
import FlightLink.Proofs.Controller.Effort

/-!
# Controllers out of service

A controller is followed from its start through everything that can happen to
it, with the actions that it carries out and the outputs that it gives.  The
signals of the transport and the commands are arbitrary; expiries are those of
its own timers.

Two facts about the pending actions carry the argument.  Before a channel can be
found out of service, the actions that stop its timers are pending, and once they
have been carried out no timer is armed; so an expiry queued earlier is stale,
whatever it belongs to.  From then on only silent actions become pending.
-/

namespace FlightLink.Controller

open Channel Effect

/-! ## Runs -/

/-- What can happen to a controller once it has been started. -/
inductive Occurrence where
  | signal (s : Transport.Signal)
  | signalsClosed
  | command (y : Command)
  | commandsClosed
  | tick
  /-- The queued expiries are gone through up to the first that counts. -/
  | expiry
  /-- Time passes. -/
  | elapse (duration : Nat)
  /-- The transport stops taking orders. -/
  | transportStops

/-- A controller on a clock. -/
structure Clocked where
  clock : Clock
  controller : Controller
  now : Nat

/-- What has become of a controller, the actions that it has carried out on the
way, and its outputs. -/
structure Sequel where
  after : Clocked
  performed : List Action
  outputs : List Output

/-- The actions that are carried out while the effort lasts. -/
def performed (now : Nat) : Nat → Controller → List Action
  | 0, _ => []
  | effort + 1, c =>
    match c.pending.pop?, c.performNext? now with
    | some (a, _), some (c, _) => a :: performed now effort c
    | _, _ => []

namespace Clocked

/-- Takes an input and carries out the actions that it leads to. -/
def turn (x : Clocked) (i : Input) : Sequel :=
  let c := (x.controller.take i).1
  let r := x.controller.turn x.now i
  ⟨{ x with controller := r.1 }, Controller.performed x.now c.effort c, r.2⟩

/-- A step of a run that goes on. -/
def step (x : Clocked) : Occurrence → Sequel
  | .signal s => x.turn (.signal s)
  | .signalsClosed => x.turn .signalsClosed
  | .command y => x.turn (.command y)
  | .commandsClosed => x.turn .commandsClosed
  | .tick => x.turn .tick
  | .expiry =>
    let (kind?, c, outputs) := x.controller.nextExpiry
    let y := { x with controller := c }
    match kind? with
    | none => ⟨y, [], outputs⟩
    | some kind =>
      let s := y.turn (.expired kind)
      { s with outputs := outputs ++ s.outputs }
  | .elapse duration =>
    let now := x.now + duration
    let c := { x.controller with timers := x.controller.timers.elapse x.clock now }
    ⟨⟨x.clock, c, now⟩, [], []⟩
  | .transportStops =>
    ⟨{ x with controller := { x.controller with transportGone := true } }, [], []⟩

/-- Lets something happen; a run that has come to its end does not go on. -/
def meet (x : Clocked) (o : Occurrence) : Sequel :=
  if x.controller.ending?.isSome then ⟨x, [], []⟩ else x.step o

def run (x : Clocked) : List Occurrence → Sequel
  | [] => ⟨x, [], []⟩
  | o :: rest =>
    let s := x.meet o
    let t := s.after.run rest
    ⟨t.after, s.performed ++ t.performed, s.outputs ++ t.outputs⟩

def started (clock : Clock) (config : Config) (now : Nat) : Clocked :=
  ⟨clock, ((ofConfig config).turn now .start).1, now⟩

end Clocked

/-- The timers that will be armed once the pending actions have been carried
out. -/
def armed (c : Controller) : TimerKind → Bool :=
  arming c.timers.isArmed (c.pending.toList.filterMap Action.timing?)

/-- Out of service, no timer will be armed once the pending actions have been
carried out. -/
def Hushed (c : Controller) : Prop :=
  c.channel.state = .disabled → c.armed = fun _ => false

/-- The channel is out of service, no timer is armed, and nothing pending will
change that or be heard by the transport. -/
structure Silent (c : Controller) : Prop where
  state : c.channel.state = .disabled
  disarmed : c.timers.isArmed = fun _ => false
  pending : ∀ a ∈ c.pending.toList, a.isSilent

variable {c c' : Controller}

/-! ## Actions -/

theorem timings_of_isSilent {l : List Action} (h : ∀ a ∈ l, a.isSilent) :
    l.filterMap Action.timing? = [] :=
  List.filterMap_eq_nil_iff.mpr fun a ha => Action.timing?_of_isSilent (h a ha)

/-- A controller that has carried out everything is silent out of service. -/
theorem Hushed.silent (h : c.Hushed) (hstate : c.channel.state = .disabled)
    (hpending : c.pending.toList = []) : c.Silent := by
  have harmed := h hstate
  rw [armed, hpending, List.filterMap_nil, arming_nil] at harmed
  refine ⟨hstate, harmed, ?_⟩
  rw [hpending]
  exact List.forall_mem_nil _

/-- What an action echoes leaves the channel in or out of service. -/
theorem stays_echoes (c : Controller) (a : Action) :
    (c.channel.stepAll (c.echoes a)).Stays c.channel := by
  refine stays_stepAll fun i hi c' => ?_
  unfold echoes at hi
  split at hi
  · split at hi
    · cases hi
    · rcases List.mem_pair.mp hi with rfl | rfl <;> trivial
  · cases hi

theorem orderOf?_of_isSilent {a : Action} (h : a.isSilent) :
    ∀ o ∈ c.orderOf? a, o = .reconfigure c.channel.config.endpoint := by
  intro o ho
  cases a with
  | reconfigure => exact (Option.some.inj ho).symm
  | log r => cases ho
  | deliver m => cases ho
  | _ => cases h

section Perform

variable {now : Nat} {r : Result}

/-- What carrying out the next action does to channel, pending actions and
timers. -/
theorem exists_of_performNext? (h : c.performNext? now = some r) :
    ∃ a rest, c.pending.toList = a :: rest ∧
      c.pending.pop?.map Prod.fst = some a ∧
      r.1.channel = (c.channel.stepAll (c.echoes a)).channel ∧
      r.1.pending.toList = rest ++ actions (c.channel.stepAll (c.echoes a)).effects ∧
      r.1.timers.isArmed = arming c.timers.isArmed a.timing?.toList ∧
      ∀ o ∈ orders r.2, o ∈ c.orderOf? a := by
  obtain ⟨a, rest, hpop, rfl⟩ := exists_perform_of_performNext? h
  obtain ⟨hfollows, -, -, horders⟩ := follows_perform { c with pending := rest } now a
  have htimers := timers_perform { c with pending := rest } now a
  have hpending := Fifo.toList_of_pop? hpop
  refine ⟨a, rest.toList, hpending, ?_, hfollows.channel, hfollows.pending, ?_, ?_⟩
  · rw [hpop]
    rfl
  · rw [htimers, TimerBank.isArmed_carryOut]
  · intro o ho
    rw [horders] at ho
    split at ho
    · cases ho
    · exact Option.mem_toList.mp ho

theorem Hushed.performNext? (h : c.Hushed) (hr : c.performNext? now = some r) :
    r.1.Hushed := by
  obtain ⟨a, rest, hpending, -, hchannel, hqueued, harmed, -⟩ :=
    exists_of_performNext? hr
  have hstays := stays_echoes c a
  intro hstate
  rw [hchannel] at hstate
  have hdisabled : c.channel.state = .disabled := hstays.state.mp hstate
  have hbefore := h hdisabled
  rw [Controller.armed, hpending, ← List.singleton_append, List.filterMap_append,
    arming_append] at hbefore
  rw [Controller.armed, hqueued, List.filterMap_append,
    timings_of_isSilent (hstays.silent hdisabled), List.append_nil, harmed]
  exact hbefore

theorem Silent.performNext? (h : c.Silent) (hr : c.performNext? now = some r) :
    r.1.Silent ∧ (∀ a ∈ c.pending.pop?.map Prod.fst, a.isSilent) ∧
      ∀ o ∈ orders r.2, ∃ endpoint, o = .reconfigure endpoint := by
  obtain ⟨a, rest, hpending, hpop, hchannel, hqueued, harmed, horders⟩ :=
    exists_of_performNext? hr
  have hstays := stays_echoes c a
  have ha : a.isSilent := h.pending a (by rw [hpending]; exact List.mem_cons_self)
  refine ⟨⟨?_, ?_, ?_⟩, ?_, ?_⟩
  · rw [hchannel]
    exact hstays.state.mpr h.state
  · rw [harmed, Action.timing?_of_isSilent ha]
    exact h.disarmed
  · intro b hb
    rw [hqueued] at hb
    rcases List.mem_append.mp hb with hold | hnew
    · exact h.pending b (by rw [hpending]; exact List.mem_cons_of_mem a hold)
    · exact hstays.silent h.state b hnew
  · rw [hpop]
    intro b hb
    obtain rfl := Option.some.inj hb
    exact ha
  · intro o ho
    exact ⟨_, orderOf?_of_isSilent ha o (horders o ho)⟩

theorem Hushed.executeOnto (h : c.Hushed) (now effort : Nat) (done : List Output) :
    (executeOnto now effort done c).1.Hushed :=
  executeOnto_induction (P := fun c _ => c.Hushed) (fun h hr => h.performNext? hr) effort h

end Perform

/-- A sequel in which only silent actions are carried out, and the transport is
given nothing but new settings. -/
structure Sequel.Silent (s : Sequel) : Prop where
  after : s.after.controller.Silent
  performed : ∀ a ∈ s.performed, a.isSilent
  orders : ∀ o ∈ orders s.outputs, ∃ endpoint, o = .reconfigure endpoint

theorem Silent.executeOnto (h : c.Silent) (clock : Clock) (now effort : Nat)
    {done : List Output}
    (hdone : ∀ o ∈ orders done, ∃ endpoint, o = .reconfigure endpoint) :
    Sequel.Silent ⟨⟨clock, (executeOnto now effort done c).1, now⟩,
      Controller.performed now effort c, (executeOnto now effort done c).2⟩ := by
  have hreverse : ∀ l : List Output, orders l.reverse = (orders l).reverse :=
    fun l => List.filterMap_reverse
  induction effort generalizing c done with
  | zero =>
      refine ⟨h, List.forall_mem_nil _, ?_⟩
      intro o ho
      rw [Controller.executeOnto, hreverse, List.mem_reverse] at ho
      exact hdone o ho
  | succ effort ih =>
      rw [Controller.executeOnto, Controller.performed]
      cases hnext : c.performNext? now with
      | none =>
          refine ⟨h, ?_, ?_⟩
          · cases c.pending.pop? <;> exact List.forall_mem_nil _
          · intro o ho
            rw [hreverse, List.mem_reverse] at ho
            exact hdone o ho
      | some r =>
          obtain ⟨hsilent, hfirst, horders⟩ := h.performNext? hnext
          have hboth : ∀ o ∈ orders (r.2.reverse ++ done),
              ∃ endpoint, o = .reconfigure endpoint := by
            intro o ho
            rw [orders_append, hreverse, List.mem_append, List.mem_reverse] at ho
            exact ho.elim (horders o) (hdone o)
          obtain ⟨hafter, hperformed, houtputs⟩ := ih hsilent hboth
          refine ⟨hafter, ?_, houtputs⟩
          cases hpop : c.pending.pop? with
          | none => exact List.forall_mem_nil _
          | some p =>
              intro a ha
              rcases List.mem_cons.mp ha with rfl | hrest
              · exact hfirst p.1 (by rw [hpop]; rfl)
              · exact hperformed a hrest

/-! ## Inputs -/

/-- Inputs that change nothing about whether the channel is in service, and that
leave it silent out of service. -/
def Input.IsCivil (c : Controller) : Input → Prop
  | .start | .command .enable => False
  | .command .disable => c.channel.state = .disabled
  | .expired _ => c.channel.state ≠ .disabled
  | _ => True

theorem stays_inputs {i : Input} (hi : i.IsCivil c) :
    (c.channel.stepAll (c.inputs i)).Stays c.channel := by
  have hone : ∀ j : Channel.Input, c.channel.Civil j →
      (c.channel.stepAll [j]).Stays c.channel := by
    intro j hj
    exact (stays_step hj).andThen (Outcome.stays_noted rfl [])
  cases i with
  | start => cases hi
  | signal s =>
      cases s with
      | received bytes =>
          refine stays_stepAll fun j hj c' => ?_
          obtain ⟨cut, -, hj⟩ := List.mem_flatMap.mp hj
          cases cut with
          | incomplete => cases hj
          | _ => obtain rfl := List.mem_singleton.mp hj; trivial
      | _ => exact hone _ trivial
  | expired kind => exact hone _ fun hdisabled => absurd hdisabled hi
  | command y => exact hone _ (by cases y <;> exact hi)
  | signalsClosed | commandsClosed | tick => exact Outcome.stays_noted rfl []

theorem Silent.take (h : c.Silent) {i : Input} (hi : i.IsCivil c) :
    (c.take i).1.Silent := by
  have hfollows := (c.follows_take i).1
  have hstays := stays_inputs hi
  constructor
  · rw [hfollows.channel]
    exact hstays.state.mpr h.state
  · rw [take_timers]
    exact h.disarmed
  · intro a ha
    rw [hfollows.pending] at ha
    rcases List.mem_append.mp ha with hold | hnew
    · exact h.pending a hold
    · exact hstays.silent h.state a hnew

theorem armed_take (c : Controller) (i : Input) :
    (c.take i).1.armed = arming c.armed (timings (c.channel.stepAll (c.inputs i)).effects) := by
  rw [armed, take_timers, (c.follows_take i).1.pending, List.filterMap_append,
    arming_append]
  rfl

/-- Going out of service stops the timers unless they have been stopped. -/
theorem Hushed.arming_disable (h : c.Hushed) :
    arming c.armed (timings c.channel.disable.effects) = fun _ => false := by
  by_cases hstate : c.channel.state = .disabled
  · rw [disable, if_pos hstate]
    exact h hstate
  · exact c.channel.arming_disable hstate c.armed

theorem Hushed.take (h : c.Hushed) {i : Input}
    (hexpired : ∀ kind, i = .expired kind → c.channel.state ≠ .disabled) :
    (c.take i).1.Hushed := by
  intro hdisabled
  rw [armed_take]
  rw [(c.follows_take i).1.channel] at hdisabled
  have hone : ∀ j : Channel.Input,
      (c.channel.stepAll [j]).channel = (c.channel.step j).channel ∧
        (c.channel.stepAll [j]).effects = (c.channel.step j).effects := by
    intro j
    exact ⟨rfl, List.append_nil _⟩
  by_cases hcivil : i.IsCivil c
  · have hstays := stays_inputs hcivil
    have hbefore := hstays.state.mp hdisabled
    have hsilent := timings_of_isSilent (hstays.silent hbefore)
    rw [timings, collect, hsilent]
    exact h hbefore
  · cases i with
    | start =>
        rw [inputs, (hone .start).2, Channel.step, Channel.start]
        rw [inputs, (hone .start).1, Channel.step, Channel.start] at hdisabled
        cases hstart : c.channel.config.startState with
        | dataReady =>
            rw [hstart] at hdisabled
            simpa using h hdisabled
        | disabled => exact h.arming_disable
    | expired kind => exact absurd (hexpired kind rfl) hcivil
    | command y =>
        rw [inputs, (hone _).2, Channel.step]
        rw [inputs, (hone _).1, Channel.step] at hdisabled
        cases y with
        | disable => exact h.arming_disable
        | enable =>
            rw [obey] at hdisabled ⊢
            by_cases hstate : c.channel.state = .disabled
            · rw [if_pos hstate] at hdisabled
              cases hdisabled
            · rw [if_neg hstate] at hdisabled
              exact absurd hdisabled hstate
        | _ => exact absurd trivial hcivil
    | _ => exact absurd trivial hcivil

/-! ## Turns -/

/-- Carrying out actions leaves the channel in or out of service. -/
theorem disabled_executeOnto (now effort : Nat) (done : List Output) (c : Controller) :
    (executeOnto now effort done c).1.channel.state = .disabled ↔
      c.channel.state = .disabled := by
  refine executeOnto_induction (P := fun c' _ =>
    c'.channel.state = .disabled ↔ c.channel.state = .disabled) ?_ effort Iff.rfl
  intro c' outputs r h hnext
  obtain ⟨a, rest, -, -, hchannel, -⟩ := exists_of_performNext? hnext
  rw [hchannel]
  exact (stays_echoes c' a).state.trans h

/-- What every turn leaves behind: a hushed controller that has carried out all
of its actions, unless its run has come to its end. -/
structure Tidy (c : Controller) : Prop where
  hushed : c.Hushed
  done : c.ending? = none → c.pending.toList = []

theorem Tidy.turn (h : c.Tidy) (hgoes : c.ending? = none) (now : Nat) {i : Input}
    (hexpired : ∀ kind, i = .expired kind → c.channel.state ≠ .disabled) :
    (c.turn now i).1.Tidy := by
  rw [turn_eq hgoes]
  constructor
  · exact (h.hushed.take hexpired).executeOnto now _ []
  · exact pending_execute (c.take i).1 now

/-- An expiry that counts finds the channel in service. -/
theorem Tidy.ne_disabled_of_expired (h : c.Tidy) (hgoes : c.ending? = none)
    {kind : TimerKind} (hkind : c.timers.expired.kind? = some kind) :
    c.channel.state ≠ .disabled := by
  intro hdisabled
  have hexpired := c.timers.isArmed_expiredFrom c.timers.queue
  have harmed := h.hushed hdisabled
  rw [TimerBank.expired] at hkind
  rw [hkind] at hexpired
  rw [armed, h.done hgoes, List.filterMap_nil, arming_nil] at harmed
  rw [harmed] at hexpired
  exact absurd hexpired.1 Bool.false_ne_true

theorem isArmed_expired_of_none {b : TimerBank} (hkind : b.expired.kind? = none) :
    b.expired.bank.isArmed = b.isArmed := by
  have hexpired := b.isArmed_expiredFrom b.queue
  rw [TimerBank.expired] at hkind
  rw [hkind] at hexpired
  exact hexpired

/-! ## Runs -/

variable {x : Clocked}

theorem Tidy.step (h : x.controller.Tidy)
    (hgoes : x.controller.ending? = none) (o : Occurrence) :
    (x.step o).after.controller.Tidy := by
  cases o with
  | signal s => exact h.turn hgoes x.now nofun
  | signalsClosed => exact h.turn hgoes x.now nofun
  | command y => exact h.turn hgoes x.now nofun
  | commandsClosed => exact h.turn hgoes x.now nofun
  | tick => exact h.turn hgoes x.now nofun
  | elapse duration =>
      refine ⟨?_, h.done⟩
      intro hdisabled
      have harmed := h.hushed hdisabled
      rw [armed, ← TimerBank.isArmed_elapse _ x.clock (x.now + duration)] at harmed
      exact harmed
  | transportStops => exact ⟨h.hushed, h.done⟩
  | expiry =>
      simp only [Clocked.step, nextExpiry]
      cases hkind : x.controller.timers.expired.kind? with
      | none =>
          refine ⟨?_, h.done⟩
          intro hdisabled
          have harmed := h.hushed hdisabled
          rw [armed, ← isArmed_expired_of_none hkind] at harmed
          exact harmed
      | some kind =>
          have hstate := h.ne_disabled_of_expired hgoes hkind
          let c : Controller :=
            { x.controller with timers := x.controller.timers.expired.bank }
          have htidy : c.Tidy := ⟨fun hdisabled => absurd hdisabled hstate, h.done⟩
          exact htidy.turn hgoes x.now fun _ _ => hstate

theorem Tidy.meet (h : x.controller.Tidy) (o : Occurrence) :
    (x.meet o).after.controller.Tidy := by
  rw [Clocked.meet]
  cases hgoes : x.controller.ending? with
  | some ending => exact h
  | none => exact h.step hgoes o

theorem Tidy.run (h : x.controller.Tidy) (l : List Occurrence) :
    (x.run l).after.controller.Tidy := by
  induction l generalizing x with
  | nil => exact h
  | cons o rest ih => exact ih (h.meet o)

theorem tidy_started (clock : Clock) (config : Config) (now : Nat) :
    (Clocked.started clock config now).controller.Tidy := by
  have hhushed : (ofConfig config).Hushed := fun hdisabled => nomatch hdisabled
  have htidy : (ofConfig config).Tidy := ⟨hhushed, fun _ => rfl⟩
  have hstart : ∀ kind, Input.start = .expired kind →
      (ofConfig config).channel.state ≠ .disabled := nofun
  have hturn := htidy.turn rfl now hstart
  exact hturn

theorem Silent.turn (h : x.controller.Silent) (hgoes : x.controller.ending? = none)
    {i : Input} (hi : i.IsCivil x.controller) : (x.turn i).Silent := by
  have hnone : ∀ o ∈ orders [], ∃ endpoint, o = .reconfigure endpoint :=
    List.forall_mem_nil _
  obtain ⟨hafter, hperformed, horders⟩ :=
    (h.take hi).executeOnto x.clock x.now (x.controller.take i).1.effort hnone
  rw [Clocked.turn, turn_eq hgoes]
  refine ⟨hafter, hperformed, ?_⟩
  intro o ho
  rw [orders_append, (x.controller.follows_take i).2] at ho
  exact horders o ho

theorem Silent.step (h : x.controller.Silent) (hgoes : x.controller.ending? = none)
    {o : Occurrence} (ho : o ≠ .command .enable) : (x.step o).Silent := by
  cases o with
  | signal s => exact h.turn hgoes trivial
  | signalsClosed => exact h.turn hgoes trivial
  | commandsClosed => exact h.turn hgoes trivial
  | tick => exact h.turn hgoes trivial
  | command y =>
      apply h.turn hgoes
      cases y with
      | disable => exact h.state
      | enable => exact absurd rfl ho
      | _ => trivial
  | elapse duration =>
      have hdisarmed :=
        (TimerBank.isArmed_elapse _ x.clock (x.now + duration)).trans h.disarmed
      exact ⟨⟨h.state, hdisarmed, h.pending⟩, List.forall_mem_nil _, List.forall_mem_nil _⟩
  | transportStops => exact ⟨⟨h.state, h.disarmed, h.pending⟩, List.forall_mem_nil _, List.forall_mem_nil _⟩
  | expiry =>
      -- Whatever is queued belongs to a run of a timer that is not armed.
      have hkind : x.controller.timers.expired.kind? = none := by
        have hexpired := x.controller.timers.isArmed_expiredFrom x.controller.timers.queue
        rw [h.disarmed] at hexpired
        rw [TimerBank.expired]
        cases hkind : (x.controller.timers.expiredFrom x.controller.timers.queue).kind? with
        | none => rfl
        | some kind =>
            rw [hkind] at hexpired
            exact absurd hexpired.1 Bool.false_ne_true
      have hdisarmed := (isArmed_expired_of_none hkind).trans h.disarmed
      simp only [Clocked.step, nextExpiry, hkind]
      refine ⟨⟨h.state, hdisarmed, h.pending⟩, List.forall_mem_nil _, ?_⟩
      rw [orders_notes]
      exact List.forall_mem_nil _

theorem Silent.run (h : x.controller.Silent) {l : List Occurrence}
    (hl : .command .enable ∉ l) : (x.run l).Silent := by
  induction l generalizing x with
  | nil => exact ⟨h, List.forall_mem_nil _, List.forall_mem_nil _⟩
  | cons o rest ih =>
      rw [List.mem_cons, not_or] at hl
      have hfirst : (x.meet o).Silent := by
        rw [Clocked.meet]
        cases hgoes : x.controller.ending? with
        | some ending => exact ⟨h, List.forall_mem_nil _, List.forall_mem_nil _⟩
        | none => exact h.step hgoes (Ne.symm hl.1)
      have hrest := ih hfirst.after hl.2
      refine ⟨hrest.after, ?_, ?_⟩
      · intro a ha
        exact (List.mem_append.mp ha).elim (hfirst.performed a) (hrest.performed a)
      · intro o ho
        rw [Clocked.run, orders_append] at ho
        exact (List.mem_append.mp ho).elim (hfirst.orders o) (hrest.orders o)

theorem run_append (x : Clocked) (l l' : List Occurrence) :
    (x.run (l ++ l')).after = ((x.run l).after.run l').after := by
  induction l generalizing x with
  | nil => rfl
  | cons o rest ih => exact ih (x.meet o).after

theorem disabled_turn (hgoes : c.ending? = none) (now : Nat) {i : Input}
    (hi : (c.take i).1.channel.state = .disabled) :
    (c.turn now i).1.channel.state = .disabled := by
  rw [turn_eq hgoes]
  exact (disabled_executeOnto now _ [] _).mpr hi

/-- Going out of service leaves a controller silent whose run goes on. -/
theorem silent_of_disable {clock : Clock} {config : Config} {now : Nat} {before : List Occurrence}
    (hbefore : before.getLast? = some (.command .disable) ∨
      before = [] ∧ config.startState = .disabled)
    (hgoes : ((Clocked.started clock config now).run before).after.controller.ending? = none) :
    ((Clocked.started clock config now).run before).after.controller.Silent := by
  have htidy := (tidy_started clock config now).run before
  refine htidy.hushed.silent ?_ (htidy.done hgoes)
  rcases hbefore with hlast | ⟨rfl, hstart⟩
  · obtain ⟨earlier, rfl⟩ := List.getLast?_eq_some_iff.mp hlast
    rw [run_append] at hgoes ⊢
    generalize ((Clocked.started clock config now).run earlier).after = x at hgoes ⊢
    have hmeet : (x.run [.command .disable]).after = (x.meet (.command .disable)).after :=
      rfl
    rw [hmeet, Clocked.meet] at hgoes ⊢
    cases hending : x.controller.ending? with
    | some ending =>
        rw [hending] at hgoes
        exact absurd (hending.symm.trans hgoes) nofun
    | none => exact disabled_turn hending x.now (disable_state x.controller.channel)
  · have hdisable : (Channel.ofConfig config).start.channel.state = .disabled := by
      rw [Channel.start, Channel.ofConfig, hstart]
      exact disable_state _
    exact disabled_turn (c := ofConfig config) (i := .start) rfl now hdisable

/-- Once a controller has gone out of service, by command or from its start, it
stays there until it is told to come back.  Meanwhile no timer is armed, it only
writes its log, hands payloads to its application and passes new settings on,
and the transport is told of nothing else. -/
theorem silent_until_enabled {clock : Clock} {config : Config} {now : Nat}
    {before after : List Occurrence}
    (hbefore : before.getLast? = some (.command .disable) ∨
      before = [] ∧ config.startState = .disabled)
    (hgoes : ((Clocked.started clock config now).run before).after.controller.ending? = none)
    (hafter : .command .enable ∉ after) :
    let s := ((Clocked.started clock config now).run before).after.run after
    s.after.controller.channel.state = .disabled ∧
      (∀ kind, s.after.controller.timers.isArmed kind = false) ∧
      (∀ a ∈ s.performed, a.isSilent) ∧
      ∀ o ∈ orders s.outputs, ∃ endpoint, o = .reconfigure endpoint := by
  have hsilent := (silent_of_disable hbefore hgoes).run hafter
  exact ⟨hsilent.after.state, fun kind => congrFun hsilent.after.disarmed kind,
    hsilent.performed, hsilent.orders⟩

/-- A client goes out of service while the expiry of its reconnect timer is
queued, which does not bring it back. -/
theorem silent_until_enabled_reconnect :
    ∃ x : Clocked, x.controller.ending? = none ∧
      x.controller.timers.queue = [⟨.reconnect, 1⟩] ∧
      (x.run [.expiry, .command .startup]).after.controller.channel.state = .disabled ∧
      ∀ o ∈ orders (x.run [.expiry, .command .startup]).outputs,
        ∃ endpoint, o = .reconfigure endpoint := by
  have hgoes : ((Clocked.started .standard (.sample .client) 0).run
      [.signal (.connected false), .elapse 5000, .command .disable]).after.controller.ending? =
        none := by
    decide +kernel
  have hqueued : ((Clocked.started .standard (.sample .client) 0).run
      [.signal (.connected false), .elapse 5000,
        .command .disable]).after.controller.timers.queue =
        [⟨.reconnect, 1⟩] := by
    decide +kernel
  have hafter : Occurrence.command .enable ∉ [.expiry, .command .startup] := by simp
  have hsilent := silent_until_enabled (.inl rfl) hgoes hafter
  exact ⟨_, hgoes, hqueued, hsilent.1, hsilent.2.2.2⟩

end FlightLink.Controller
