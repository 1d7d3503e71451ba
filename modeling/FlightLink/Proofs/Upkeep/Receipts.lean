import FlightLink.Proofs.Controller.Silence
import FlightLink.Proofs.Upkeep.Renewal

/-!
# Receive supervision

A controller is followed through time, and the messages that are handed to its
channel are written down.  They arrive in any order with confirmations, failures,
commands and expiries; time may pass at any point, also between two actions.

The receive timer of a channel that exchanges data is no older than the last sign
of life that the channel has acted on.  So when it expires, there has been none for
the whole interval.

There are two limits to this.  A message on hold has been received, but the channel
does not act on it before the confirmation that it awaits.  And an interval that is
longer than the longest sleep may come to its end as early as that.
-/

namespace FlightLink

namespace Channel

open Effect

/-- New settings are the only way to another configuration. -/
theorem Chronicle.lasting_config (config : Config) :
    Lasting (fun _ => True) (fun y => ∀ settings, y ≠ .reconfigure settings)
      (·.channel.config = config) where
  raise h _ := (raise_config _ _).trans h
  dispatch h m :=
    Lasting.dispatch_of_raise (P := (·.channel.config = config)) (fun _ _ h => h)
      (fun _ _ h _ => (raise_config _ _).trans h) h m
  forget h _ _ := h
  disable {x} h := by
    rw [← h, proceed_channel, Channel.disable]
    split <;> rfl
  obey {x y} h hy := by
    rw [← h, proceed_channel]
    cases y with
    | data text => rw [Channel.obey]; split <;> rfl
    | startup => rw [Channel.obey]; dsimp only; split <;> rfl
    | shutdown => exact raise_config _ _
    | disconnect => exact raise_config _ _
    | disable => rw [Channel.obey, Channel.disable]; split <;> rfl
    | enable => rw [Channel.obey]; split <;> rfl
    | reconfigure settings => exact absurd rfl (hy settings)

theorem config_stepAll {c : Channel} (h : c.HoldsInOrder) {l : List Input}
    (hl : ∀ i ∈ l, ∀ settings, i ≠ .command (.reconfigure settings)) :
    (c.stepAll l).channel.config = c.config := by
  have hrun := (Chronicle.lasting_config c.config).run_of_forall (x := ⟨c, []⟩) rfl h
    fun i hi y _ => by
      cases i with
      | command y => exact fun settings heq => hl _ hi settings (congrArg _ heq)
      | connectionChanged up => cases up <;> simp [Chronicle.Permits]
      | _ => simp [Chronicle.Permits]
  rwa [(Chronicle.run_faithful h l).1] at hrun

end Channel

namespace Controller

open Channel Effect

/-- A message that has been handed to the channel, and when. -/
structure Receipt where
  time : Nat
  message : Message
  deriving DecidableEq

/-- A controller at a time, with all that its channel has been handed so far. -/
structure Recorded extends Clocked where
  receipts : List Receipt

namespace Recorded

/-! ## Runs -/

/-- A new controller. -/
def ofConfig (clock : Clock) (config : Config) (now : Nat) : Recorded :=
  ⟨⟨clock, .ofConfig config, now⟩, []⟩

/-- Messages that arrive now. -/
def stamp (x : Recorded) (messages : List Message) : List Receipt :=
  messages.map (⟨x.now, ·⟩)

/-- Takes an input. -/
def take (x : Recorded) (i : Input) : Recorded where
  clock := x.clock
  controller := (x.controller.take i).1
  now := x.now
  receipts := x.receipts ++ x.stamp ((x.controller.inputs i).flatMap Channel.Input.arrivals)

/-- Goes on with another controller. -/
def become (x : Recorded) (c : Controller) : Recorded :=
  { x with controller := c }

/-- Takes the next expiry that counts, of a timer of this kind. -/
def expire (x : Recorded) (kind : TimerKind) : Recorded :=
  (x.become x.controller.nextExpiry.2.1).take (.expired kind)

/-- Lets time pass. -/
def elapse (x : Recorded) (duration : Nat) : Recorded where
  clock := x.clock
  controller :=
    { x.controller with timers := x.controller.timers.elapse x.clock (x.now + duration) }
  now := x.now + duration
  receipts := x.receipts

/-- What may be taken at any time: not an expiry, and no new settings. -/
def Admits : Input → Prop
  | .expired _ | .command (.reconfigure _) => False
  | _ => True

/-- What a new controller can become. -/
inductive Reachable (clock : Clock) (config : Config) : Recorded → Prop where
  | init (now : Nat) : Reachable clock config (ofConfig clock config now)
  | take {x : Recorded} (h : Reachable clock config x) {i : Input} (hi : Admits i) :
      Reachable clock config (x.take i)
  | perform {x : Recorded} (h : Reachable clock config x) {r : Result}
      (hr : x.controller.performNext? x.now = some r) : Reachable clock config (x.become r.1)
  /-- An expiry is taken once all actions have been carried out. -/
  | expire {x : Recorded} (h : Reachable clock config x)
      (hdone : x.controller.pending.toList = []) {kind : TimerKind}
      (hkind : x.controller.nextExpiry.1 = some kind) : Reachable clock config (x.expire kind)
  /-- Expiries that do not count are dropped. -/
  | drop {x : Recorded} (h : Reachable clock config x)
      (hnone : x.controller.nextExpiry.1 = none) :
      Reachable clock config (x.become x.controller.nextExpiry.2.1)
  | elapse {x : Recorded} (h : Reachable clock config x) (duration : Nat) :
      Reachable clock config (x.elapse duration)
  /-- The transport stops taking orders. -/
  | leave {x : Recorded} (h : Reachable clock config x) :
      Reachable clock config (x.become { x.controller with transportGone := true })

/-! ## The books of a run -/

/-- What is known of a controller in a run: which of the messages handed to its channel
are on hold, and the arms of its timers. -/
structure Books (config : Config) (acted onHold : List Receipt)
    (arm? : TimerKind → Option Arm) (x : Recorded) : Prop where
  configured : x.controller.channel.config = config
  holds : x.controller.channel.HoldsInOrder
  receipts : x.receipts = acted ++ onHold
  held : onHold.map Receipt.message = x.controller.channel.held.toList
  past : ∀ r ∈ x.receipts, r.time ≤ x.now
  timers : x.controller.timers.Tracks x.clock config x.now arm?
  interval : ∀ a, arm? .receive = some a → a.interval = TimerBank.interval config .receive

/-- While data are exchanged, the receive timer is going to be started, or has been
since the last sign of life that the channel has acted on. -/
def Fresh (acted : List Receipt) (arm? : TimerKind → Option Arm) (x : Recorded) : Prop :=
  x.controller.channel.state = .dataReady →
    let asked? := lastAsked? .receive (x.controller.pending.toList.filterMap Action.timing?)
    asked? = some true ∨ asked? = none ∧ ∃ a, arm? .receive = some a ∧
      ∀ r ∈ acted, r.message.isVital → r.time ≤ a.since

variable {clock : Clock} {config : Config} {acted onHold : List Receipt}
  {arm? : TimerKind → Option Arm} {x : Recorded}

theorem Books.ofConfig (clock : Clock) (config : Config) (now : Nat) :
    (ofConfig clock config now).Books config [] [] fun _ => none where
  configured := rfl
  holds := holdsInOrder_ofConfig config
  receipts := rfl
  held := rfl
  past := nofun
  timers := .ofConfig clock config now
  interval := nofun

/-- The channel takes in something. -/
theorem Books.follow (h : x.Books config acted onHold arm?) {l : List Channel.Input}
    (hl : ∀ i ∈ l, ∀ settings, i ≠ .command (.reconfigure settings)) {y : Recorded}
    (hfollows : x.controller.Follows l y.controller) (hclock : y.clock = x.clock)
    (htimers : y.controller.timers = x.controller.timers) (hnow : y.now = x.now)
    (hreceipts : y.receipts = x.receipts ++ x.stamp (l.flatMap Channel.Input.arrivals)) :
    ∃ newly onHold', y.Books config (acted ++ newly) onHold' arm? ∧
      (x.controller.channel.stepAll l).Renews x.controller.channel
        (newly.map Receipt.message) := by
  obtain ⟨messages, hmessages, hrenews⟩ := exists_renews_stepAll h.holds l
  have hstamp : ∀ ms, (x.stamp ms).map Receipt.message = ms := by
    intro ms
    simp [stamp, Function.comp_def]
  have hsplit : (onHold ++ x.stamp (l.flatMap Channel.Input.arrivals)).map Receipt.message =
      messages ++ (x.controller.channel.stepAll l).channel.held.toList := by
    rw [List.map_append, h.held, hstamp, hmessages]
  obtain ⟨newly, onHold', heq, rfl, hheld⟩ := List.map_eq_append_iff.1 hsplit
  refine ⟨newly, onHold', ?_, hrenews⟩
  constructor
  · rw [hfollows.channel, config_stepAll h.holds hl, h.configured]
  · rw [hfollows.channel]
    exact holdsInOrder_stepAll h.holds l
  · rw [hreceipts, h.receipts, List.append_assoc, heq, List.append_assoc]
  · rw [hheld, hfollows.channel]
  · intro r hr
    rw [hreceipts, List.mem_append] at hr
    rw [hnow]
    rcases hr with hold | hnew
    · exact h.past r hold
    · obtain ⟨m, -, rfl⟩ := List.mem_map.1 hnew
      exact Nat.le_refl _
  · rw [hclock, htimers, hnow]
    exact h.timers
  · exact h.interval

/-- What a step of the channel asks of the receive timer keeps it fresh. -/
theorem Fresh.follow (h : x.Fresh acted arm?) {l : List Channel.Input} {y : Recorded}
    {newly : List Receipt} (hfollows : x.controller.Follows l y.controller)
    (hrenews : (x.controller.channel.stepAll l).Renews x.controller.channel
      (newly.map Receipt.message)) : y.Fresh (acted ++ newly) arm? := by
  intro hready
  rw [hfollows.channel] at hready
  simp only [hfollows.pending, List.filterMap_append, lastAsked?_append]
  rcases hrenews hready with hlast | ⟨hnone, hbefore, hdull⟩
  · exact .inl (by rw [← collect, hlast, Option.some_or])
  · rw [← collect, hnone, Option.none_or]
    refine (h hbefore).imp_right ?_
    rintro ⟨hasked, a, ha, hsince⟩
    refine ⟨hasked, a, ha, fun r hr hvital => ?_⟩
    rcases List.mem_append.1 hr with hold | hnew
    · exact hsince r hold hvital
    · rw [hdull _ (List.mem_map_of_mem hnew)] at hvital
      cases hvital

/-- A step of the channel keeps the books and the freshness of the timer. -/
theorem Books.advance (h : x.Books config acted onHold arm?) (hfresh : x.Fresh acted arm?)
    {l : List Channel.Input} (hl : ∀ i ∈ l, ∀ settings, i ≠ .command (.reconfigure settings))
    {y : Recorded} (hfollows : x.controller.Follows l y.controller) (hclock : y.clock = x.clock)
    (htimers : y.controller.timers = x.controller.timers) (hnow : y.now = x.now)
    (hreceipts : y.receipts = x.receipts ++ x.stamp (l.flatMap Channel.Input.arrivals)) :
    ∃ acted' onHold', y.Books config acted' onHold' arm? ∧ y.Fresh acted' arm? := by
  obtain ⟨newly, onHold', hbooks, hrenews⟩ := h.follow hl hfollows hclock htimers hnow hreceipts
  exact ⟨_, onHold', hbooks, hfresh.follow hfollows hrenews⟩

/-- No input but a command brings new settings. -/
theorem ne_reconfigure_of_mem_inputs {c : Controller} {i : Input}
    (hi : ∀ settings, i ≠ .command (.reconfigure settings)) :
    ∀ j ∈ c.inputs i, ∀ settings, j ≠ .command (.reconfigure settings) := by
  rintro j hj settings rfl
  cases i with
  | signal s =>
      cases s with
      | received bytes =>
          obtain ⟨cut, -, hj⟩ := List.mem_flatMap.1 hj
          cases cut <;> simp [Framing.Cut.inputs] at hj
      | _ => simp [inputs] at hj
  | command y =>
      obtain rfl : .reconfigure settings = y := by simpa [inputs] using hj
      exact hi settings rfl
  | _ => simp [inputs] at hj

theorem Books.take (h : x.Books config acted onHold arm?) (hfresh : x.Fresh acted arm?)
    {i : Input} (hi : ∀ settings, i ≠ .command (.reconfigure settings)) :
    ∃ acted' onHold', (x.take i).Books config acted' onHold' arm? ∧
      (x.take i).Fresh acted' arm? :=
  h.advance hfresh (ne_reconfigure_of_mem_inputs hi) (y := x.take i)
    (x.controller.follows_take i).1 rfl (x.controller.take_timers i) rfl rfl

/-- An action is carried out: its part for the timers, and what it echoes. -/
theorem Books.perform (h : x.Books config acted onHold arm?) (hfresh : x.Fresh acted arm?)
    {r : Result} (hr : x.controller.performNext? x.now = some r) :
    ∃ acted' onHold' arm?', (x.become r.1).Books config acted' onHold' arm?' ∧
      (x.become r.1).Fresh acted' arm?' := by
  obtain ⟨a, rest, hpop, rfl⟩ := exists_perform_of_performNext? hr
  let c : Controller := { x.controller with pending := rest }
  let y := x.become { c with timers := c.timers.carryOut config x.now a }
  let arm?' := rearm config x.now arm? a.timing?.toList
  have hbooks : y.Books config acted onHold arm?' := by
    refine ⟨h.configured, h.holds, h.receipts, h.held, h.past, h.timers.carryOut a, ?_⟩
    intro b hb
    rcases rearm_cases hb with hbefore | rfl
    · exact h.interval b hbefore
    · rfl
  have hfresh' : y.Fresh acted arm?' := by
    intro hready
    have hpending : x.controller.pending.toList.filterMap Action.timing? =
        a.timing?.toList ++ rest.toList.filterMap Action.timing? := by
      rw [Fifo.toList_of_pop? hpop]
      simp only [List.filterMap_eq_flatMap_toList, List.flatMap_cons]
    have hbefore := hfresh hready
    simp only [hpending, lastAsked?_append] at hbefore
    change lastAsked? .receive (rest.toList.filterMap Action.timing?) = some true ∨
      lastAsked? .receive (rest.toList.filterMap Action.timing?) = none ∧ _
    cases hrest : lastAsked? .receive (rest.toList.filterMap Action.timing?) with
    | some last =>
        rw [hrest, Option.some_or] at hbefore
        exact .inl (hbefore.resolve_right fun hnone => nomatch hnone.1)
    | none =>
        rw [hrest, Option.none_or] at hbefore
        refine .inr ⟨rfl, ?_⟩
        simp only [arm?', rearm_eq]
        rcases hbefore with hstart | ⟨hnone, b, hb, hsince⟩
        · -- the start that was pending is carried out now
          rw [hstart]
          refine ⟨_, rfl, fun r hr _ => h.past r ?_⟩
          rw [h.receipts]
          exact List.mem_append_left _ hr
        · rw [hnone]
          exact ⟨b, hb, hsince⟩
  obtain ⟨hfollows, -⟩ := c.follows_perform x.now a
  have hechoes := c.permits_echoes a
  have harrivals : (c.echoes a).flatMap Channel.Input.arrivals = [] :=
    List.flatMap_eq_nil_iff.2 fun i hi => (hechoes i hi).1
  have htimers : (c.perform x.now a).1.timers = c.timers.carryOut config x.now a := by
    rw [timers_perform]
    exact congrArg (TimerBank.carryOut · x.now c.timers a) h.configured
  have hsettings : ∀ i ∈ c.echoes a, ∀ settings, i ≠ .command (.reconfigure settings) := by
    rintro i hi settings rfl
    exact (hechoes _ hi).2 (fun _ => True) (fun _ => False) c.channel
  have hreceipts : x.receipts =
      x.receipts ++ x.stamp ((c.echoes a).flatMap Channel.Input.arrivals) := by
    rw [harrivals]
    exact (List.append_nil _).symm
  obtain ⟨acted', onHold', hlast⟩ := hbooks.advance hfresh' hsettings
    (y := x.become (c.perform x.now a).1) ⟨hfollows.channel, hfollows.pending⟩ rfl htimers rfl
    hreceipts
  exact ⟨acted', onHold', arm?', hlast⟩

/-- Of the books only the arm of the timer that has expired is struck out. -/
theorem Books.expired (h : x.Books config acted onHold arm?) {kind : TimerKind}
    (hkind : x.controller.nextExpiry.1 = some kind) :
    (x.become x.controller.nextExpiry.2.1).Books config acted onHold
        (Function.update arm? kind none) ∧
      ∃ a, arm? kind = some a ∧ a.deadline x.clock ≤ x.now := by
  obtain ⟨k, a, hk, ha, hdue, htimers⟩ | ⟨hnone, -⟩ := h.timers.expired
  · obtain rfl : k = kind := Option.some.inj (hk.symm.trans hkind)
    refine ⟨⟨h.configured, h.holds, h.receipts, h.held, h.past, htimers, ?_⟩, a, ha, hdue⟩
    intro b hb
    rw [Function.update_apply] at hb
    split at hb
    · cases hb
    · exact h.interval b hb
  · cases hnone.symm.trans hkind

theorem Books.expire (h : x.Books config acted onHold arm?) (hfresh : x.Fresh acted arm?)
    {kind : TimerKind} (hkind : x.controller.nextExpiry.1 = some kind) :
    ∃ acted' onHold' arm?', (x.expire kind).Books config acted' onHold' arm?' ∧
      (x.expire kind).Fresh acted' arm?' := by
  obtain ⟨hbooks, -⟩ := h.expired hkind
  by_cases hreceive : kind = .receive
  · subst hreceive
    obtain ⟨newly, onHold', hafter, -⟩ := hbooks.follow
      (ne_reconfigure_of_mem_inputs (i := .expired .receive) nofun) (y := x.expire .receive)
      (follows_take _ _).1 rfl (take_timers _ _) rfl rfl
    exact ⟨_, onHold', _, hafter, fun hready => absurd hready (state_raise_ne (.inr rfl))⟩
  · have hkept : (x.become x.controller.nextExpiry.2.1).Fresh acted
        (Function.update arm? kind none) := by
      intro hready
      rw [Function.update_of_ne (Ne.symm hreceive)]
      exact hfresh hready
    obtain ⟨acted', onHold', hlast⟩ := hbooks.take hkept (i := .expired kind) nofun
    exact ⟨acted', onHold', _, hlast⟩

theorem Reachable.books (h : Reachable clock config x) :
    ∃ acted onHold arm?, x.Books config acted onHold arm? ∧ x.Fresh acted arm? := by
  induction h with
  | init now => exact ⟨[], [], _, .ofConfig clock config now, nofun⟩
  | @take x _ i hi ih =>
      obtain ⟨acted, onHold, arm?, hbooks, hfresh⟩ := ih
      have hsettings : ∀ settings, i ≠ .command (.reconfigure settings) := by
        rintro settings rfl
        exact hi
      obtain ⟨acted', onHold', hlast⟩ := hbooks.take hfresh hsettings
      exact ⟨acted', onHold', arm?, hlast⟩
  | perform _ hr ih =>
      obtain ⟨acted, onHold, arm?, hbooks, hfresh⟩ := ih
      exact hbooks.perform hfresh hr
  | expire _ _ hkind ih =>
      obtain ⟨acted, onHold, arm?, hbooks, hfresh⟩ := ih
      exact hbooks.expire hfresh hkind
  | @drop x _ hnone ih =>
      obtain ⟨acted, onHold, arm?, hbooks, hfresh⟩ := ih
      obtain ⟨k, a, hk, -⟩ | ⟨-, -, htimers⟩ := hbooks.timers.expired
      · cases hk.symm.trans hnone
      · exact ⟨acted, onHold, arm?, { hbooks with timers := htimers }, hfresh⟩
  | @elapse x _ duration ih =>
      obtain ⟨acted, onHold, arm?, hbooks, hfresh⟩ := ih
      have hle : x.now ≤ x.now + duration := Nat.le_add_right _ _
      refine ⟨acted, onHold, arm?, { hbooks with
        timers := hbooks.timers.elapse hle
        past := fun r hr => (hbooks.past r hr).trans hle }, hfresh⟩
  | leave _ ih =>
      obtain ⟨acted, onHold, arm?, hbooks, hfresh⟩ := ih
      exact ⟨acted, onHold, arm?, { hbooks with }, hfresh⟩

theorem Reachable.clock_eq (h : Reachable clock config x) : x.clock = clock := by
  induction h with
  | init now => rfl
  | take _ _ ih | perform _ _ ih | expire _ _ _ ih | drop _ _ ih | elapse _ _ ih | leave _ ih =>
      exact ih

/-- When the receive timer expires while data are exchanged, the exchange is over.  The
messages handed to the channel so far are those that it has acted on and those on hold;
there are some on hold only if an event is awaited.  The last sign of life that it has
acted on is as old as the interval, or as the longest sleep if the interval is longer. -/
theorem Reachable.silent_for_interval (h : Reachable clock config x) (hclock : clock.Saturates)
    (hdone : x.controller.pending.toList = [])
    (hexpired : x.controller.nextExpiry.1 = some .receive)
    (hready : x.controller.channel.state = .dataReady) :
    (x.expire .receive).controller.channel.state = .idle ∧
      ∃ acted onHold, x.receipts = acted ++ onHold ∧
        onHold.map Receipt.message = x.controller.channel.held.toList ∧
        (onHold ≠ [] → 0 < x.controller.channel.awaiting) ∧
        ∀ r ∈ acted, r.message.isVital →
          (Clock.seconds config.tr ≤ clock.longest →
            r.time + Clock.seconds config.tr ≤ x.now) ∧
          (clock.longest ≤ Clock.seconds config.tr → r.time + clock.longest ≤ x.now) := by
  obtain ⟨acted, onHold, arm?, hbooks, hfresh⟩ := h.books
  refine ⟨?_, acted, onHold, hbooks.receipts, hbooks.held, ?_, ?_⟩
  · have hexpire : (x.expire .receive).controller.channel.state =
        (x.controller.channel.raise .receiveTimeout).channel.state := rfl
    rw [hexpire, raise_state, next?, hready]
    cases x.controller.channel.role <;> rfl
  · intro honHold
    apply hbooks.holds
    intro hnone
    apply honHold
    rw [← List.map_eq_nil_iff, hbooks.held, hnone]
  · intro r hr hvital
    obtain ⟨-, a, ha, hdue⟩ := hbooks.expired hexpired
    rw [h.clock_eq] at hdue
    have hstart := hfresh hready
    rw [hdone] at hstart
    obtain ⟨-, b, hb, hsince⟩ := hstart.resolve_left (by simp [lastAsked?])
    obtain rfl := Option.some.inj (ha.symm.trans hb)
    have hinterval : a.interval = Clock.seconds config.tr := hbooks.interval a ha
    have hpast := hsince r hr hvital
    rw [← hinterval]
    constructor
    · intro hkept
      rw [a.deadline_of_le hclock hkept] at hdue
      exact (Nat.add_le_add_right hpast _).trans hdue
    · intro hcut
      exact (Nat.add_le_add_right hpast _).trans ((a.le_deadline hclock hcut).trans hdue)

/-! ## Runs of a client -/

/-- Carries out all actions. -/
def execute (x : Recorded) : Recorded :=
  x.become (x.controller.execute x.now).1

theorem Reachable.execute (h : Reachable clock config x) : Reachable clock config x.execute :=
  executeOnto_induction (P := fun c _ => Reachable clock config (x.become c))
    (fun h hr => h.perform hr) _ h

/-- Takes inputs, and carries out all actions after each of them. -/
def turns (x : Recorded) (inputs : List Input) : Recorded :=
  inputs.foldl (fun x i => (x.take i).execute) x

theorem Reachable.turns (h : Reachable clock config x) {inputs : List Input}
    (hi : ∀ i ∈ inputs, Admits i) : Reachable clock config (x.turns inputs) := by
  induction inputs generalizing x with
  | nil => exact h
  | cons i rest ih =>
      obtain ⟨hfirst, hrest⟩ := List.forall_mem_cons.1 hi
      exact ih (h.take hfirst).execute hrest

/-- Takes the next expiry that counts, if there is one, and carries out all actions. -/
def heed (x : Recorded) : Recorded :=
  match x.controller.nextExpiry.1 with
  | none => x
  | some kind => if x.controller.pending.toList = [] then (x.expire kind).execute else x

theorem Reachable.heed (h : Reachable clock config x) : Reachable clock config x.heed := by
  unfold Recorded.heed
  split
  · exact h
  · next kind hkind =>
      split
      · next hdone => exact (h.expire hdone hkind).execute
      · exact h

/-- The bytes of a message arrive. -/
def arrival (m : Message) : Input :=
  .signal (.received ⟨((m.encode .utf8).toOption.getD []).toArray⟩)

/-- A client that has just begun to exchange data. -/
def exchanging (config : Config) : Recorded :=
  (ofConfig .standard config 0).turns
    [.start, .signal (.connected true), .signal (.sent .remoteSetup),
      arrival (.identification "BBBB" "AAAA"), .signal (.sent .localStartup), arrival .startup]

theorem reachable_exchanging (config : Config) :
    Reachable .standard config (exchanging config) :=
  (Reachable.init 0).turns (by simp [Admits, arrival])

/-- Something happens to a client four seconds after it has begun to exchange data, and
something else in half a minute.  In between its send timer expires twice. -/
def sampleRun (early late : List Input) (rest : Nat) : Recorded :=
  (((((((exchanging (.sample .client)).elapse 4000).turns early).elapse 11000).heed.elapse
    15000).heed.elapse 500).turns late).elapse rest

theorem reachable_sampleRun {early late : List Input} (hearly : ∀ i ∈ early, Admits i)
    (hlate : ∀ i ∈ late, Admits i) (rest : Nat) :
    Reachable .standard (.sample .client) (sampleRun early late rest) := by
  have hbegun := ((reachable_exchanging (.sample .client)).elapse 4000).turns hearly
  have hbeaten := ((hbegun.elapse 11000).heed.elapse 15000).heed
  exact ((hbeaten.elapse 500).turns hlate).elapse rest

/-- A heartbeat comes after four seconds, and nothing else.  Tr expires forty seconds
later. -/
theorem silent_for_interval_sample :
    let x := sampleRun [arrival .heartbeat] [] 13500
    x.now = 44000 ∧ ⟨4000, .heartbeat⟩ ∈ x.receipts ∧
      (x.expire .receive).controller.channel.state = .idle ∧
      ∀ r ∈ x.receipts, r.message.isVital → r.time + 40000 ≤ 44000 := by
  intro x
  have hx : Reachable .standard (.sample .client) x :=
    reachable_sampleRun (by simp [Admits, arrival]) (by simp) 13500
  have hnow : x.now = 44000 := by decide +kernel
  obtain ⟨hidle, acted, onHold, hreceipts, hheld, -, hvital⟩ :=
    hx.silent_for_interval Clock.saturates_standard (by decide +kernel) (by decide +kernel)
      (by decide +kernel)
  have hnone : onHold = [] := by
    rw [← List.map_eq_nil_iff, hheld]
    decide +kernel
  refine ⟨hnow, by decide +kernel, hidle, fun r hr hsign => ?_⟩
  rw [hreceipts, hnone, List.append_nil] at hr
  rw [hnow] at hvital
  exact (hvital r hr hsign).1 (by decide)

/-- Tr expires and ends the exchange of data, although a heartbeat has been handed to the
channel within its interval. -/
structure ExpiresEarly (config : Config) (x : Recorded) : Prop where
  reachable : Reachable .standard config x
  done : x.controller.pending.toList = []
  expired : x.controller.nextExpiry.1 = some .receive
  state : x.controller.channel.state = .dataReady
  idle : (x.expire .receive).controller.channel.state = .idle
  receipt : ∃ r ∈ x.receipts, r.message = .heartbeat ∧
    x.now < r.time + Clock.seconds config.tr

/-- The heartbeat comes ten seconds before, while the confirmation of data that the client
has sent is awaited; or the interval is longer than the longest sleep. -/
theorem receive_expires_early :
    (∃ x, ExpiresEarly (.sample .client) x ∧ 0 < x.controller.channel.awaiting) ∧
      ∃ settings config x, Settings.check settings = .ok config ∧ ExpiresEarly config x ∧
        x.controller.channel.awaiting = 0 := by
  let held := sampleRun [.command (.data "x")] [arrival .heartbeat] 9500
  let config : Config := { Config.sample .client with ts := 10 ^ 10, tr := 2 ^ 64 - 1 }
  let beyond := ((((exchanging config).elapse 1000).turns
    [arrival .heartbeat]).elapse Clock.thirtyYears).heed
  have hheld : ExpiresEarly (.sample .client) held := by
    refine ⟨?_, by decide +kernel, by decide +kernel, by decide +kernel, by decide +kernel,
      ⟨30500, .heartbeat⟩, by decide +kernel, rfl, by decide +kernel⟩
    exact reachable_sampleRun (by simp [Admits]) (by simp [Admits, arrival]) 9500
  have hbeyond : ExpiresEarly config beyond := by
    refine ⟨?_, by decide +kernel, by decide +kernel, by decide +kernel, by decide +kernel,
      ⟨1000, .heartbeat⟩, by decide +kernel, rfl, by decide +kernel⟩
    exact ((((reachable_exchanging config).elapse 1000).turns
      (by simp [Admits, arrival])).elapse Clock.thirtyYears).heed
  have hcheck : { Settings.sample .client with
      intervalTs := 10 ^ 10, intervalTr := 2 ^ 64 - 1 }.check = .ok config := by
    decide +kernel
  exact ⟨⟨held, hheld, by decide +kernel⟩, _, config, beyond, hcheck, hbeyond,
    by decide +kernel⟩

end Recorded

end Controller

end FlightLink
