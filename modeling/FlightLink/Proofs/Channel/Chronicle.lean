import FlightLink.Proofs.Channel.Hold
import FlightLink.Proofs.Channel.Leads

/-!
# What a channel has done

A chronicle follows a channel and writes down its deeds: the messages that it
acts on and the packets that it queues, in their true order.  One step can do
several of these, since a confirmation releases messages on hold, and each of
them may queue packets of its own.

Properties of a channel and its deeds are therefore proved for the parts that
steps are made of: raising an event, acting on a message, forgetting what is
awaited or held, going out of service, and obeying a command.  A property that
these parts keep is kept by every step.
-/

namespace FlightLink

/-- Whether an event is what a message of the peer amounts to. -/
def Event.isPeers : Event → Bool
  | remoteAccept | remoteReject | remoteIdValid | remoteIdInvalid
  | remoteStartup | remoteShutdown | remoteHeartbeat | remoteData => true
  | _ => false

namespace Channel

open Effect

/-- Without messages on hold, a failure changes the number of events awaited
only. -/
theorem unsent_of_held_eq_nil {c : Channel} (hheld : c.held = #[])
    (after? : Option Event) :
    (c.unsent after?).channel =
        { c with awaiting := c.awaiting - after?.toList.length } ∧
      packets (c.unsent after?).effects = [] := by
  cases after? with
  | none =>
      rw [unsent, replay_of_held_eq_nil hheld]
      exact ⟨rfl, rfl⟩
  | some e =>
      by_cases hawait : 0 < c.awaiting
      · have hreplay : replay { c with awaiting := c.awaiting - 1 } = ⟨_, []⟩ :=
          replay_of_held_eq_nil hheld
        simp [unsent, if_pos hawait, hreplay]
      · have hsub : c.awaiting - 1 = c.awaiting := by omega
        rw [unsent, if_neg hawait, replay_of_held_eq_nil hheld]
        simp [hsub]

/-- A message raises events of the peer only.  An identification is valid or an
acceptance if it is the message expected. -/
theorem messageEvent?_spec {c : Channel} {m : Message} {e : Event}
    (h : c.messageEvent? m = some e) :
    e.isPeers ∧ (e = .remoteIdValid → m = c.peerIdentification) ∧
      (e = .remoteAccept → m = .accept) := by
  obtain ⟨kind, text⟩ := m
  unfold messageEvent? at h
  cases kind with
  | identification =>
      simp only [identificationEvent, Option.some.injEq] at h
      split_ifs at h with hreject haccept hvalid
      · subst h
        exact ⟨rfl, by simp, by simp⟩
      · subst h haccept
        exact ⟨rfl, by simp, fun _ => rfl⟩
      · subst h hvalid
        exact ⟨rfl, fun _ => rfl, by simp⟩
      · subst h
        exact ⟨rfl, by simp, by simp⟩
  | system =>
      simp only [systemEvent?] at h
      split_ifs at h <;> cases h <;> exact ⟨rfl, by simp, by simp⟩
  | operational =>
      cases h
      exact ⟨rfl, by simp, by simp⟩
  | operator | status | unknown => cases h

/-- Takes inputs one after the other. -/
def stepAll (c : Channel) : List Input → Outcome
  | [] => ⟨c, []⟩
  | i :: rest => (c.step i).andThen (·.stepAll rest)

theorem stepAll_append (c : Channel) (l l' : List Input) :
    c.stepAll (l ++ l') = (c.stepAll l).andThen (·.stepAll l') := by
  induction l generalizing c with
  | nil => rfl
  | cons i rest ih => simp [stepAll, Outcome.andThen, ih]

theorem stepAll_singleton (c : Channel) (i : Input) : c.stepAll [i] = c.step i := by
  simp [stepAll, Outcome.andThen]

theorem holdsInOrder_ofConfig (config : Config) :
    (ofConfig config).HoldsInOrder :=
  fun hheld => absurd rfl hheld

theorem holdsInOrder_stepAll {c : Channel} (h : c.HoldsInOrder)
    (l : List Input) : (c.stepAll l).channel.HoldsInOrder := by
  induction l generalizing c with
  | nil => exact h
  | cons i rest ih => exact ih (holdsInOrder_step h i)

/-- What a channel does, as far as the peer is concerned. -/
inductive Deed where
  /-- It acts on a message while a configuration is in force. -/
  | dispatched (m : Message) (config : Config)
  /-- It queues a packet; the part of the step that does so begins in `s`. -/
  | queued (m : Message) (after? : Option Event) (s : State)

/-- The packet of a deed. -/
def Deed.packet? : Deed → Option (Message × Option Event)
  | dispatched _ _ => none
  | queued m after? _ => some (m, after?)

/-- A channel and its deeds, the latest one first. -/
structure Chronicle where
  channel : Channel
  log : List Deed

namespace Chronicle

/-- Goes on with a part of a step. -/
def proceed (x : Chronicle) (o : Outcome) : Chronicle where
  channel := o.channel
  log :=
    ((packets o.effects).map fun p => .queued p.1 p.2 x.channel.state).reverse ++
      x.log

/-- Writes down that a message is acted on. -/
def noting (x : Chronicle) (m : Message) : Chronicle :=
  { x with log := .dispatched m x.channel.config :: x.log }

/-- Settles a message. -/
def settle (x : Chronicle) (m : Message) : Fate → Chronicle
  | .dispatched => (x.noting m).proceed (x.channel.dispatch m)
  | .released => x

/-- Settles messages one after the other. -/
def settleAll (x : Chronicle) : List (Message × Fate) → Chronicle
  | [] => x
  | (m, fate) :: rest => (x.settle m fate).settleAll rest

/-- Forgets events awaited and messages held. -/
def forget (x : Chronicle) (awaiting : Nat) (held : Array Message) : Chronicle :=
  { x with channel := { x.channel with awaiting, held } }

/-- A step, part by part. -/
def step (x : Chronicle) (i : Input) : Chronicle :=
  let y := (x.proceed (x.channel.before i)).settleAll (x.channel.settled i)
  let z := y.proceed (y.channel.after i)
  z.forget z.channel.awaiting (x.channel.kept i).toArray

/-- The packets queued so far, the oldest first. -/
def queued (x : Chronicle) : List (Message × Option Event) :=
  x.log.reverse.filterMap Deed.packet?

variable {x : Chronicle}

/-! ## Faithfulness -/

theorem proceed_channel (x : Chronicle) (o : Outcome) :
    (x.proceed o).channel = o.channel := rfl

theorem queued_proceed (x : Chronicle) (o : Outcome) :
    (x.proceed o).queued = x.queued ++ packets o.effects := by
  have hpackets : ∀ l : List (Message × Option Event),
      (l.map fun p => Deed.queued p.1 p.2 x.channel.state).filterMap
        Deed.packet? = l := by
    intro l
    simp [List.filterMap_map, Function.comp_def, Deed.packet?]
  simp only [queued, proceed, List.reverse_append, List.reverse_reverse,
    List.filterMap_append, hpackets]

@[simp] theorem queued_noting (x : Chronicle) (m : Message) :
    (x.noting m).queued = x.queued := by
  simp [queued, noting, Deed.packet?]

/-- Only the channel and the packets of an outcome matter. -/
theorem proceed_congr {o p : Outcome} (hchannel : o.channel = p.channel)
    (hpackets : packets o.effects = packets p.effects) :
    x.proceed o = x.proceed p := by
  simp only [proceed, hchannel, hpackets]

theorem proceed_of_packets_eq_nil {o : Outcome}
    (hpackets : packets o.effects = []) :
    x.proceed o = { x with channel := o.channel } := by
  simp [proceed, hpackets]

theorem proceed_same {o : Outcome} (hchannel : o.channel = x.channel)
    (hpackets : packets o.effects = []) : x.proceed o = x := by
  rw [proceed_of_packets_eq_nil hpackets, hchannel]

/-- Acting on a message is raising its event. -/
theorem settle_dispatched (x : Chronicle) (m : Message) :
    x.settle m .dispatched =
      (x.channel.messageEvent? m).elim (x.noting m) fun e =>
        (x.noting m).proceed (x.channel.raise e) := by
  have hchannel := x.channel.dispatch_channel m
  have hpackets : packets (x.channel.dispatch m).effects =
      (x.channel.messageEvent? m).elim [] fun e =>
        packets (x.channel.raise e).effects := by
    rw [packets, collect_dispatch]
    simp
  rw [settle]
  cases he : x.channel.messageEvent? m with
  | none =>
      rw [he] at hchannel hpackets
      rw [proceed_of_packets_eq_nil hpackets, hchannel]
      rfl
  | some e =>
      rw [he] at hchannel hpackets
      exact proceed_congr hchannel hpackets

theorem settle_channel (x : Chronicle) (m : Message) (fate : Fate) :
    (x.settle m fate).channel = (x.channel.settle m fate).channel := by
  cases fate <;> rfl

theorem queued_settle (x : Chronicle) (m : Message) (fate : Fate) :
    (x.settle m fate).queued =
      x.queued ++ packets (x.channel.settle m fate).effects := by
  cases fate with
  | dispatched =>
      rw [settle, queued_proceed, queued_noting]
      rfl
  | released =>
      have hreleasing : packets (x.channel.releasing m) = [] := by
        unfold releasing
        cases m.kind <;> simp
      simp [settle, Channel.settle, hreleasing]

theorem settleAll_faithful (x : Chronicle) (l : List (Message × Fate)) :
    (x.settleAll l).channel = (x.channel.settleAll l).channel ∧
      (x.settleAll l).queued =
        x.queued ++ packets (x.channel.settleAll l).effects := by
  induction l generalizing x with
  | nil => simp [settleAll, Channel.settleAll]
  | cons p rest ih =>
      obtain ⟨m, fate⟩ := p
      obtain ⟨hchannel, hqueued⟩ := ih (x.settle m fate)
      rw [settle_channel] at hchannel hqueued
      constructor
      · exact hchannel
      · rw [settleAll, hqueued, queued_settle, List.append_assoc,
          Channel.settleAll, andThen_effects, ← collect_append]

/-- A chronicle follows its channel and misses no packet. -/
theorem step_faithful (h : x.channel.HoldsInOrder) (i : Input) :
    (x.step i).channel = (x.channel.step i).channel ∧
      (x.step i).queued = x.queued ++ packets (x.channel.step i).effects := by
  obtain ⟨hchannel, hqueued⟩ := settleAll_faithful
    (x.proceed (x.channel.before i)) (x.channel.settled i)
  rw [proceed_channel] at hchannel hqueued
  rw [step_eq_staged h]
  constructor
  · simp only [step, staged, forget, proceed_channel, hchannel, andThen_channel]
  · have hforget : ∀ (y : Chronicle) n held, (y.forget n held).queued = y.queued :=
      fun _ _ _ => rfl
    simp only [step, hforget, queued_proceed, hqueued, hchannel, staged,
      andThen_effects, andThen_channel, packets, collect_append,
      List.append_assoc]

theorem holdsInOrder_step (h : x.channel.HoldsInOrder) (i : Input) :
    (x.step i).channel.HoldsInOrder := by
  rw [(step_faithful h i).1]
  exact Channel.holdsInOrder_step h i

/-! ## Messages acted on -/

theorem mem_log_proceed {o : Outcome} {m : Message} {config : Config}
    (h : .dispatched m config ∈ (x.proceed o).log) :
    .dispatched m config ∈ x.log := by
  simpa [proceed] using h

theorem mem_log_settleAll {l : List (Message × Fate)} {m : Message}
    {config : Config} (h : .dispatched m config ∈ (x.settleAll l).log) :
    .dispatched m config ∈ x.log ∨ m ∈ l.map Prod.fst := by
  induction l generalizing x with
  | nil => exact .inl h
  | cons p rest ih =>
      obtain ⟨m', fate⟩ := p
      rcases ih h with hfirst | hrest
      · cases fate with
        | dispatched =>
            have hnoting := mem_log_proceed hfirst
            rcases List.mem_cons.mp hnoting with heq | hlog
            · cases heq
              exact .inr List.mem_cons_self
            · exact .inl hlog
        | released => exact .inl hfirst
      · exact .inr (List.mem_cons_of_mem _ hrest)

/-- The messages that a chronicle knows of: those acted on and those on hold. -/
structure Knows (S : Message → Prop) (x : Chronicle) : Prop where
  dispatched : ∀ {m config}, .dispatched m config ∈ x.log → S m
  held : ∀ m ∈ x.channel.held.toList, S m

/-- A chronicle gets to know the messages that arrive, and no others. -/
theorem Knows.step {S : Message → Prop} (h : x.Knows S)
    (hholds : x.channel.HoldsInOrder) {i : Input} (hi : ∀ m ∈ i.arrivals, S m) :
    (x.step i).Knows S := by
  have harrived : ∀ m ∈ (x.channel.settled i).map Prod.fst ++ x.channel.kept i, S m := by
    intro m hm
    rw [settled_append_kept hholds, List.mem_append] at hm
    exact hm.elim (h.held m) (hi m)
  constructor
  · intro m config hm
    rcases mem_log_settleAll (mem_log_proceed hm) with hlog | hsettled
    · exact h.dispatched (mem_log_proceed hlog)
    · exact harrived m (List.mem_append_left _ hsettled)
  · intro m hm
    rw [(step_faithful hholds i).1, held_step hholds] at hm
    exact harrived m (List.mem_append_right _ hm)

/-! ## What lasts -/

/-- A property that the parts of steps keep, as long as the events raised from
outside are in `E` and the commands in `C`. -/
structure Lasting (E : Event → Prop) (C : Command → Prop)
    (P : Chronicle → Prop) : Prop where
  raise {x : Chronicle} {e : Event} (h : P x) (he : E e) :
    P (x.proceed (x.channel.raise e))
  dispatch {x : Chronicle} (h : P x) (m : Message) : P (x.settle m .dispatched)
  forget {x : Chronicle} {awaiting : Nat} (h : P x)
    (hawait : awaiting ≤ x.channel.awaiting) (held : Array Message) :
    P (x.forget awaiting held)
  disable {x : Chronicle} (h : P x) : P (x.proceed x.channel.disable)
  obey {x : Chronicle} {y : Command} (h : P x) (hy : C y) :
    P (x.proceed (x.channel.obey y))

/-- The inputs of a channel that raise events in `E` only and bring commands in
`C` only. -/
def Permits (E : Event → Prop) (C : Command → Prop) (c : Channel) : Input → Prop
  | .raise e => E e
  | .command y => C y
  | .connectionChanged true => c.config.role = .client → E .localSetup
  | .connectionChanged false => E .remoteDisconnect
  | .timerExpired kind => ∀ e, kind.event? = some e → E e
  | .confirm e => 0 < c.awaiting → E e
  | .start | .unsent _ | .receive _ | .log _ _ => True

namespace Lasting

variable {E : Event → Prop} {C : Command → Prop} {P : Chronicle → Prop}

/-- If writing down a message changes nothing and events of the peer are
harmless, acting on a message is. -/
theorem dispatch_of_raise (hnoting : ∀ x m, P x → P (x.noting m))
    (hraise : ∀ x e, P x → e.isPeers → P (x.proceed (x.channel.raise e)))
    (h : P x) (m : Message) : P (x.settle m .dispatched) := by
  rw [settle_dispatched]
  cases he : x.channel.messageEvent? m with
  | none => exact hnoting x m h
  | some e => exact hraise _ e (hnoting x m h) (messageEvent?_spec he).1

variable (hlast : Lasting E C P)

include hlast

theorem settleAll (h : P x) (l : List (Message × Fate)) : P (x.settleAll l) := by
  induction l generalizing x with
  | nil => exact h
  | cons p rest ih =>
      obtain ⟨m, fate⟩ := p
      cases fate with
      | dispatched => exact ih (hlast.dispatch h m)
      | released => exact ih h

theorem before (h : P x) {i : Input} (hi : Permits E C x.channel i) :
    P (x.proceed (x.channel.before i)) := by
  have hforget : ∀ {n} (_ : n ≤ x.channel.awaiting) (held : Array Message),
      P (x.forget n held) := hlast.forget h
  match i with
  | .start =>
      simp only [Channel.before, Channel.step, start]
      split
      · rwa [proceed_same rfl (by simp)]
      · exact hlast.disable h
  | .raise e => exact hlast.raise h hi
  | .command y => exact hlast.obey h hi
  | .timerExpired kind =>
      simp only [Channel.before, Channel.step, timerExpired]
      split
      · next e he =>
          have hraise := hlast.raise h (hi e he)
          rwa [proceed_congr rfl (by simp)]
      · rwa [proceed_same rfl (by simp)]
  | .log severity text =>
      rwa [proceed_same rfl (by simp [Channel.before, Channel.step])]
  | .connectionChanged true =>
      simp only [Channel.before, Channel.step, connectionChanged, if_true]
      split
      · next hrole => exact hlast.raise h (hi hrole)
      · exact h
  | .connectionChanged false => exact hforget (Nat.zero_le _) x.channel.held
  | .receive m =>
      simp only [Channel.before, Channel.receive]
      split
      · rw [proceed_of_packets_eq_nil (by simp)]
        exact hforget (Nat.le_refl _) _
      · exact h
  | .confirm e =>
      -- A confirmation that nobody awaits raises nothing.
      rw [Channel.before]
      by_cases hawait : x.channel.awaiting = 0
      · rw [confirm, if_pos hawait, proceed_of_packets_eq_nil (by simp)]
        exact hforget (Nat.le_refl _) #[]
      · rw [confirm_eq_raise (by exact hawait) rfl]
        exact hlast.raise (hforget (Nat.sub_le _ 1) #[])
          (hi (Nat.pos_of_ne_zero hawait))
  | .unsent after? =>
      obtain ⟨hchannel, hpackets⟩ :=
        unsent_of_held_eq_nil (c := { x.channel with held := #[] }) rfl after?
      rw [Channel.before, proceed_of_packets_eq_nil hpackets, hchannel]
      exact hforget (Nat.sub_le _ _) #[]

/-- Every step keeps what its parts keep. -/
theorem step (h : P x) {i : Input} (hi : Permits E C x.channel i) :
    P (x.step i) := by
  -- The parts in the order of `Channel.staged`: before the hold is opened, what
  -- comes out of it, and what follows.
  have hsettled := hlast.settleAll (hlast.before h hi) (x.channel.settled i)
  refine hlast.forget ?_ (Nat.le_refl _) _
  unfold Channel.after
  split
  · exact hlast.raise hsettled hi
  · exact hsettled

end Lasting

/-! ## Runs -/

/-- A chronicle after a number of steps. -/
def run (x : Chronicle) (l : List Input) : Chronicle :=
  l.foldl step x

/-- A chronicle follows a run and misses no packet. -/
theorem run_faithful (h : x.channel.HoldsInOrder) (l : List Input) :
    (x.run l).channel = (x.channel.stepAll l).channel ∧
      (x.run l).queued = x.queued ++ packets (x.channel.stepAll l).effects := by
  induction l generalizing x with
  | nil => simp [run, stepAll]
  | cons i rest ih =>
      obtain ⟨hchannel, hqueued⟩ := step_faithful h i
      obtain ⟨ihchannel, ihqueued⟩ := ih (holdsInOrder_step h i)
      rw [hchannel] at ihchannel ihqueued
      constructor
      · exact ihchannel
      · rw [run, List.foldl_cons, ← run, ihqueued, hqueued, List.append_assoc,
          stepAll, andThen_effects, ← collect_append]

theorem Knows.run {S : Message → Prop} (h : x.Knows S)
    (hholds : x.channel.HoldsInOrder) {l : List Input}
    (hl : ∀ m ∈ l.flatMap Input.arrivals, S m) : (x.run l).Knows S := by
  induction l generalizing x with
  | nil => exact h
  | cons i rest ih =>
      rw [List.flatMap_cons] at hl
      refine ih (h.step hholds ?_) (holdsInOrder_step hholds i) ?_
      · exact fun m hm => hl m (List.mem_append_left _ hm)
      · exact fun m hm => hl m (List.mem_append_right _ hm)

namespace Lasting

variable {E : Event → Prop} {C : Command → Prop} {P : Chronicle → Prop}

theorem run (hlast : Lasting E C P) (h : P x)
    (hholds : x.channel.HoldsInOrder) {l : List Input}
    (hl : ∀ earlier i later, l = earlier ++ i :: later → P (x.run earlier) →
      Permits E C (x.channel.stepAll earlier).channel i) :
    P (x.run l) := by
  induction l generalizing x with
  | nil => exact h
  | cons i rest ih =>
      have hchannel := (step_faithful hholds i).1
      have hfirst : Permits E C x.channel i := hl [] i rest rfl h
      refine ih (hlast.step h hfirst) (holdsInOrder_step hholds i) ?_
      rintro earlier j later rfl hrun
      rw [hchannel]
      exact hl (i :: earlier) j later rfl hrun

/-- It is enough that the inputs are permitted wherever the property holds. -/
theorem run_of_forall (hlast : Lasting E C P) (h : P x)
    (hholds : x.channel.HoldsInOrder) {l : List Input}
    (hl : ∀ i ∈ l, ∀ y, P y → Permits E C y.channel i) :
    P (x.run l) := by
  refine hlast.run h hholds ?_
  rintro earlier i later rfl hrun
  rw [← (run_faithful hholds earlier).1]
  exact hl i (by simp) _ hrun

end Lasting

end Chronicle

end Channel

end FlightLink
