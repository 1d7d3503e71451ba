import FlightLink.Channel.Queued
import FlightLink.Proofs.Channel.Transition

/-!
# Messages on hold

A message that arrives while an event is awaited is held.  It is settled later:
the channel acts on it once nothing is awaited, or lets go of it when the
connection is lost.  Acting on a held message may send packets whose events are
awaited in turn, so a replay can stop anywhere among the messages held.

A step is taken apart into what comes before messages are settled, the messages
that it settles one after the other, and what comes after them.  From this it
follows for every run that messages are settled in the order of their arrival,
each of them once, and that nothing is held while nothing is awaited.
-/

namespace FlightLink

namespace Channel

open Effect

/-- What becomes of a received message that is not held any longer. -/
inductive Fate where
  /-- The channel has acted on it. -/
  | dispatched
  /-- The connection was lost while it was held. -/
  | released
  deriving DecidableEq, Repr

/-- Settles a message. -/
def settle (c : Channel) (m : Message) : Fate → Outcome
  | .dispatched => c.dispatch m
  | .released => ⟨c, c.releasing m⟩

/-- Settles messages one after the other. -/
def settleAll (c : Channel) : List (Message × Fate) → Outcome
  | [] => ⟨c, []⟩
  | (m, fate) :: rest => (c.settle m fate).andThen (·.settleAll rest)

/-- The messages at the front of a list that a replay acts on. -/
def replayed (c : Channel) : List Message → List Message
  | [] => []
  | m :: rest =>
    if c.awaiting = 0 then m :: (c.dispatch m).channel.replayed rest else []

/-- The messages that arrive with an input. -/
def Input.arrivals : Input → List Message
  | .receive m => [m]
  | _ => []

/-- What a step does before it settles messages. -/
def before (c : Channel) : Input → Outcome
  | .receive m => if 0 < c.awaiting then c.receive m else ⟨c, []⟩
  | .connectionChanged false => ⟨{ c with awaiting := 0 }, []⟩
  | .confirm e => confirm { c with held := #[] } e
  | .unsent after? => unsent { c with held := #[] } after?
  | i => c.step i

/-- The messages that a step settles. -/
def settled (c : Channel) : Input → List (Message × Fate)
  | .receive m => if 0 < c.awaiting then [] else [(m, .dispatched)]
  | .connectionChanged false => c.held.toList.map (·, .released)
  | .confirm e =>
    ((c.before (.confirm e)).channel.replayed c.held.toList).map (·, .dispatched)
  | .unsent after? =>
    ((c.before (.unsent after?)).channel.replayed c.held.toList).map
      (·, .dispatched)
  | _ => []

/-- What a step does after it has settled messages. -/
def after (c : Channel) : Input → Outcome
  | .connectionChanged false => c.raise .remoteDisconnect
  | _ => ⟨c, []⟩

/-- The messages that a step leaves on hold. -/
def kept (c : Channel) (i : Input) : List Message :=
  (c.held.toList ++ i.arrivals).drop (c.settled i).length

/-- A step taken apart. -/
def staged (c : Channel) (i : Input) : Outcome :=
  let o := ((c.before i).andThen (·.settleAll (c.settled i))).andThen (·.after i)
  ⟨{ o.channel with held := (c.kept i).toArray }, o.effects⟩

/-- Messages are held only while an event is awaited. -/
def HoldsInOrder (c : Channel) : Prop :=
  c.held ≠ #[] → 0 < c.awaiting

/-! ## Replays -/

theorem with_held_self {c : Channel} {held : Array Message}
    (h : c.held = held) : { c with held } = c := by
  subst h
  rfl

theorem dispatch_with_held (c : Channel) (held : Array Message) (m : Message) :
    dispatch { c with held } m =
      ⟨{ (c.dispatch m).channel with held }, (c.dispatch m).effects⟩ := by
  unfold dispatch
  cases m.kind with
  | identification => simp only [Outcome.andThen, raise_with_held]; rfl
  | system =>
      cases systemEvent? m.text with
      | none => rfl
      | some e => simp only [Outcome.andThen, raise_with_held]; rfl
  | operational => simp only [Outcome.andThen, raise_with_held]; rfl
  | operator | status | unknown => rfl

/-- A replay settles the messages at the front and holds the others again. -/
theorem replayOnto_eq
    (done : List (List Effect)) (c : Channel) (l : List Message) :
    replayOnto done c l =
      let o := c.settleAll ((c.replayed l).map (·, .dispatched))
      ⟨{ o.channel with held := (l.drop (c.replayed l).length).toArray },
        done.reverse.flatten ++ o.effects⟩ := by
  induction l generalizing done c with
  | nil => simp [replayOnto, replayed, settleAll]
  | cons m rest ih =>
      by_cases h : c.awaiting = 0
      · simp [replayOnto, replayed, settleAll, settle, h, ih]
      · simp [replayOnto, replayed, settleAll, h]

/-- A replay that stops early stops because an event is awaited. -/
theorem awaiting_of_replayed_lt {c : Channel} {l : List Message}
    (h : l.drop (c.replayed l).length ≠ []) :
    0 < (c.settleAll ((c.replayed l).map (·, .dispatched))).channel.awaiting := by
  induction l generalizing c with
  | nil => simp [replayed] at h
  | cons m rest ih =>
      by_cases hawait : c.awaiting = 0
      · simp only [replayed, if_pos hawait] at h ⊢
        exact ih h
      · simp only [replayed, if_neg hawait]
        exact Nat.pos_of_ne_zero hawait

theorem replayed_append_drop (c : Channel) (l : List Message) :
    c.replayed l ++ l.drop (c.replayed l).length = l := by
  induction l generalizing c with
  | nil => rfl
  | cons m rest ih =>
      by_cases hawait : c.awaiting = 0
      · simp only [replayed, if_pos hawait, List.length_cons,
          List.drop_succ_cons, List.cons_append, ih]
      · simp [replayed, hawait]

theorem replayed_with_held (c : Channel) (held : Array Message)
    (l : List Message) :
    replayed { c with held } l = c.replayed l := by
  induction l generalizing c with
  | nil => rfl
  | cons m rest ih =>
      simp only [replayed, dispatch_with_held, ih]

theorem settleAll_with_held (c : Channel) (held : Array Message)
    (l : List (Message × Fate)) :
    settleAll { c with held } l =
      ⟨{ (c.settleAll l).channel with held }, (c.settleAll l).effects⟩ := by
  induction l generalizing c with
  | nil => rfl
  | cons x rest ih =>
      obtain ⟨m, fate⟩ := x
      cases fate with
      | dispatched =>
          simp only [settleAll, settle, dispatch_with_held, Outcome.andThen, ih]
      | released =>
          simp only [settleAll, settle, Outcome.andThen, ih]
          rfl

theorem settleAll_released (c : Channel) (l : List Message) :
    c.settleAll (l.map (·, .released)) = ⟨c, l.flatMap c.releasing⟩ := by
  induction l with
  | nil => rfl
  | cons m rest ih => simp [settleAll, settle, Outcome.andThen, ih]

theorem replay_eq (c : Channel) :
    c.replay =
      let o := c.settleAll ((c.replayed c.held.toList).map (·, .dispatched))
      ⟨{ o.channel with
          held := (c.held.toList.drop (c.replayed c.held.toList).length).toArray },
        o.effects⟩ := by
  by_cases h : c.awaiting = 0
  · rw [replay, if_pos h, replayOnto_eq]
    simp
  · have hnone : c.replayed c.held.toList = [] := by
      cases c.held.toList <;> simp [replayed, h]
    rw [replay, if_neg h, hnone]
    simp [settleAll]

theorem HoldsInOrder.held_eq_nil {c : Channel} (h : c.HoldsInOrder)
    (hawait : c.awaiting = 0) : c.held = #[] := by
  by_contra hheld
  have hpos := h hheld
  omega

theorem replay_of_held_eq_nil {c : Channel} (h : c.held = #[]) :
    c.replay = ⟨c, []⟩ := by
  unfold replay
  split
  · rw [h, replayOnto, with_held_self h]
    rfl
  · rfl

/-! ## Steps -/

/-- An outcome that leaves the messages on hold and awaits all that was awaited
before. -/
structure Retains (c : Channel) (o : Outcome) : Prop where
  held : o.channel.held = c.held
  awaiting : c.awaiting ≤ o.channel.awaiting

theorem retains_of_channel_eq {c : Channel} {o : Outcome}
    (h : o.channel = c) : Retains c o := by
  subst h
  exact ⟨rfl, Nat.le_refl _⟩

theorem retains_raise (c : Channel) (e : Event) : Retains c (c.raise e) := by
  refine ⟨c.raise_held e, ?_⟩
  rw [raise_awaiting]
  exact Nat.le_add_right _ _

theorem retains_send (c : Channel) (m : Message) (after? : Option Event) :
    Retains c (c.send m after?) :=
  ⟨rfl, Nat.le_add_right _ _⟩

theorem retains_disable (c : Channel) : Retains c c.disable := by
  unfold disable
  split <;> exact ⟨rfl, Nat.le_refl _⟩

theorem retains_obey (c : Channel) (x : Command) : Retains c (c.obey x) := by
  cases x with
  | data text =>
      simp only [obey]
      split
      · exact retains_send c _ _
      · exact retains_of_channel_eq rfl
  | startup =>
      simp only [obey]
      split
      · exact ⟨rfl, Nat.le_add_right _ _⟩
      · exact ⟨rfl, Nat.le_refl _⟩
  | shutdown =>
      have h := retains_raise { c with goal := .ready } .localShutdown
      exact ⟨h.held, h.awaiting⟩
  | disconnect => exact retains_raise c _
  | disable => exact retains_disable c
  | enable =>
      simp only [obey]
      split <;> exact ⟨rfl, Nat.le_refl _⟩
  | reconfigure settings =>
      simp only [obey, reconfigure]
      split
      · exact retains_of_channel_eq rfl
      · split <;> exact ⟨rfl, Nat.le_refl _⟩

/-- Whether an input has nothing to do with messages on hold. -/
def Input.isQuiet : Input → Bool
  | .receive _ | .connectionChanged false | .confirm _ | .unsent _ => false
  | _ => true

theorem retains_step (c : Channel) {i : Input} (hquiet : i.isQuiet) :
    Retains c (c.step i) := by
  cases i with
  | start =>
      simp only [step, start]
      split
      · exact retains_of_channel_eq rfl
      · exact retains_disable c
  | raise e => exact retains_raise c e
  | command x => exact retains_obey c x
  | timerExpired kind =>
      simp only [step, timerExpired]
      split
      · next e _ => exact ⟨(retains_raise c e).held, (retains_raise c e).awaiting⟩
      · exact retains_of_channel_eq rfl
  | log severity text => exact retains_of_channel_eq rfl
  | connectionChanged connected =>
      cases connected with
      | true =>
          simp only [step, connectionChanged, if_true]
          split
          · exact retains_raise c _
          · exact retains_of_channel_eq rfl
      | false => cases hquiet
  | receive m => cases hquiet
  | confirm e => cases hquiet
  | unsent after? => cases hquiet

theorem obey_with_held (c : Channel) (held : Array Message) (x : Command) :
    obey { c with held } x =
      ⟨{ (c.obey x).channel with held }, (c.obey x).effects⟩ := by
  cases x with
  | data text => simp only [obey]; split <;> rfl
  | startup => simp only [obey]; split <;> rfl
  | shutdown => exact raise_with_held { c with goal := .ready } held _
  | disconnect => exact raise_with_held c held _
  | disable => simp only [obey, disable]; split <;> rfl
  | enable => simp only [obey]; split <;> rfl
  | reconfigure settings =>
      simp only [obey, reconfigure]
      split
      · rfl
      · split <;> rfl

/-- The messages held have no influence on a quiet step. -/
theorem step_with_held (c : Channel) (held : Array Message) {i : Input}
    (hquiet : i.isQuiet) :
    step { c with held } i =
      ⟨{ (c.step i).channel with held }, (c.step i).effects⟩ := by
  match i with
  | .start =>
      simp only [step, start]
      split
      · rfl
      · simp only [disable]; split <;> rfl
  | .raise e => exact raise_with_held c held e
  | .command x => exact obey_with_held c held x
  | .timerExpired kind =>
      have hraise := raise_with_held c held
      simp only [step, timerExpired]
      split
      · simp only [Outcome.andThen, hraise]; rfl
      · rfl
  | .log severity text => rfl
  | .connectionChanged true =>
      simp only [step, connectionChanged, if_true]
      split
      · exact raise_with_held c held _
      · rfl

theorem settled_of_isQuiet (c : Channel) {i : Input} (hquiet : i.isQuiet) :
    c.settled i = [] ∧ c.before i = c.step i ∧ i.arrivals = [] ∧
      ∀ c' : Channel, c'.after i = ⟨c', []⟩ := by
  match i with
  | .start | .raise _ | .command _ | .timerExpired _ | .log _ _
  | .connectionChanged true => exact ⟨rfl, rfl, rfl, fun _ => rfl⟩

/-- A quiet step leaves the messages on hold. -/
theorem step_eq_staged_of_isQuiet (c : Channel) {i : Input}
    (hquiet : i.isQuiet) : c.step i = c.staged i := by
  obtain ⟨hsettled, hbefore, harrivals, hafter⟩ := c.settled_of_isQuiet hquiet
  simp only [staged, kept, hsettled, hbefore, harrivals, hafter, settleAll,
    Outcome.andThen, List.append_nil, List.length_nil, List.drop_zero,
    Array.toArray_toList]
  rw [with_held_self (retains_step c hquiet).held]

/-- A step that ends with a replay settles what the replay acts on. -/
theorem staged_eq_andThen_replay {c : Channel} (i : Input) (o : Outcome)
    (hbefore : c.before i = ⟨{ o.channel with held := #[] }, o.effects⟩)
    (hheld : o.channel.held = c.held)
    (hsettled : c.settled i =
      ((c.before i).channel.replayed c.held.toList).map (·, .dispatched))
    (harrivals : i.arrivals = [])
    (hafter : ∀ c' : Channel, c'.after i = ⟨c', []⟩) :
    o.andThen replay = c.staged i := by
  simp only [staged, kept, hsettled, harrivals, hbefore, hafter, Outcome.andThen,
    replay_eq, hheld, replayed_with_held, settleAll_with_held,
    List.append_nil, List.length_map]

theorem connectionLost_eq_staged (c : Channel) :
    c.connectionChanged false = c.staged (.connectionChanged false) := by
  have hkept : c.kept (.connectionChanged false) = [] := by
    simp [kept, settled, Input.arrivals]
  have hraise := raise_with_held { c with awaiting := 0 } #[] .remoteDisconnect
  simp only [connectionChanged, Bool.false_eq_true, if_false, staged, hkept,
    before, settled, settleAll_released, after, release, Outcome.andThen, hraise]
  rfl

theorem receive_eq_staged {c : Channel} (h : c.HoldsInOrder) (m : Message) :
    c.receive m = c.staged (.receive m) := by
  by_cases hawait : 0 < c.awaiting
  · have hpush : (c.held.toList ++ [m]).toArray = c.held.push m := by
      rw [← Array.toList_push]
    simp [staged, before, settled, after, kept, settleAll, Input.arrivals,
      receive, hawait, hpush, Outcome.andThen]
  · have hnone := h.held_eq_nil (by omega)
    have hheld : (c.dispatch m).channel.held = #[] := by
      rw [dispatch_held, hnone]
    have hkept : c.kept (.receive m) = [] := by
      simp [kept, settled, Input.arrivals, hawait, hnone]
    simp only [staged, before, settled, after, hkept, settleAll, settle, receive,
      if_neg hawait, Outcome.andThen, List.append_nil, List.nil_append]
    rw [with_held_self hheld]

theorem confirm_eq_andThen_replay {c : Channel} (hawait : c.awaiting ≠ 0)
    (e : Event) :
    c.confirm e = (raise { c with awaiting := c.awaiting - 1 } e).andThen replay :=
  if_neg hawait

/-- Without messages on hold, an event that comes back is only raised. -/
theorem confirm_eq_raise {c : Channel} (hawait : c.awaiting ≠ 0)
    (hheld : c.held = #[]) (e : Event) :
    c.confirm e = raise { c with awaiting := c.awaiting - 1 } e := by
  have hnone : (raise { c with awaiting := c.awaiting - 1 } e).channel.held = #[] :=
    (raise_held _ e).trans hheld
  rw [confirm_eq_andThen_replay hawait, Outcome.andThen,
    replay_of_held_eq_nil hnone, List.append_nil]

theorem confirm_with_held_nil {c : Channel} (hawait : c.awaiting ≠ 0)
    (e : Event) :
    confirm { c with held := #[] } e =
      let o := raise { c with awaiting := c.awaiting - 1 } e
      ⟨{ o.channel with held := #[] }, o.effects⟩ := by
  have hconfirm :=
    confirm_eq_raise (c := { c with held := #[] }) hawait rfl e
  rw [hconfirm]
  exact raise_with_held { c with awaiting := c.awaiting - 1 } #[] e

theorem confirm_eq_staged {c : Channel} (h : c.HoldsInOrder) (e : Event) :
    c.confirm e = c.staged (.confirm e) := by
  by_cases hawait : c.awaiting = 0
  · have hnone := h.held_eq_nil hawait
    have hbefore : c.before (.confirm e) = c.confirm e := by
      rw [before, with_held_self hnone]
    have hconfirm : (c.confirm e).channel.held = #[] := by
      rw [confirm, if_pos hawait, hnone]
    simp only [staged, kept, hbefore, settled, hnone, replayed, List.map_nil,
      settleAll, after, Input.arrivals, Outcome.andThen, List.append_nil,
      List.drop_nil]
    rw [with_held_self hconfirm]
  · have hconfirm := confirm_eq_andThen_replay hawait e
    rw [hconfirm]
    refine staged_eq_andThen_replay (.confirm e) _ ?_ (raise_held _ e) rfl rfl
      (fun _ => rfl)
    exact confirm_with_held_nil hawait e

/-- What a failure changes before messages on hold are acted on. -/
theorem unsent_eq_andThen_replay (c : Channel) (after? : Option Event) :
    ∃ awaiting effects, ∀ held : Array Message,
      unsent { c with held } after? =
        Outcome.andThen ⟨{ c with awaiting, held }, effects⟩ replay := by
  cases after? with
  | none => exact ⟨c.awaiting, [], fun held => rfl⟩
  | some e =>
      by_cases hawait : 0 < c.awaiting
      · refine ⟨c.awaiting - 1,
          [c.logged .warning s!"packet not sent, {e.name} not raised"], ?_⟩
        intro held
        simp only [unsent, if_pos hawait]
        rfl
      · refine ⟨c.awaiting, [], ?_⟩
        intro held
        simp only [unsent, if_neg hawait]
        rfl

theorem unsent_eq_staged (c : Channel) (after? : Option Event) :
    c.unsent after? = c.staged (.unsent after?) := by
  obtain ⟨awaiting, effects, hunsent⟩ := c.unsent_eq_andThen_replay after?
  have hself : c.unsent after? =
      Outcome.andThen ⟨{ c with awaiting }, effects⟩ replay := hunsent c.held
  rw [hself]
  refine staged_eq_andThen_replay (.unsent after?) _ ?_ rfl rfl rfl (fun _ => rfl)
  rw [before, hunsent, Outcome.andThen, replay_of_held_eq_nil rfl,
    List.append_nil]

/-- A step is what comes before messages are settled, the messages that it
settles, and what comes after them; all other messages stay on hold. -/
theorem step_eq_staged {c : Channel} (h : c.HoldsInOrder) (i : Input) :
    c.step i = c.staged i := by
  by_cases hquiet : i.isQuiet
  · exact c.step_eq_staged_of_isQuiet hquiet
  match i with
  | .connectionChanged false => exact c.connectionLost_eq_staged
  | .receive m => exact receive_eq_staged h m
  | .confirm e => exact confirm_eq_staged h e
  | .unsent after? => exact c.unsent_eq_staged after?

/-! ## What a step keeps -/

/-- The messages settled and those left on hold are those held before and those
that arrive, in this order. -/
theorem settled_append_kept {c : Channel} (h : c.HoldsInOrder) (i : Input) :
    (c.settled i).map Prod.fst ++ c.kept i = c.held.toList ++ i.arrivals := by
  have hreplay : ∀ b : Channel, i.arrivals = [] →
      c.settled i = (b.replayed c.held.toList).map (·, .dispatched) →
        (c.settled i).map Prod.fst ++ c.kept i = c.held.toList ++ i.arrivals := by
    intro b harrivals hsettled
    rw [kept, hsettled, harrivals, List.append_nil, List.map_map,
      List.length_map]
    simpa [Function.comp_def] using b.replayed_append_drop c.held.toList
  by_cases hquiet : i.isQuiet
  · obtain ⟨hsettled, -, harrivals, -⟩ := c.settled_of_isQuiet hquiet
    simp [hsettled, kept]
  match i with
  | .connectionChanged false =>
      simp [settled, kept, Input.arrivals, Function.comp_def]
  | .confirm e => exact hreplay _ rfl rfl
  | .unsent after? => exact hreplay _ rfl rfl
  | .receive m =>
      by_cases hawait : 0 < c.awaiting
      · simp [settled, kept, hawait]
      · have hnone := h.held_eq_nil (by omega)
        simp [settled, kept, hawait, hnone, Input.arrivals]

theorem held_step {c : Channel} (h : c.HoldsInOrder) (i : Input) :
    (c.step i).channel.held = (c.kept i).toArray := by
  rw [step_eq_staged h]
  rfl

/-- Every step keeps messages on hold only while an event is awaited. -/
theorem holdsInOrder_step {c : Channel} (h : c.HoldsInOrder) (i : Input) :
    (c.step i).channel.HoldsInOrder := by
  have hreplay : ∀ b : Channel,
      c.settled i = (b.replayed c.held.toList).map (·, .dispatched) →
      i.arrivals = [] →
      (c.staged i).channel.awaiting =
        (b.settleAll (c.settled i)).channel.awaiting →
        (c.step i).channel.HoldsInOrder := by
    intro b hsettled harrivals hawait hne
    rw [held_step h, kept, harrivals, List.append_nil, hsettled,
      List.length_map] at hne
    rw [step_eq_staged h, hawait, hsettled]
    apply awaiting_of_replayed_lt
    intro hnil
    rw [hnil] at hne
    exact hne rfl
  by_cases hquiet : i.isQuiet
  · have hretains := retains_step c hquiet
    intro hne
    rw [hretains.held] at hne
    exact Nat.lt_of_lt_of_le (h hne) hretains.awaiting
  match i with
  | .connectionChanged false =>
      intro hne
      rw [held_step h] at hne
      simp [kept, settled, Input.arrivals] at hne
  | .confirm e => exact hreplay _ rfl rfl rfl
  | .unsent after? => exact hreplay _ rfl rfl rfl
  | .receive m =>
      by_cases hawait : 0 < c.awaiting
      · intro _
        simpa only [step, receive, if_pos hawait] using hawait
      · intro hne
        have hnone := h.held_eq_nil (by omega)
        rw [held_step h] at hne
        simp [kept, settled, Input.arrivals, hawait, hnone] at hne

end Channel

end FlightLink
