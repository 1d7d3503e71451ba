import FlightLink.Proofs.Delivery.Exchange

/-!
# Signs of life

A channel that exchanges data starts its receive timer anew whenever it acts on
data or a heartbeat of its peer.  It starts its send timer anew when it learns
that data of its own have been written, and when it sends a heartbeat.  It asks
nothing else of its timers.

Apart from data, all that a channel ever sends is its identification and the
fixed messages of the protocol.
-/

namespace FlightLink

/-- Whether a message tells that the peer is alive. -/
def Message.isVital (m : Message) : Bool :=
  m.kind == .operational || m.isHeartbeat

namespace Channel

open Effect

variable {c : Channel}

/-! ## What starts the timers anew -/

/-- What messages ask of the timers once they are acted on. -/
def beats (l : List Message) : List (TimerKind × Bool) :=
  (l.filter Message.isVital).map fun _ => (.receive, true)

theorem beats_append (l l' : List Message) : beats (l ++ l') = beats l ++ beats l' := by
  rw [beats, List.filter_append, List.map_append]
  rfl

/-- What can happen to a channel that has nothing to do but to exchange data. -/
def Input.IsUpkeep : Input → Prop
  | .command (.data _) | .timerExpired .send => True
  | .confirm e => e = .localData
  | .receive m => m ≠ .shutdown
  | _ => False

/-- Whether the input tells that something of this side has been sent. -/
def Input.isReport : Input → Bool
  | .confirm _ | .timerExpired _ => true
  | _ => false

theorem Input.IsUpkeep.isExchange {i : Input} (h : i.IsUpkeep) (sound : Prop) :
    i.IsExchange sound := by
  cases i with
  | command y =>
      cases y with
      | data text => trivial
      | _ => cases h
  | timerExpired kind =>
      cases kind with
      | send => trivial
      | _ => cases h
  | confirm e =>
      obtain rfl : e = .localData := h
      rfl
  | receive m => exact h
  | _ => cases h

/-- A step and what it has to do with the signs of life of both sides. -/
structure Outcome.Heeds (c : Channel) (i : Input) (o : Outcome) : Prop where
  timings : ∀ t ∈ timings o.effects, t = (.receive, true) ∨ t = (.send, true)
  report : i.isReport = false → (.send, true) ∉ Effect.timings o.effects
  /-- A sign of life remains on hold, or the receive timer is started anew. -/
  vital : ∀ m ∈ c.held.toList ++ i.arrivals, m.isVital →
    m ∈ o.channel.held.toList ∨ (.receive, true) ∈ Effect.timings o.effects

theorem timings_raise_dataReady (hstate : c.state = .dataReady) {e : Event}
    (hnext : c.next? e = none ∨ c.next? e = some .dataReady ∧
      State.dataReady.leavingTimings e = []) :
    timings (c.raise e).effects = [] := by
  rw [timings_raise]
  rcases hnext with hignored | ⟨hstays, hnone⟩
  · rw [hignored]
    rfl
  · rw [hstays, hstate, Option.elim_some, hnone]
    rfl

/-- The peer has given a sign of life. -/
theorem timings_raise_remote (hstate : c.state = .dataReady) {e : Event}
    (he : e = .remoteData ∨ e = .remoteHeartbeat) :
    timings (c.raise e).effects = [(.receive, true)] := by
  rw [timings_raise, next?, hstate]
  rcases he with rfl | rfl
  · cases c.role <;> rfl
  · cases c.role <;> rfl

/-- This side has given a sign of life. -/
theorem timings_raise_local (hstate : c.state = .dataReady) {e : Event}
    (he : e = .localData ∨ e = .sendTimeout) :
    timings (c.raise e).effects = [(.send, true)] := by
  rw [timings_raise, next?, hstate]
  rcases he with rfl | rfl
  · cases c.role <;> rfl
  · cases c.role <;> rfl

theorem timings_confirm (hstate : c.state = .dataReady) (hheld : c.held = #[]) :
    ∀ t ∈ timings (c.confirm .localData).effects, t = (.send, true) := by
  intro t ht
  by_cases hawait : c.awaiting = 0
  · rw [confirm, if_pos hawait] at ht
    cases ht
  · have hcounted : { c with awaiting := c.awaiting - 1 }.state = .dataReady := hstate
    rw [confirm_eq_raise hawait hheld, timings_raise_local hcounted (.inl rfl)] at ht
    exact List.mem_singleton.mp ht

theorem timings_dispatch (hstate : c.state = .dataReady) {m : Message}
    (hm : m ≠ .shutdown) : timings (c.dispatch m).effects = beats [m] := by
  have hdelivered : (if m.isPayload then (Action.timing? (.deliver m)).toList else []) = [] := by
    split <;> rfl
  have hignored : ∀ e, Table.next? .client .dataReady e = none →
      Table.next? .server .dataReady e = none → timings (c.raise e).effects = [] := by
    intro e hclient hserver
    apply timings_raise_dataReady hstate
    rw [next?, hstate]
    cases c.role with
    | client => exact .inl hclient
    | server => exact .inl hserver
  rw [timings, collect_dispatch, hdelivered, List.nil_append]
  obtain ⟨kind, text⟩ := m
  cases kind with
  | operational => exact timings_raise_remote hstate (.inl rfl)
  | operator | status | unknown => rfl
  | identification =>
      refine hignored _ ?_ ?_
      all_goals
        simp only [identificationEvent]
        split_ifs <;> rfl
  | system =>
      simp only [messageEvent?, systemEvent?]
      split_ifs with hup hdown hbeat
      · subst hup
        exact hignored _ rfl rfl
      · subst hdown
        exact absurd rfl hm
      · subst hbeat
        exact timings_raise_remote hstate (.inr rfl)
      · have hvital : Message.isVital ⟨.system, text⟩ = false := by
          simpa [Message.isVital, Message.isHeartbeat] using hbeat
        simp [beats, hvital]

theorem timings_settleAll (hstate : c.state = .dataReady) {l : List Message}
    (hl : ∀ m ∈ l, m ≠ .shutdown) :
    timings (c.settleAll (l.map (·, .dispatched))).effects = beats l := by
  induction l generalizing c with
  | nil => rfl
  | cons m rest ih =>
      obtain ⟨hm, hrest⟩ := List.forall_mem_cons.mp hl
      have hdispatch : (c.dispatch m).Exchanges True c [] := exchanges_dispatch hstate hm
      have hafter := ih hdispatch.state hrest
      rw [← List.singleton_append, beats_append, ← timings_dispatch hstate hm, ← hafter]
      exact collect_append _ _ _

section Step

variable {i : Input}

/-- What a step asks of the timers before it settles messages. -/
theorem timings_before (h : c.Exchanging) (hi : i.IsUpkeep) :
    (c.before i).channel.state = .dataReady ∧
      (∀ t ∈ timings (c.before i).effects, t = (.send, true)) ∧
      (i.isReport = false → timings (c.before i).effects = []) := by
  cases i with
  | command y =>
      cases y with
      | data text =>
          have hstep : c.before (.command (.data text)) =
              c.send (.operational text) (some .localData) := if_pos h.state
          have hnone : timings (c.send (.operational text) (some .localData)).effects = [] :=
            collect_sending c _ _
          rw [hstep, hnone]
          exact ⟨h.state, nofun, fun _ => rfl⟩
      | _ => cases hi
  | timerExpired kind =>
      cases kind with
      | send =>
          have hstep : (c.step (.timerExpired .send)).Exchanges True c [(.heartbeat, none)] :=
            exchanges_step h (i := .timerExpired .send) trivial
          have htimings : timings (c.before (.timerExpired .send)).effects =
              timings (c.raise .sendTimeout).effects := rfl
          rw [htimings, timings_raise_local h.state (.inr rfl)]
          refine ⟨hstep.state, ?_, nofun⟩
          intro t ht
          exact List.mem_singleton.mp ht
      | _ => cases hi
  | confirm e =>
      obtain rfl : e = .localData := hi
      have hnone : Exchanging { c with held := #[] } :=
        ⟨h.state, fun hne => absurd rfl hne, nofun⟩
      have hstep : (confirm { c with held := #[] } .localData).Exchanges True _ [] :=
        exchanges_confirm hnone rfl
      exact ⟨hstep.state, timings_confirm h.state rfl, nofun⟩
  | receive m =>
      rw [before]
      split
      · next hawait =>
          rw [receive, if_pos hawait]
          exact ⟨h.state, List.forall_mem_nil _, fun _ => rfl⟩
      · exact ⟨h.state, List.forall_mem_nil _, fun _ => rfl⟩
  | _ => cases hi

/-- All messages that come out of the hold are acted on. -/
theorem settled_eq_map (hi : i.IsUpkeep) :
    ∃ l : List Message, c.settled i = l.map (·, .dispatched) := by
  cases i with
  | receive m =>
      by_cases hawait : 0 < c.awaiting
      · exact ⟨[], if_pos hawait⟩
      · exact ⟨[m], if_neg hawait⟩
  | confirm e => exact ⟨_, rfl⟩
  | command y => exact ⟨[], rfl⟩
  | timerExpired kind => exact ⟨[], rfl⟩
  | _ => cases hi

theorem timings_step (h : c.Exchanging) (hi : i.IsUpkeep) :
    timings (c.step i).effects =
      timings (c.before i).effects ++ beats ((c.settled i).map Prod.fst) := by
  obtain ⟨l, hl⟩ := c.settled_eq_map hi
  have hfirst : (c.settled i).map Prod.fst = l := by
    rw [hl, List.map_map]
    exact List.map_id l
  have hnone : ∀ m ∈ l, m ≠ .shutdown := by
    intro m hm
    have hmem : m ∈ c.held.toList ++ i.arrivals := by
      rw [← settled_append_kept h.holds i, hfirst]
      exact List.mem_append_left _ hm
    rcases List.mem_append.mp hmem with hheld | harrives
    · exact h.held m hheld
    · cases i with
      | receive m' =>
          obtain rfl := List.mem_singleton.mp harrives
          exact hi
      | _ => cases harrives
  have hafter : ∀ d : Channel, d.after i = ⟨d, []⟩ := by
    cases i <;> first | exact fun _ => rfl | cases hi
  have hsettled := timings_settleAll (timings_before h hi).1 hnone
  rw [step_eq_staged h.holds, hfirst, ← hsettled]
  simp only [staged, hafter, hl, andThen_effects, timings, collect_append, List.append_nil]

theorem heeds_step (h : c.Exchanging) (hi : i.IsUpkeep) : (c.step i).Heeds c i := by
  obtain ⟨-, hsend, hreport⟩ := timings_before h hi
  have hbeats : ∀ t ∈ beats ((c.settled i).map Prod.fst), t = (.receive, true) := by
    intro t ht
    obtain ⟨m, -, rfl⟩ := List.mem_map.mp ht
    rfl
  have htimings := timings_step h hi
  refine ⟨?_, ?_, ?_⟩
  · intro t ht
    rw [htimings] at ht
    rcases List.mem_append.mp ht with hown | hbeat
    · exact .inr (hsend t hown)
    · exact .inl (hbeats t hbeat)
  · intro hnone hmem
    rw [htimings, hreport hnone, List.nil_append] at hmem
    cases hbeats _ hmem
  · intro m hm hvital
    rw [← settled_append_kept h.holds i] at hm
    rcases List.mem_append.mp hm with hsettled | hkept
    · right
      rw [htimings]
      apply List.mem_append_right
      exact List.mem_map.mpr ⟨m, List.mem_filter.mpr ⟨hsettled, hvital⟩, rfl⟩
    · left
      rw [held_step h.holds]
      exact hkept

end Step

/-! ## What is sent apart from data -/

/-- Whether a message is the identification of a channel or a fixed message of the
protocol. -/
def Utters (c : Channel) (m : Message) : Prop :=
  m ∈ [c.ownIdentification, .accept, .reject, .startup, .shutdown, .heartbeat]

theorem utters_raise (c : Channel) (e : Event) :
    ∀ p ∈ packets (c.raise e).effects, c.Utters p.1 := by
  intro p hp
  obtain ⟨t, -, hsends⟩ := sends_of_mem_packets_raise hp
  cases hsends <;> simp [Utters]

/-- The configuration has stayed the same, and nothing but identifications and
fixed messages has been queued. -/
structure Chronicle.Formal (config : Config) (x : Chronicle) : Prop where
  config : x.channel.config = config
  queued : ∀ p ∈ x.queued, x.channel.Utters p.1

theorem utters_congr {c d : Channel} (h : c.config = d.config) {m : Message} :
    c.Utters m ↔ d.Utters m := by
  rw [Utters, Utters, ownIdentification, ownIdentification, h]

namespace Chronicle.Formal

variable {config : Config} {x : Chronicle}

theorem proceed (h : x.Formal config) {o : Outcome} (hconfig : o.channel.config = config)
    (ho : ∀ p ∈ packets o.effects, x.channel.Utters p.1) : (x.proceed o).Formal config := by
  refine ⟨hconfig, ?_⟩
  intro p hp
  rw [proceed_channel, utters_congr (hconfig.trans h.config.symm)]
  rw [queued_proceed] at hp
  exact (List.mem_append.mp hp).elim (h.queued p) (ho p)

theorem lasting : Lasting (fun _ => True) (fun _ => False) (Formal config) where
  raise {x e} h _ := h.proceed ((raise_config _ e).trans h.config) (x.channel.utters_raise e)
  dispatch h m :=
    Lasting.dispatch_of_raise (fun x m h => ⟨h.config, by rw [queued_noting]; exact h.queued⟩)
      (fun y e h _ => h.proceed ((raise_config _ e).trans h.config) (y.channel.utters_raise e))
      h m
  forget h _ _ := ⟨h.config, h.queued⟩
  disable {x} h := by
    refine h.proceed ?_ ?_
    · rw [← h.config, Channel.disable]
      split <;> rfl
    · rw [packets_disable]
      exact List.forall_mem_nil _
  obey _ hy := hy.elim

end Chronicle.Formal

/-- Without commands a channel sends formal messages only. -/
theorem utters_stepAll (h : c.HoldsInOrder) {l : List Input}
    (hl : ∀ i ∈ l, ∀ y, i ≠ .command y) :
    (c.stepAll l).channel.config = c.config ∧
      ∀ p ∈ packets (c.stepAll l).effects, c.Utters p.1 := by
  let x : Chronicle := ⟨c, []⟩
  have hx : x.Formal c.config := ⟨rfl, nofun⟩
  obtain ⟨hchannel, hqueued⟩ := Chronicle.run_faithful (x := x) h l
  obtain ⟨hconfig, hutters⟩ := Chronicle.Formal.lasting.run_of_forall hx h
    (fun i hi y _ => by
      cases i with
      | command y => exact absurd rfl (hl _ hi y)
      | connectionChanged up => cases up <;> simp [Chronicle.Permits]
      | _ => simp [Chronicle.Permits])
  rw [hchannel] at hconfig hutters
  rw [hqueued] at hutters
  refine ⟨hconfig, fun p hp => ?_⟩
  rw [← utters_congr hconfig]
  exact hutters p (List.mem_append_right _ hp)

end Channel

end FlightLink
