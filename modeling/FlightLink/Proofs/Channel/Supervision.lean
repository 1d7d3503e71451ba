import FlightLink.Proofs.Channel.Hold
import FlightLink.Proofs.Channel.Leads
import FlightLink.Proofs.Timer.Arming
import Mathlib.Tactic.FinCases

/-!
# Timers follow the state

Each state requires certain timers to be armed and others to be stopped.  The
orders that carry this out are spread over what leaving and entering a state
entail, so a transition is looked at as a whole: the timers that the old state
requires, after the orders of the transition, are those that the new state
requires.

There is one exception.  The expiry of the identification timer while the
peer's answer is awaited stops the receive timer and keeps the state.  It does
not happen, because that timer is stopped there.
-/

namespace FlightLink

/-- The timers started and stopped on leaving a state. -/
def State.leavingTimings : State → Event → List (TimerKind × Bool)
  | idle, _ => [(.reconnect, false)]
  | connectionPending, _ => []
  | systemIdPending, .remoteIdValid => [(.identification, true)]
  | systemIdPending, _ => [(.identification, false)]
  | idPending, _ => [(.identification, false)]
  | ready, .localStartup => [(.receive, true)]
  | ready, _ => []
  | associationPending, .receiveTimeout => [(.receive, true)]
  | associationPending, .remoteStartup => [(.receive, true), (.send, true)]
  | associationPending, _ => [(.receive, false)]
  | dataReady, .localDisconnect | dataReady, .localShutdown
  | dataReady, .remoteDisconnect | dataReady, .receiveTimeout =>
    [(.receive, false), (.send, false)]
  | dataReady, .localData | dataReady, .sendTimeout => [(.send, true)]
  | dataReady, .remoteData | dataReady, .remoteHeartbeat => [(.receive, true)]
  | dataReady, .remoteShutdown => [(.send, false), (.receive, true)]
  | dataReady, _ => []
  | disabled, _ => []

/-- The timers started and stopped on entering a state. -/
def State.enteringTimings (role : Role) : State → List (TimerKind × Bool)
  | idle => if role = .client then [(.reconnect, true)] else []
  | systemIdPending | idPending => [(.identification, true)]
  | disabled => TimerKind.all.map (·, false)
  | connectionPending | ready | associationPending | dataReady => []

/-- The timers are armed as a state requires. -/
structure Supervises
    (role : Role) (state : State) (armed : TimerKind → Bool) : Prop where
  identification :
    armed .identification = true ↔ state = .systemIdPending ∨ state = .idPending
  receive :
    armed .receive = true ↔ state = .associationPending ∨ state = .dataReady
  send : armed .send = true ↔ state = .dataReady
  reconnect : armed .reconnect = true → role = .client ∧ state = .idle

namespace Supervises

variable {role : Role} {s t : State} {e : Event} {armed : TimerKind → Bool}

/-! ## Transitions -/

/-- Every transition starts and stops timers as the new state requires. -/
theorem next
    (h : Supervises role s armed)
    (hnext : Table.next? role s e = some t)
    (he : e = .identificationTimeout → s ≠ .associationPending) :
    Supervises role t
      (arming armed (s.leavingTimings e ++ t.enteringTimings role)) := by
  obtain ⟨r, hr, rfl, rfl, hmem⟩ := Table.exists_row_of_next? hnext
  obtain ⟨hidentification, hreceive, hsend, hreconnect⟩ := h
  cases role <;> fin_cases hr
  -- What the old state requires is read off once for each row, before its events are told apart.
  all_goals
    simp only [reduceCtorEq, or_self, or_false, or_true, iff_false, iff_true, and_false,
      and_true, imp_false, Bool.not_eq_true]
      at hidentification hreceive hsend hreconnect
    fin_cases hmem
  all_goals first
    | exact absurd rfl (he rfl)
    | constructor <;>
        simp [Function.update, State.leavingTimings, State.enteringTimings, hidentification,
          hreceive, hsend, hreconnect]

/-- A disabled channel has no timer armed. -/
theorem disabled :
    Supervises role .disabled
      (arming armed (State.disabled.enteringTimings role)) := by
  constructor <;>
  simp [State.enteringTimings, TimerKind.all, Function.update]

/-- No timer is needed on the way back into service. -/
theorem enabled (h : Supervises role .disabled armed) :
    Supervises role .idle armed := by
  obtain ⟨hidentification, hreceive, hsend, hreconnect⟩ := h
  constructor <;> simp_all

/-! ## Expiries -/

/-- The identification timer is stopped while the peer's answer is awaited. -/
theorem ne_associationPending
    (h : Supervises role s armed)
    (harmed : armed .identification = true) :
    s ≠ .associationPending := by
  rcases h.identification.mp harmed with rfl | rfl <;> decide

/-- The expiry of an armed timer leads to a transition that starts the timer
anew or stops it. -/
theorem exists_next_of_expiry
    (h : Supervises role s armed)
    (hserver : s = .systemIdPending → role = .server)
    {kind : TimerKind} (harmed : armed kind = true) (he : kind.event? = some e) :
    (∃ t, Table.next? role s e = some t) ∧
      kind ∈ (s.leavingTimings e).map Prod.fst := by
  cases kind with
  | send =>
      cases he
      obtain rfl := h.send.mp harmed
      cases role <;> exact ⟨⟨_, rfl⟩, by decide⟩
  | receive =>
      cases he
      rcases h.receive.mp harmed with rfl | rfl <;>
        cases role <;> exact ⟨⟨_, rfl⟩, by decide⟩
  | identification =>
      cases he
      rcases h.identification.mp harmed with rfl | rfl
      · obtain rfl := hserver rfl
        exact ⟨⟨_, rfl⟩, by decide⟩
      · cases role <;> exact ⟨⟨_, rfl⟩, by decide⟩
  | reconnect => cases he

end Supervises

/-- Only a server waits for the peer to identify itself first. -/
theorem Table.role_of_next?_eq_systemIdPending {role : Role} {s : State}
    {e : Event} (hnext : next? role s e = some .systemIdPending) :
    role = .server := by
  obtain ⟨r, hr, -, ht, -⟩ := exists_row_of_next? hnext
  cases role with
  | server => rfl
  | client => fin_cases hr <;> cases ht

namespace Channel

open Effect

variable {c : Channel} {armed : TimerKind → Bool}

/-! ## Steps -/

theorem timings_leaving (c : Channel) (e : Event) :
    timings (c.leaving e) = c.state.leavingTimings e := by
  unfold leaving State.leavingTimings
  cases c.state with
  | idle | connectionPending | disabled => rfl
  | systemIdPending | idPending => cases e <;> simp
  | ready => cases e <;> simp
  | associationPending | dataReady => cases e <;> simp

theorem timings_entering (c : Channel) (s : State) :
    timings (c.entering s) = s.enteringTimings c.config.role := by
  unfold entering State.enteringTimings
  cases s with
  | idle => cases c.config.role <;> simp
  | connectionPending => simp
  | systemIdPending | idPending => simp
  | ready => dsimp only; split <;> simp
  | associationPending | dataReady => rfl
  | disabled => simp [TimerKind.all]

theorem timings_raise (c : Channel) (e : Event) :
    timings (c.raise e).effects =
      (c.next? e).elim [] fun s =>
        c.state.leavingTimings e ++ s.enteringTimings c.config.role := by
  rw [timings, collect_raise]
  simp only [timings_leaving, timings_entering]

theorem not_mem_expected_raise (c : Channel) (e : Event) :
    .identificationTimeout ∉ expected (c.raise e).effects := by
  intro h
  obtain ⟨p, hp, he⟩ := List.mem_filterMap.mp h
  obtain ⟨t, -, hsends⟩ := sends_of_mem_packets_raise hp
  cases hsends <;> cases he

theorem messageEvent?_ne_identificationTimeout (c : Channel) (m : Message) :
    c.messageEvent? m ≠ some .identificationTimeout := by
  unfold messageEvent? identificationEvent systemEvent?
  cases m.kind with
  | identification => dsimp only; split_ifs <;> simp
  | system => dsimp only; split_ifs <;> simp
  | operational | operator | status | unknown => simp

/-- A channel whose timers are armed as its state requires. -/
structure Supervised (c : Channel) (armed : TimerKind → Bool) : Prop where
  role : c.config.role = c.role
  server : c.state = .systemIdPending → c.role = .server
  supervises : Supervises c.role c.state armed

/-- An outcome whose orders arm the timers as the state of its channel
requires.  It sends no packet whose event could be taken for the expiry of the
identification timer. -/
structure Outcome.Supervised (o : Outcome) (armed : TimerKind → Bool) : Prop where
  channel : o.channel.Supervised (arming armed (timings o.effects))
  expected : .identificationTimeout ∉ expected o.effects

theorem Outcome.Supervised.andThen
    {o : Outcome} (h : o.Supervised armed) {next : Channel → Outcome}
    (hnext : ∀ armed, o.channel.Supervised armed →
      (next o.channel).Supervised armed) :
    (o.andThen next).Supervised armed := by
  have hlast := hnext _ h.channel
  constructor
  · rw [andThen_effects, timings, collect_append, arming_append]
    exact hlast.channel
  · rw [andThen_effects, expected_append, List.mem_append, not_or]
    exact ⟨h.expected, hlast.expected⟩

namespace Supervised

theorem ofConfig (config : Config) :
    (Channel.ofConfig config).Supervised fun _ => false := by
  refine ⟨rfl, ?_, ?_⟩
  · intro h
    cases h
  · constructor <;> simp [Channel.ofConfig]

/-- Nothing is ordered of the timers, and the state stays the same. -/
theorem still
    (h : c.Supervised armed) {o : Outcome}
    (hstate : o.channel.state = c.state)
    (hrole : o.channel.role = c.role)
    (hconfig : o.channel.config.role = c.config.role)
    (htimings : timings o.effects = [])
    (hexpected : .identificationTimeout ∉ expected o.effects) :
    o.Supervised armed := by
  refine ⟨⟨?_, ?_, ?_⟩, hexpected⟩
  · rw [hconfig, hrole, h.role]
  · rw [hstate, hrole]
    exact h.server
  · rw [hstate, hrole, htimings]
    exact h.supervises

theorem same (h : c.Supervised armed) : Outcome.Supervised ⟨c, []⟩ armed :=
  h.still rfl rfl rfl rfl (by simp)

theorem raise
    (h : c.Supervised armed) {e : Event}
    (he : e = .identificationTimeout → c.state ≠ .associationPending) :
    (c.raise e).Supervised armed := by
  refine ⟨⟨?_, ?_, ?_⟩, c.not_mem_expected_raise e⟩
  · rw [raise_config, raise_role, h.role]
  · rw [raise_state, raise_role]
    intro hstate
    cases hnext : c.next? e with
    | none => exact h.server (by simpa [hnext] using hstate)
    | some s =>
        apply Table.role_of_next?_eq_systemIdPending (s := c.state) (e := e)
        rw [← Channel.next?, hnext]
        simpa [hnext] using hstate
  · rw [raise_state, raise_role, timings_raise, h.role]
    cases hnext : c.next? e with
    | none => exact h.supervises
    | some s => exact h.supervises.next hnext he

theorem dispatch (h : c.Supervised armed) (m : Message) :
    (c.dispatch m).Supervised armed := by
  have hne := messageEvent?_ne_identificationTimeout c m
  cases he : c.messageEvent? m with
  | none =>
      refine h.still ?_ ?_ ?_ ?_ ?_
      all_goals simp [dispatch_channel, expected, collect_dispatch, he]
  | some e =>
      have hraise : (c.raise e).Supervised armed :=
        h.raise fun heq => absurd (heq ▸ he) hne
      constructor
      · rw [dispatch_channel, timings, collect_dispatch]
        simpa [he] using hraise.channel
      · rw [expected, packets, collect_dispatch]
        simpa [he, expected] using hraise.expected

theorem settleAll (h : c.Supervised armed) (l : List Message) :
    (c.settleAll (l.map (·, .dispatched))).Supervised armed := by
  induction l generalizing c armed with
  | nil => exact h.same
  | cons m rest ih => exact (h.dispatch m).andThen fun _ h => ih h

theorem replay (h : c.Supervised armed) : c.replay.Supervised armed := by
  rw [replay_eq]
  obtain ⟨⟨hrole, hserver, hsupervises⟩, hexpected⟩ :=
    h.settleAll (c.replayed c.held.toList)
  exact ⟨⟨hrole, hserver, hsupervises⟩, hexpected⟩

theorem disable (h : c.Supervised armed) : c.disable.Supervised armed := by
  unfold Channel.disable
  split
  · exact h.same
  · have htimings := timings_entering c .disabled
    refine ⟨⟨h.role, by simp, ?_⟩, ?_⟩
    · simp only [timings, collect_logged_info, collect_append, collect_entered,
        collect_nil, List.append_nil] at htimings ⊢
      rw [htimings, h.role]
      exact Supervises.disabled
    · simp [expected, entering, TimerKind.all]

theorem start (h : c.Supervised armed) : c.start.Supervised armed := by
  unfold Channel.start
  split
  · exact h.still rfl rfl rfl (by simp) (by simp [expected])
  · exact h.disable

theorem send (h : c.Supervised armed) (m : Message) {after? : Option Event}
    (hafter : after? ≠ some .identificationTimeout) :
    (c.send m after?).Supervised armed := by
  refine h.still rfl rfl rfl (by simp [Channel.send]) ?_
  simpa [Channel.send, expected, eq_comm] using hafter

theorem reconfigure (h : c.Supervised armed) (settings : Settings) :
    (c.reconfigure settings).Supervised armed := by
  unfold Channel.reconfigure
  split
  · exact h.still rfl rfl rfl (by simp) (by simp [expected])
  · split
    · exact h.still rfl rfl rfl (by simp) (by simp [expected])
    · next hsame =>
        exact h.still rfl rfl (not_not.mp hsame) (by simp)
          (by simp [expected])

theorem obey (h : c.Supervised armed) (x : Command) :
    (c.obey x).Supervised armed := by
  cases x with
  | data text =>
      simp only [Channel.obey]
      split
      · exact h.send _ (by simp)
      · exact h.still rfl rfl rfl (by simp) (by simp [expected])
  | startup =>
      have hgoal : Supervised { c with goal := .dataReady } armed :=
        ⟨h.role, h.server, h.supervises⟩
      simp only [Channel.obey]
      split
      · exact hgoal.send _ (by simp)
      · exact hgoal.still rfl rfl rfl (by simp) (by simp [expected])
  | shutdown =>
      have hgoal : Supervised { c with goal := .ready } armed :=
        ⟨h.role, h.server, h.supervises⟩
      exact hgoal.raise (by simp)
  | disconnect => exact h.raise (by simp)
  | disable => exact h.disable
  | enable =>
      simp only [Channel.obey]
      split
      · next hdisabled =>
          obtain ⟨hrole, hserver, hsupervises⟩ := h
          rw [hdisabled] at hsupervises
          refine ⟨⟨hrole, by simp, ?_⟩, by simp [expected]⟩
          simpa using hsupervises.enabled
      · exact h.same
  | reconfigure settings => exact h.reconfigure settings

theorem connectionChanged (h : c.Supervised armed) (connected : Bool) :
    (c.connectionChanged connected).Supervised armed := by
  unfold Channel.connectionChanged
  split
  · split
    · exact h.raise (by simp)
    · exact h.same
  · have hrelease : c.release.Supervised armed := by
      refine h.still rfl rfl rfl
        (collect_release Action.timing? (fun _ => rfl) c) ?_
      have hpackets := collect_release Action.sent? (fun _ => rfl) c
      simp [expected, hpackets]
    exact hrelease.andThen fun _ h => h.raise (by simp)

theorem receive (h : c.Supervised armed) (m : Message) :
    (c.receive m).Supervised armed := by
  unfold Channel.receive
  split
  · exact h.still rfl rfl rfl (by simp) (by simp [expected])
  · exact h.dispatch m

theorem confirm (h : c.Supervised armed) {e : Event}
    (he : e ≠ .identificationTimeout) :
    (c.confirm e).Supervised armed := by
  unfold Channel.confirm
  split
  · exact h.still rfl rfl rfl (by simp) (by simp [expected])
  · have hcount : Supervised { c with awaiting := c.awaiting - 1 } armed :=
      ⟨h.role, h.server, h.supervises⟩
    exact (hcount.raise fun heq => absurd heq he).andThen fun _ h => h.replay

theorem unsent (h : c.Supervised armed) (after? : Option Event) :
    (c.unsent after?).Supervised armed := by
  unfold Channel.unsent
  split
  · split
    · refine Outcome.Supervised.andThen (h.still rfl rfl rfl ?_ ?_)
        fun _ h => h.replay
      · simp
      · simp [expected]
    · exact h.replay
  · exact h.replay

/-- The expiry of an armed timer, which is no longer armed when the channel
learns of it. -/
theorem timerExpired (h : c.Supervised armed) {kind : TimerKind}
    (harmed : armed kind = true) :
    (c.timerExpired kind).Supervised (Function.update armed kind false) := by
  unfold Channel.timerExpired
  cases he : kind.event? with
  | none =>
      have hkind : kind = .reconnect := by
        cases kind <;> cases he
        rfl
      subst hkind
      refine ⟨⟨h.role, h.server, ?_⟩, by simp [expected]⟩
      obtain ⟨hidentification, hreceive, hsend, hreconnect⟩ := h.supervises
      constructor <;> simp_all [Function.update]
  | some e =>
      obtain ⟨⟨t, hnext⟩, hmem⟩ :=
        h.supervises.exists_next_of_expiry h.server harmed he
      have hstate :
          e = .identificationTimeout → c.state ≠ .associationPending := by
        rintro rfl
        have hkind : kind = .identification := by
          cases kind <;> cases he
          rfl
        subst hkind
        exact h.supervises.ne_associationPending harmed
      obtain ⟨⟨hrole, hserver, hsupervises⟩, hexpected⟩ := h.raise hstate
      refine ⟨⟨hrole, hserver, ?_⟩, by simpa [expected] using hexpected⟩
      have hraise : c.next? e = some t := hnext
      have htimer : kind ∈ (timings (c.raise e).effects).map Prod.fst := by
        rw [timings_raise, hraise]
        simpa using Or.inl hmem
      simpa [arming_update_of_mem htimer] using hsupervises

end Supervised

end Channel

end FlightLink
