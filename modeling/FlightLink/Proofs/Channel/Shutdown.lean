import FlightLink.Proofs.Channel.Chronicle
import FlightLink.Proofs.Channel.Timed

/-!
# The effect of a shutdown

A shutdown sets the goal to `Goal.ready`, and a channel with that goal does not
ask for an association by itself.  Only the event `Event.localStartup` leads
into the association from outside of it, and this event comes back with a
STARTUP that was queued before.  So a shutdown lasts until the next startup,
unless the confirmation of an earlier STARTUP comes while events are awaited.

The exception is real.  The event of a confirmation is raised whatever the goal
is by then, and takes an identified channel into the association.
-/

namespace FlightLink

/-- Only a STARTUP of this side leads into the association. -/
theorem Table.eq_localStartup_of_next? {role : Role} {s t : State} {e : Event}
    (hnext : next? role s e = some t)
    (hs : s ≠ .associationPending ∧ s ≠ .dataReady)
    (ht : t = .associationPending ∨ t = .dataReady) : e = .localStartup := by
  obtain ⟨r, hr, rfl, rfl, hmem⟩ := exists_row_of_next? hnext
  -- One case for each row of the tables.
  cases role <;> fin_cases hr <;> simp_all

namespace Channel

open Effect

@[simp] theorem raise_goal (c : Channel) (e : Event) :
    (c.raise e).channel.goal = c.goal := by
  unfold raise
  split <;> rfl

theorem ownIdentification_ne_startup (c : Channel) :
    c.ownIdentification ≠ .startup := by
  intro heq
  have hkind := congrArg Message.kind heq
  cases hkind

namespace Chronicle

/-- The channel keeps out of the association, and no packet asks for one. -/
structure Withdrawn (x : Chronicle) : Prop where
  goal : x.channel.goal = .ready
  state : x.channel.state ≠ .associationPending ∧ x.channel.state ≠ .dataReady
  queued : ∀ p ∈ x.queued, p.1 ≠ .startup ∧ p.2 ≠ some .localStartup

namespace Withdrawn

variable {x : Chronicle}

theorem proceed (h : x.Withdrawn) {o : Outcome}
    (hgoal : o.channel.goal = .ready)
    (hstate : o.channel.state ≠ .associationPending ∧ o.channel.state ≠ .dataReady)
    (hpackets : ∀ p ∈ packets o.effects, p.1 ≠ .startup ∧ p.2 ≠ some .localStartup) :
    (x.proceed o).Withdrawn := by
  refine ⟨hgoal, hstate, ?_⟩
  intro p hp
  rw [queued_proceed, List.mem_append] at hp
  exact hp.elim (h.queued p) (hpackets p)

theorem raise (h : x.Withdrawn) {e : Event} (he : e ≠ .localStartup) :
    (x.proceed (x.channel.raise e)).Withdrawn := by
  have hgoal : (x.channel.raise e).channel.goal = .ready := by
    rw [raise_goal, h.goal]
  refine h.proceed hgoal ?_ ?_
  · rw [raise_state]
    cases hnext : x.channel.next? e with
    | none => exact h.state
    | some t =>
        by_contra ht
        have hinside : t = .associationPending ∨ t = .dataReady := by
          rw [Option.getD_some] at ht
          tauto
        exact he (Table.eq_localStartup_of_next? hnext h.state hinside)
  · intro p hp
    obtain ⟨t, -, hsends⟩ := sends_of_mem_packets_raise hp
    obtain ⟨hpending, hready⟩ := h.state
    have hown := x.channel.ownIdentification_ne_startup
    cases hsends with
    | introduction | reply => exact ⟨hown, by simp⟩
    | acceptance | rejection | farewell | heartbeat => exact ⟨by decide, by decide⟩
    | request _ hgoal => exact absurd (h.goal.symm.trans hgoal) (by decide)
    | repetition hs | consent hs => exact absurd hs hpending

theorem obey (h : x.Withdrawn) {y : Command} (hy : y ≠ .startup) :
    (x.proceed (x.channel.obey y)).Withdrawn := by
  obtain ⟨hgoal, hstate, -⟩ := id h
  cases y with
  | data text =>
      rw [Channel.obey, if_neg hstate.2, proceed_same rfl (by simp)]
      exact h
  | startup => exact absurd rfl hy
  | shutdown =>
      have hsame : { x.channel with goal := .ready } = x.channel := by
        rw [← hgoal]
      rw [Channel.obey, hsame]
      exact h.raise (by simp)
  | disconnect => exact h.raise (by simp)
  | disable =>
      rw [Channel.obey, Channel.disable]
      split
      · exact h
      · exact h.proceed hgoal (by simp) (by simp [entering, TimerKind.all])
  | enable =>
      rw [Channel.obey]
      split
      · exact h.proceed hgoal (by simp) (by simp)
      · exact h
  | reconfigure settings =>
      rw [Channel.obey, Channel.reconfigure]
      split
      · rwa [proceed_same rfl (by simp)]
      · split
        · rwa [proceed_same rfl (by simp)]
        · exact h.proceed hgoal hstate (by simp)

theorem lasting :
    Lasting (· ≠ .localStartup) (· ≠ .startup) Withdrawn where
  raise h he := h.raise he
  dispatch h m := by
    refine Lasting.dispatch_of_raise (P := Withdrawn) ?_ ?_ h m
    · intro x m h
      exact ⟨h.goal, h.state, by rw [queued_noting]; exact h.queued⟩
    · intro x e h he
      exact h.raise (by rintro rfl; cases he)
  forget h _ _ := ⟨h.goal, h.state, h.queued⟩
  disable h := h.obey (y := .disable) (by simp)
  obey h hy := h.obey hy

end Withdrawn

/-- A shutdown ends the association. -/
theorem withdrawn_shutdown (c : Channel) :
    (proceed ⟨c, []⟩ (c.obey .shutdown)).Withdrawn := by
  by_cases hstate : c.state ≠ .associationPending ∧ c.state ≠ .dataReady
  · have h : Withdrawn ⟨{ c with goal := .ready }, []⟩ := ⟨rfl, hstate, by simp [queued]⟩
    exact h.raise (by simp)
  · have hnext : Table.next? c.role c.state .localShutdown = some .ready := by
      rw [not_and_or, not_not, not_not] at hstate
      rcases hstate with hstate | hstate <;> rw [hstate] <;> cases c.role <;> rfl
    have hsent : c.state.leavingPackets c.ownIdentification .localShutdown =
        [(.shutdown, none)] := by
      rw [not_and_or, not_not, not_not] at hstate
      rcases hstate with hstate | hstate <;> rw [hstate] <;> rfl
    have hleads : Leads { c with goal := .ready } (c.obey .shutdown) .ready
        [(.shutdown, none)] :=
      leads_raise (c := { c with goal := .ready }) rfl hnext (by
        have hown : ownIdentification { c with goal := .ready } = c.ownIdentification := rfl
        rw [hown, hsent]
        rfl)
    have hchannel := hleads.channel
    refine ⟨?_, ?_, ?_⟩
    · rw [proceed_channel, hchannel]
    · rw [proceed_channel, hchannel]
      simp
    · rw [queued_proceed, hleads.packets]
      simp [queued, Message.shutdown, Message.startup, Message.shutdownText,
        Message.startupText]

end Chronicle

/-- From a shutdown on, whatever the channel has gone through before, it queues
no STARTUP and stays out of the association until the next startup, as long as
no confirmation of a STARTUP comes while it awaits events. -/
theorem shutdown_lasts (config : Config) (before after : List Input)
    (hraise : .raise .localStartup ∉ after)
    (hstartup : .command .startup ∉ after)
    (hconfirm : ∀ earlier later, after = earlier ++ .confirm .localStartup :: later →
      ((ofConfig config).stepAll
        (before ++ .command .shutdown :: earlier)).channel.awaiting = 0) :
    let c := ((ofConfig config).stepAll before).channel
    let o := c.stepAll (.command .shutdown :: after)
    o.channel.goal = .ready ∧ o.channel.state ≠ .associationPending ∧
      o.channel.state ≠ .dataReady ∧ .startup ∉ messages o.effects := by
  intro c o
  let x : Chronicle := .proceed ⟨c, []⟩ (c.obey .shutdown)
  have hholds : x.channel.HoldsInOrder :=
    holdsInOrder_step (holdsInOrder_stepAll (holdsInOrder_ofConfig config) before)
      (.command .shutdown)
  have hpermits : ∀ earlier i later, after = earlier ++ i :: later →
      (x.run earlier).Withdrawn →
      Chronicle.Permits (· ≠ .localStartup) (· ≠ .startup)
        (x.channel.stepAll earlier).channel i := by
    rintro earlier i later rfl -
    cases i with
    | raise e => rintro rfl; simp at hraise
    | command y => rintro rfl; simp at hstartup
    | connectionChanged connected => cases connected <;> simp [Chronicle.Permits]
    | timerExpired kind => cases kind <;> simp [Chronicle.Permits, TimerKind.event?]
    | confirm e =>
        rintro hawait rfl
        have hzero := hconfirm earlier later rfl
        rw [stepAll_append] at hzero
        exact absurd hzero (Nat.ne_of_gt hawait)
    | start | unsent | receive | log => trivial
  obtain ⟨hchannel, hqueued⟩ := x.run_faithful hholds after
  have hrun := Chronicle.Withdrawn.lasting.run (Chronicle.withdrawn_shutdown c) hholds hpermits
  have hmessages : .startup ∉ messages o.effects := by
    intro hmem
    obtain ⟨p, hp, hstartup⟩ := List.mem_map.mp hmem
    have hmem : p ∈ (x.run after).queued := by
      rw [hqueued, Chronicle.queued_proceed]
      have hsplit : packets o.effects =
          packets (c.obey .shutdown).effects ++
            packets (x.channel.stepAll after).effects := collect_append _ _ _
      rwa [hsplit] at hp
    exact (hrun.queued p hmem).1 hstartup
  have hlast : o.channel = (x.run after).channel := hchannel.symm
  rw [hlast]
  exact ⟨hrun.goal, hrun.state.1, hrun.state.2, hmessages⟩

/-- A shutdown while the peer's answer to a STARTUP is awaited, and what may
still come then. -/
theorem shutdown_lasts_associationPending :
    let before : List Input :=
      [.start, .connectionChanged true, .confirm .remoteSetup,
        .receive (.identification "BBBB" "AAAA"), .confirm .localStartup]
    let after : List Input := [.receive .startup, .timerExpired .receive]
    ((ofConfig (.sample .client)).stepAll before).channel.state =
        .associationPending ∧
      (((ofConfig (.sample .client)).stepAll before).channel.stepAll
        (.command .shutdown :: after)).channel.state ≠ .associationPending ∧
      .startup ∉ messages (((ofConfig (.sample .client)).stepAll before).channel.stepAll
        (.command .shutdown :: after)).effects := by
  intro before after
  have hconfirm : ∀ earlier later,
      after ≠ earlier ++ .confirm .localStartup :: later := by
    intro earlier later heq
    have hmem : .confirm .localStartup ∈ after := by simp [heq]
    simp [after] at hmem
  have hlasts := shutdown_lasts (.sample .client) before after (by simp [after])
    (by simp [after]) fun _ _ heq => absurd heq (hconfirm _ _)
  have hstate : ((ofConfig (.sample .client)).stepAll before).channel.state =
      .associationPending := by decide +kernel
  exact ⟨hstate, hlasts.2.1, hlasts.2.2.2⟩

/-- A shutdown comes after a STARTUP has been queued and before its confirmation
does.  The confirmation takes the client into the association. -/
theorem shutdown_undone :
    ∃ x, Timed.Reachable (.sample .client) x ∧ x.queued.channel.goal = .ready ∧
      x.queued.channel.state = .associationPending := by
  let take (x : Timed) (i : Input) : Timed := Timed.perform^[9] (x.take i)
  let x₀ := Timed.ofConfig (.sample .client) 0
  let x₁ := take x₀ (.connectionChanged true)
  let x₂ := take x₁ (.confirm .remoteSetup)
  let x₃ := take x₂ (.receive (.identification "BBBB" "AAAA"))
  let x₄ := take x₃ (.command .shutdown)
  let x₅ := take x₄ (.confirm .localStartup)
  have htake : ∀ {x i}, Timed.Reachable (.sample .client) x → x.Admits i →
      Timed.Reachable (.sample .client) (take x i) := by
    intro x i h hadmits
    exact (h.step (.input hadmits)).perform_iterate 9
  have hsetup : x₁.Admits (.confirm .remoteSetup) := by
    have hasked : .remoteSetup ∈ x₁.asked := by decide +kernel
    exact hasked
  have hstartup : x₄.Admits (.confirm .localStartup) := by
    have hasked : .localStartup ∈ x₄.asked := by decide +kernel
    exact hasked
  have h₁ : Timed.Reachable (.sample .client) x₁ := htake (.init 0) trivial
  have h₃ : Timed.Reachable (.sample .client) x₃ := htake (htake h₁ hsetup) trivial
  have h₅ : Timed.Reachable (.sample .client) x₅ := htake (htake h₃ trivial) hstartup
  exact ⟨x₅, h₅, by decide +kernel, by decide +kernel⟩

end Channel

end FlightLink
