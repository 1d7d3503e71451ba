import FlightLink.Proofs.Channel.Connection

/-!
# Clients that have announced themselves

A client that has just been connected sends its identification and waits in
`State.connectionPending` for the event of this packet.  It gets there in no other way.
While it waits it sends nothing and awaits all that it has awaited, whatever else
happens; the event of a packet takes it away, and so does the end of the connection.
-/

namespace FlightLink

/-- A client comes to wait for its identification when a connection is set up. -/
theorem Table.of_next?_eq_connectionPending {role : Role} {s : State} {e : Event}
    (hnext : next? role s e = some .connectionPending) : s = .idle ∧ e = .localSetup := by
  obtain ⟨r, hr, rfl, ht, hmem⟩ := exists_row_of_next? hnext
  cases role <;> fin_cases hr <;> simp_all

/-- The event of a packet takes a client away. -/
theorem Table.next?_connectionPending_of_isAsked {e : Event} (he : e.isAsked) :
    ∃ s, next? .client .connectionPending e = some s ∧ s ≠ .connectionPending := by
  cases e with
  | remoteSetup => exact ⟨.idPending, rfl, by decide⟩
  | localStartup | localData => exact ⟨.idle, rfl, by decide⟩
  | _ => cases he

namespace Channel

open Effect

/-- An outcome that makes nobody wait for an identification, and by which a client that
waits for its own sends nothing and awaits no less than before. -/
def Outcome.Abides (o : Outcome) (c : Channel) : Prop :=
  o.channel.state = .connectionPending →
    c.state = .connectionPending ∧ packets o.effects = [] ∧
      c.awaiting ≤ o.channel.awaiting

/-- An outcome by which a client sends its identification and waits for it. -/
structure Outcome.Announces (o : Outcome) (c : Channel) : Prop where
  state : c.state ≠ .connectionPending
  config : o.channel.config = c.config
  packets : packets o.effects = [(c.ownIdentification, some .remoteSetup)]
  awaiting : 0 < o.channel.awaiting

variable {c : Channel} {r : Role}

theorem Outcome.abides_of_state_ne {o : Outcome} (h : o.channel.state ≠ .connectionPending) :
    o.Abides c :=
  fun hstate => absurd hstate h

theorem Outcome.abides_same {o : Outcome} (hstate : o.channel.state = c.state)
    (hawaiting : o.channel.awaiting = c.awaiting) (hnone : Effect.packets o.effects = []) :
    o.Abides c :=
  fun h => ⟨hstate ▸ h, hnone, Nat.le_of_eq hawaiting.symm⟩

theorem Outcome.Abides.andThen {o : Outcome} (h : o.Abides c) {next : Channel → Outcome}
    (hnext : (next o.channel).Abides o.channel) : (o.andThen next).Abides c := by
  intro hstate
  obtain ⟨hmiddle, hlater, hmore⟩ := hnext hstate
  obtain ⟨hfirst, hearlier, hless⟩ := h hmiddle
  refine ⟨hfirst, ?_, Nat.le_trans hless hmore⟩
  rw [andThen_effects, packets, collect_append]
  rw [packets] at hearlier hlater
  rw [hearlier, hlater]
  rfl

theorem abides_raise (c : Channel) {e : Event} (he : e ≠ .localSetup) :
    (c.raise e).Abides c := by
  cases hnext : c.next? e with
  | none =>
      rw [raise_of_ignored hnext]
      exact Outcome.abides_same rfl rfl rfl
  | some s =>
      apply Outcome.abides_of_state_ne
      rw [raise_state, hnext, Option.getD_some]
      rintro rfl
      exact he (Table.of_next?_eq_connectionPending hnext).2

/-- A client that hears of a connection announces itself, unless it waits already. -/
theorem abides_or_announces_raise (c : Channel) :
    (c.raise .localSetup).Abides c ∨ (c.raise .localSetup).Announces c := by
  by_cases hnext : c.next? .localSetup = some .connectionPending
  · obtain ⟨hidle, -⟩ := Table.of_next?_eq_connectionPending hnext
    have hpackets : packets (c.raise .localSetup).effects =
        [(c.ownIdentification, some .remoteSetup)] := by
      rw [packets_raise, hnext, hidle]
      rfl
    refine .inr ⟨by rw [hidle]; decide, raise_config _ _, hpackets, ?_⟩
    rw [raise_awaiting, expected, hpackets]
    exact Nat.succ_pos _
  · left
    cases hnone : c.next? .localSetup with
    | none =>
        rw [raise_of_ignored hnone]
        exact Outcome.abides_same rfl rfl rfl
    | some s =>
        apply Outcome.abides_of_state_ne
        rw [raise_state, hnone, Option.getD_some]
        rintro rfl
        exact hnext hnone

theorem abides_dispatch (c : Channel) (m : Message) : (c.dispatch m).Abides c := by
  have hchannel := c.dispatch_channel m
  have hpackets : packets (c.dispatch m).effects =
      (c.messageEvent? m).elim [] fun e => packets (c.raise e).effects := by
    rw [packets, collect_dispatch]
    simp
  cases he : c.messageEvent? m with
  | none =>
      rw [he] at hchannel hpackets
      exact Outcome.abides_same (congrArg state hchannel) (congrArg awaiting hchannel) hpackets
  | some e =>
      rw [he] at hchannel hpackets
      have hsetup : e ≠ .localSetup := by
        rintro rfl
        cases (messageEvent?_spec he).1
      intro hstate
      rw [hchannel] at hstate ⊢
      rw [hpackets]
      exact c.abides_raise hsetup hstate

theorem abides_settleAll (c : Channel) (l : List Message) :
    (c.settleAll (l.map (·, .dispatched))).Abides c := by
  induction l generalizing c with
  | nil => exact Outcome.abides_same rfl rfl rfl
  | cons m rest ih => exact (c.abides_dispatch m).andThen (ih _)

theorem abides_replay (c : Channel) : c.replay.Abides c := by
  rw [replay_eq]
  exact c.abides_settleAll _

theorem abides_receive (c : Channel) (m : Message) : (c.receive m).Abides c := by
  unfold receive
  split
  · exact Outcome.abides_same rfl rfl (by simp)
  · exact c.abides_dispatch m

theorem abides_disable (c : Channel) : c.disable.Abides c := by
  apply Outcome.abides_of_state_ne
  rw [disable_state]
  decide

theorem abides_obey (c : Channel) (y : Command) : (c.obey y).Abides c := by
  cases y with
  | data text =>
      rw [obey]
      split
      · next hstate =>
          apply Outcome.abides_of_state_ne
          change c.state ≠ _
          rw [hstate]
          decide
      · exact Outcome.abides_same rfl rfl (by simp)
  | startup =>
      rw [obey]
      split
      · next hstate =>
          apply Outcome.abides_of_state_ne
          change c.state ≠ _
          rw [show c.state = .ready from hstate]
          decide
      · exact Outcome.abides_same rfl rfl (by simp)
  | shutdown => exact abides_raise { c with goal := .ready } (by decide)
  | disconnect => exact c.abides_raise (by decide)
  | disable => exact c.abides_disable
  | enable =>
      rw [obey]
      split
      · exact Outcome.abides_of_state_ne (by simp)
      · exact Outcome.abides_same rfl rfl rfl
  | reconfigure settings =>
      rw [obey, reconfigure]
      split
      · exact Outcome.abides_same rfl rfl (by simp)
      · split
        · exact Outcome.abides_same rfl rfl (by simp)
        · exact Outcome.abides_same rfl rfl (by simp)

/-- Inputs that tell neither of the connection nor of a packet sent. -/
def Input.isAside : Input → Bool
  | .raise e => e != .localSetup
  | .connectionChanged _ | .confirm _ | .unsent _ => false
  | _ => true

theorem abides_step (c : Channel) {i : Input} (hi : i.isAside) : (c.step i).Abides c := by
  cases i with
  | start =>
      simp only [step, start]
      split
      · exact Outcome.abides_same rfl rfl (by simp)
      · exact c.abides_disable
  | raise e => exact c.abides_raise (by simpa [Input.isAside] using hi)
  | command y => exact c.abides_obey y
  | timerExpired kind =>
      simp only [step, timerExpired]
      split
      · next e he =>
          have hsetup : e ≠ .localSetup := by
            cases kind <;> cases he <;> decide
          have hnoted : Outcome.Abides ⟨c, [c.noted .debug s!"{kind.name} expired"]⟩ c :=
            Outcome.abides_same rfl rfl (by simp)
          exact hnoted.andThen (c.abides_raise hsetup)
      · exact Outcome.abides_same rfl rfl (by simp)
  | receive m => exact c.abides_receive m
  | log severity text => exact Outcome.abides_same rfl rfl (by simp [step])
  | connectionChanged up => cases hi
  | confirm e => cases hi
  | unsent after? => cases hi

theorem abides_stepAll (c : Channel) {l : List Input} (hl : ∀ i ∈ l, i.isAside) :
    (c.stepAll l).Abides c := by
  induction l generalizing c with
  | nil => exact Outcome.abides_same rfl rfl rfl
  | cons i rest ih =>
      obtain ⟨hfirst, hrest⟩ := List.forall_mem_cons.mp hl
      exact (c.abides_step hfirst).andThen (ih _ hrest)

/-- A failure to send makes nobody wait for an identification. -/
theorem state_of_unsent {after? : Option Event}
    (h : (c.unsent after?).channel.state = .connectionPending) :
    c.state = .connectionPending := by
  cases after? with
  | none => exact (c.abides_replay h).1
  | some e =>
      rw [unsent] at h
      split at h
      · exact (abides_replay { c with awaiting := c.awaiting - 1 } h).1
      · exact (c.abides_replay h).1

/-- Nobody waits once the event of a packet has come back. -/
theorem Fits.confirm_state_ne (h : c.Fits r) {e : Event} (he : e.isAsked)
    (hawait : c.awaiting ≠ 0) : (c.confirm e).channel.state ≠ .connectionPending := by
  have hsetup : e ≠ .localSetup := by
    rintro rfl
    cases he
  intro hstate
  rw [confirm_eq_andThen_replay hawait, andThen_channel] at hstate
  obtain ⟨hraised, -, -⟩ := abides_replay _ hstate
  obtain ⟨hbefore, -, -⟩ := abides_raise { c with awaiting := c.awaiting - 1 } hsetup hraised
  have hclient : c.role = .client := h.role.trans (h.client hbefore)
  obtain ⟨s, hnext, hs⟩ := Table.next?_connectionPending_of_isAsked he
  have hevent : next? { c with awaiting := c.awaiting - 1 } e = some s := by
    change Table.next? c.role c.state e = some s
    rw [hclient, show c.state = .connectionPending from hbefore, hnext]
  rw [raise_state, hevent, Option.getD_some] at hraised
  exact hs hraised

/-- Nobody waits once the connection is lost. -/
theorem Fits.connectionLost_state_ne (h : c.Fits r) :
    (c.connectionChanged false).channel.state ≠ .connectionPending := by
  have hdetached : (c.connectionChanged false).channel.state = .idle ∨
      (c.connectionChanged false).channel.state = .disabled :=
    h.detached_of_connectionLost.state
  rcases hdetached with hstate | hstate <;> rw [hstate] <;> decide

/-- A client that hears of a connection announces itself, if it does not wait. -/
theorem abides_or_announces_connected (c : Channel) :
    (c.connectionChanged true).Abides c ∨ (c.connectionChanged true).Announces c := by
  rw [connectionChanged, if_pos rfl]
  split
  · exact c.abides_or_announces_raise
  · exact .inl (Outcome.abides_same rfl rfl rfl)

/-- The events that packets ask for are no others than these. -/
theorem Fits.asked_stepAll (h : c.Fits r) (hholds : c.HoldsInOrder) (l : List Input) :
    ∀ e ∈ expected (c.stepAll l).effects, e.isAsked := by
  obtain ⟨-, hqueued⟩ := Chronicle.run_faithful (x := ⟨c, []⟩) hholds l
  intro e he
  refine (h.stepAll hholds l).1.asked e ?_
  rw [hqueued]
  exact he

end Channel

end FlightLink
