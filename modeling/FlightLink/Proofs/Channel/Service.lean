import FlightLink.Proofs.Channel.Chronicle
import FlightLink.Proofs.Timer.Arming
import Mathlib.Tactic.FinCases

/-!
# Channels out of service

No entry of the table leads into `State.disabled` or out of it.  A channel goes
out of service when it is told to, and it stays there until it is told to come
back.  Meanwhile messages may still be received and put on hold, events may come
back and settings may change, and none of it asks for more than log records,
payloads for the application and new settings.

There is one exception.  The expiry of the reconnect timer has no event, so it
does not go through the table: it asks for a connection whatever the state is.
-/

namespace FlightLink

/-- Whether an action concerns the application and the settings only. -/
def Action.isSilent : Action → Bool
  | log _ | deliver _ | reconfigure => true
  | send _ _ | restartTimer _ | stopTimer _ | reconnect | disconnect | halt => false

theorem Action.timing?_of_isSilent {a : Action} (h : a.isSilent) : a.timing? = none := by
  cases a with
  | log r => rfl
  | deliver m => rfl
  | reconfigure => rfl
  | _ => cases h

/-- No event concerns a channel out of service. -/
theorem Table.ne_disabled_of_next? {role : Role} {s t : State} {e : Event}
    (hnext : next? role s e = some t) : s ≠ .disabled ∧ t ≠ .disabled := by
  obtain ⟨r, hr, rfl, rfl, -⟩ := exists_row_of_next? hnext
  cases role <;> fin_cases hr <;> decide

namespace Channel

open Effect

/-- An outcome that puts the channel neither out of service nor back into it,
and that is silent out of service. -/
structure Outcome.Stays (c : Channel) (o : Outcome) : Prop where
  state : o.channel.state = .disabled ↔ c.state = .disabled
  silent : c.state = .disabled → ∀ a ∈ actions o.effects, a.isSilent

variable {c : Channel}

/-! ## Parts of a step -/

theorem isSilent_recorded (c : Channel) (r : LogRecord) :
    ∀ a ∈ actions [c.recorded r], a.isSilent := by
  intro a ha
  unfold recorded at ha
  split at ha
  · cases ha
  · obtain rfl := List.mem_singleton.mp ha
    rfl

theorem isSilent_delivering (c : Channel) (m : Message) :
    ∀ a ∈ actions (c.delivering m), a.isSilent := by
  intro a ha
  rw [delivering, ← List.singleton_append, actions_append] at ha
  rcases List.mem_append.mp ha with hrecord | hdeliver
  · exact c.isSilent_recorded _ a hrecord
  · obtain rfl := List.mem_singleton.mp hdeliver
    rfl

theorem Outcome.stays_of_state_eq {o : Outcome} (hstate : o.channel.state = c.state)
    (hsilent : c.state = .disabled → ∀ a ∈ actions o.effects, a.isSilent) :
    o.Stays c :=
  ⟨by rw [hstate], hsilent⟩

theorem Outcome.stays_recorded {c' : Channel} (hstate : c'.state = c.state)
    (r : LogRecord) : Outcome.Stays c ⟨c', [c.recorded r]⟩ :=
  Outcome.stays_of_state_eq hstate fun _ => c.isSilent_recorded r

theorem Outcome.stays_noted {c' : Channel} (hstate : c'.state = c.state)
    (notes : List Note) : Outcome.Stays c ⟨c', notes.map .note⟩ := by
  refine Outcome.stays_of_state_eq hstate fun _ => ?_
  have hnone : actions (notes.map .note) = [] := by
    induction notes with
    | nil => rfl
    | cons n notes ih => exact ih
  rw [hnone]
  exact List.forall_mem_nil _

theorem Outcome.Stays.andThen {o : Outcome} (h : o.Stays c) {next : Channel → Outcome}
    (hnext : (next o.channel).Stays o.channel) : (o.andThen next).Stays c := by
  constructor
  · exact hnext.state.trans h.state
  · intro hdisabled a ha
    rw [andThen_effects, actions_append] at ha
    rcases List.mem_append.mp ha with hfirst | hlast
    · exact h.silent hdisabled a hfirst
    · exact hnext.silent (h.state.mpr hdisabled) a hlast

theorem stays_raise (c : Channel) (e : Event) : (c.raise e).Stays c := by
  cases hnext : c.next? e with
  | none =>
      rw [raise_of_ignored hnext]
      exact Outcome.stays_noted rfl [_]
  | some s =>
      obtain ⟨hc, hs⟩ := Table.ne_disabled_of_next? hnext
      have hstate : (c.raise e).channel.state = s := by
        rw [raise_state, hnext]
        rfl
      constructor
      · rw [hstate]
        exact ⟨fun h => absurd h hs, fun h => absurd h hc⟩
      · exact fun h => absurd h hc

/-! ## Messages -/

theorem stays_dispatch (c : Channel) (m : Message) : (c.dispatch m).Stays c := by
  have hreceipt : ∀ severity text,
      Outcome.Stays c ⟨c, [c.loggedReceipt severity m.kind text]⟩ :=
    fun severity text => Outcome.stays_recorded rfl _
  have hdelivering : Outcome.Stays c ⟨c, c.delivering m⟩ :=
    Outcome.stays_of_state_eq rfl fun _ => c.isSilent_delivering m
  unfold dispatch
  cases m.kind with
  | identification =>
      refine Outcome.Stays.andThen ?_ (c.stays_raise _)
      refine Outcome.stays_of_state_eq rfl fun _ a ha => ?_
      rw [actions_append] at ha
      rcases List.mem_append.mp ha with hmismatch | hrecord
      · split at hmismatch
        · exact c.isSilent_recorded _ a hmismatch
        · cases hmismatch
      · exact c.isSilent_recorded _ a hrecord
  | system =>
      cases systemEvent? m.text with
      | none => exact Outcome.stays_recorded rfl _
      | some e => exact (Outcome.stays_recorded rfl _).andThen (c.stays_raise e)
  | operational => exact hdelivering.andThen (c.stays_raise _)
  | operator | status | unknown => exact hdelivering

theorem stays_settleAll (c : Channel) (l : List Message) :
    (c.settleAll (l.map (·, .dispatched))).Stays c := by
  induction l generalizing c with
  | nil => exact Outcome.stays_noted rfl []
  | cons m rest ih => exact (c.stays_dispatch m).andThen (ih _)

theorem stays_replay (c : Channel) : c.replay.Stays c := by
  obtain ⟨hstate, hsilent⟩ := c.stays_settleAll (c.replayed c.held.toList)
  rw [replay_eq]
  exact ⟨hstate, hsilent⟩

theorem stays_release (c : Channel) : c.release.Stays c := by
  refine Outcome.stays_of_state_eq rfl fun _ a ha => ?_
  obtain ⟨x, hx, hpick⟩ := List.mem_filterMap.mp ha
  obtain ⟨m, -, hm⟩ := List.mem_flatMap.mp hx
  have hmem : a ∈ actions (c.releasing m) := List.mem_filterMap.mpr ⟨x, hm, hpick⟩
  unfold releasing at hmem
  split at hmem
  · exact c.isSilent_recorded _ a hmem
  · exact c.isSilent_recorded _ a hmem
  · exact c.isSilent_delivering m a hmem

/-! ## Steps -/

theorem stays_send (hstate : c.state ≠ .disabled) (m : Message) (after? : Option Event) :
    (c.send m after?).Stays c :=
  Outcome.stays_of_state_eq rfl fun hdisabled => absurd hdisabled hstate

theorem stays_reconfigure (c : Channel) (settings : Settings) :
    (c.reconfigure settings).Stays c := by
  unfold reconfigure
  split
  · exact Outcome.stays_recorded rfl _
  · next config _ =>
      by_cases hrole : config.role ≠ c.config.role
      · rw [if_pos hrole]
        exact Outcome.stays_recorded rfl _
      · rw [if_neg hrole]
        refine Outcome.stays_of_state_eq rfl fun _ a ha => ?_
        dsimp only at ha
        rw [← List.singleton_append, actions_append] at ha
        rcases List.mem_append.mp ha with hrecord | hmem
        · exact isSilent_recorded { c with config } _ a hrecord
        · obtain rfl := List.mem_singleton.mp hmem
          rfl

theorem stays_obey (c : Channel) {y : Command}
    (hdisable : y = .disable → c.state = .disabled) (henable : y ≠ .enable) :
    (c.obey y).Stays c := by
  cases y with
  | data text =>
      rw [obey]
      by_cases hready : c.state = .dataReady
      · rw [if_pos hready]
        exact stays_send (by rw [hready]; decide) _ _
      · rw [if_neg hready]
        exact Outcome.stays_recorded rfl _
  | startup =>
      simp only [obey]
      by_cases hready : c.state = .ready
      · rw [if_pos hready]
        have hne : c.state ≠ .disabled := by
          rw [hready]
          decide
        exact Outcome.stays_of_state_eq rfl fun hdisabled => absurd hdisabled hne
      · rw [if_neg hready]
        exact Outcome.stays_noted (by rfl) [_]
  | shutdown =>
      obtain ⟨hstate, hsilent⟩ := stays_raise { c with goal := .ready } .localShutdown
      exact ⟨hstate, hsilent⟩
  | disconnect => exact c.stays_raise _
  | disable =>
      rw [obey, disable, if_pos (hdisable rfl)]
      exact Outcome.stays_noted rfl []
  | enable => exact absurd rfl henable
  | reconfigure settings => exact c.stays_reconfigure settings

theorem stays_confirm (c : Channel) (e : Event) : (c.confirm e).Stays c := by
  by_cases hawait : c.awaiting = 0
  · rw [confirm, if_pos hawait]
    exact Outcome.stays_noted rfl [_]
  · rw [confirm_eq_andThen_replay hawait]
    obtain ⟨hstate, hsilent⟩ := stays_raise { c with awaiting := c.awaiting - 1 } e
    have hraise : (raise { c with awaiting := c.awaiting - 1 } e).Stays c :=
      ⟨hstate, hsilent⟩
    exact hraise.andThen (stays_replay _)

theorem stays_unsent (c : Channel) (after? : Option Event) :
    (c.unsent after?).Stays c := by
  cases after? with
  | none => exact c.stays_replay
  | some e =>
      rw [unsent]
      split
      · exact (Outcome.stays_recorded (by rfl) _).andThen (stays_replay _)
      · exact c.stays_replay

theorem stays_timerExpired (c : Channel) {kind : TimerKind}
    (hkind : c.state = .disabled → kind ≠ .reconnect) :
    (c.timerExpired kind).Stays c := by
  unfold timerExpired
  cases he : kind.event? with
  | some e => exact (Outcome.stays_noted rfl [_]).andThen (c.stays_raise e)
  | none =>
      refine Outcome.stays_of_state_eq rfl fun hdisabled => ?_
      have hreconnect : kind = .reconnect := by
        cases kind with
        | reconnect => rfl
        | _ => cases he
      exact absurd hreconnect (hkind hdisabled)

/-- What a channel out of service may take in without coming back or speaking
up, and what leaves any other one in service. -/
def Civil (c : Channel) : Input → Prop
  | .start | .command .enable => False
  | .command .disable => c.state = .disabled
  | .timerExpired kind => c.state = .disabled → kind ≠ .reconnect
  | _ => True

/-- Only the start and the commands for it change whether a channel is in
service.  A channel out of service is silent. -/
theorem stays_step {i : Input} (hi : c.Civil i) : (c.step i).Stays c := by
  cases i with
  | start => cases hi
  | raise e => exact c.stays_raise e
  | command y =>
      refine c.stays_obey ?_ ?_
      · rintro rfl
        exact hi
      · rintro rfl
        exact hi
  | connectionChanged up =>
      cases up with
      | true =>
          simp only [step, connectionChanged, if_true]
          split
          · exact c.stays_raise _
          · exact Outcome.stays_noted rfl []
      | false =>
          have hraise := c.release.channel.stays_raise .remoteDisconnect
          rw [step, connectionChanged, if_neg Bool.false_ne_true]
          exact c.stays_release.andThen hraise
  | timerExpired kind => exact c.stays_timerExpired hi
  | confirm e => exact c.stays_confirm e
  | unsent after? => exact c.stays_unsent after?
  | receive m =>
      simp only [step, receive]
      split
      · exact Outcome.stays_noted (by rfl) [_]
      · exact c.stays_dispatch m
  | log severity text => exact Outcome.stays_recorded rfl _

theorem stays_stepAll {l : List Input} (hl : ∀ i ∈ l, ∀ c : Channel, c.Civil i) :
    (c.stepAll l).Stays c := by
  induction l generalizing c with
  | nil => exact Outcome.stays_noted rfl []
  | cons i rest ih =>
      exact (stays_step (hl i List.mem_cons_self c)).andThen
        (ih fun j hj => hl j (List.mem_cons_of_mem _ hj))

/-! ## Going out of service -/

/-- Going out of service stops every timer. -/
theorem arming_disable (c : Channel) (hstate : c.state ≠ .disabled)
    (armed : TimerKind → Bool) :
    arming armed (timings c.disable.effects) = fun _ => false := by
  have htimings : timings c.disable.effects = TimerKind.all.map (·, false) := by
    rw [disable, if_neg hstate]
    simp [entering, TimerKind.all]
  rw [htimings]
  funext kind
  cases kind <;> rfl

end Channel

end FlightLink
