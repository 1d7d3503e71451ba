import FlightLink.Proofs.Channel.Connection
import FlightLink.Proofs.Channel.Supervision

/-!
# Clients without a connection try again

In `State.idle` a client waits for its reconnect timer, unless something else sees
to it that a connection is looked for.  Every transition into that state starts the
timer.  Going back into service does not, and neither does the start of a channel or
the expiry of the timer: these ask for a connection at once.  The end of a connection
starts the timer whatever the state is, and the start of one leaves `State.idle`.
-/

namespace FlightLink.Channel

open Effect

/-- A client that is not forgotten in `State.idle`; `sought` says that something else
sees to it that a connection is looked for. -/
structure Retries (c : Channel) (sought : Prop) (armed : TimerKind → Bool) : Prop where
  role : c.role = .client
  config : c.config.role = .client
  idle : c.state = .idle → armed .reconnect = true ∨ sought

/-- An outcome that leaves such a client behind, its actions included. -/
def Outcome.Retries (o : Outcome) (sought : Prop) (armed : TimerKind → Bool) : Prop :=
  o.channel.Retries (sought ∨ .reconnect ∈ actions o.effects)
    (arming armed (timings o.effects))

variable {c : Channel} {sought : Prop} {armed : TimerKind → Bool}

theorem Retries.mono {sought' : Prop} (h : c.Retries sought armed)
    (hsought : sought → sought') : c.Retries sought' armed :=
  ⟨h.role, h.config, fun hidle => (h.idle hidle).imp_right hsought⟩

theorem Outcome.Retries.andThen {o : Outcome} (h : o.Retries sought armed)
    {next : Channel → Outcome}
    (hnext : ∀ sought armed, o.channel.Retries sought armed →
      (next o.channel).Retries sought armed) :
    (o.andThen next).Retries sought armed := by
  have hlast := hnext _ _ h
  unfold Outcome.Retries at hlast ⊢
  rw [andThen_channel, andThen_effects, timings, collect_append, arming_append]
  refine hlast.mono ?_
  rw [actions_append, List.mem_append]
  exact or_assoc.mp

namespace Retries

/-- Nothing is ordered of the timers, and the state stays the same. -/
theorem still (h : c.Retries sought armed) {o : Outcome}
    (hstate : o.channel.state = c.state) (hrole : o.channel.role = c.role)
    (hconfig : o.channel.config.role = c.config.role)
    (htimings : timings o.effects = []) : o.Retries sought armed := by
  refine ⟨hrole.trans h.role, hconfig.trans h.config, ?_⟩
  rw [hstate, htimings]
  intro hidle
  exact (h.idle hidle).imp_right .inl

/-- A connection is asked for. -/
theorem asking (hrole : c.role = .client) (hconfig : c.config.role = .client)
    (first : Effect) : Outcome.Retries ⟨c, [first, .action .reconnect]⟩ sought armed := by
  refine ⟨hrole, hconfig, fun _ => .inr (.inr ?_)⟩
  show _ ∈ actions ([first] ++ [.action .reconnect])
  rw [actions_append]
  exact List.mem_append_right _ (List.mem_singleton_self _)

/-- A transition into `State.idle` starts the timer. -/
theorem raise_of_next {e : Event} (hrole : c.role = .client)
    (hconfig : c.config.role = .client) (hnext : c.state = .idle → c.next? e ≠ none) :
    (c.raise e).channel.Retries sought (arming armed (timings (c.raise e).effects)) := by
  refine ⟨?_, ?_, ?_⟩
  · rw [raise_role, hrole]
  · rw [raise_config, hconfig]
  · intro hidle
    left
    rw [raise_state] at hidle
    rw [timings_raise]
    cases hs : c.next? e with
    | none =>
        rw [hs] at hidle
        exact absurd hs (hnext hidle)
    | some s =>
        rw [hs] at hidle
        obtain rfl : s = .idle := hidle
        simp [State.enteringTimings, hconfig]

theorem raised (h : c.Retries sought armed) (e : Event) :
    (c.raise e).channel.Retries sought (arming armed (timings (c.raise e).effects)) := by
  cases hnext : c.next? e with
  | none =>
      have hstill : (c.raise e).channel.state = c.state ∧
          timings (c.raise e).effects = [] := by
        rw [raise_state, timings_raise, hnext]
        exact ⟨rfl, rfl⟩
      refine ⟨(raise_role c e).trans h.role, ?_, ?_⟩
      · rw [raise_config, h.config]
      · rw [hstill.1, hstill.2]
        exact h.idle
  | some s =>
      refine raise_of_next h.role h.config fun _ => ?_
      rw [hnext]
      exact nofun

theorem raise (h : c.Retries sought armed) (e : Event) :
    (c.raise e).Retries sought armed :=
  (h.raised e).mono .inl

theorem dispatch (h : c.Retries sought armed) (m : Message) :
    (c.dispatch m).Retries sought armed := by
  cases he : c.messageEvent? m with
  | none =>
      refine h.still ?_ ?_ ?_ ?_
      all_goals simp [dispatch_channel, collect_dispatch, he]
  | some e =>
      have hraised := h.raised e
      refine Retries.mono ?_ .inl
      rw [dispatch_channel, timings, collect_dispatch]
      simpa [he] using hraised

theorem settleAll (h : c.Retries sought armed) (l : List Message) :
    (c.settleAll (l.map (·, .dispatched))).Retries sought armed := by
  induction l generalizing c sought armed with
  | nil => exact h.still rfl rfl rfl rfl
  | cons m rest ih => exact (h.dispatch m).andThen fun _ _ h => ih h

theorem replay (h : c.Retries sought armed) : c.replay.Retries sought armed := by
  rw [replay_eq]
  obtain ⟨hrole, hconfig, hidle⟩ := h.settleAll (c.replayed c.held.toList)
  exact ⟨hrole, hconfig, hidle⟩

/-- Out of service, nothing has to be looked for. -/
theorem disable (h : c.Retries sought armed) : c.disable.Retries sought armed := by
  unfold Channel.disable
  split
  · exact h.still rfl rfl rfl rfl
  · exact ⟨h.role, h.config, nofun⟩

theorem start (hrole : c.role = .client) (hconfig : c.config.role = .client) :
    c.start.Retries sought armed := by
  unfold Channel.start
  split
  · exact asking hrole hconfig _
  · unfold Channel.disable
    split
    · next hdisabled =>
        refine ⟨hrole, hconfig, fun hidle => ?_⟩
        rw [hdisabled] at hidle
        cases hidle
    · exact ⟨hrole, hconfig, nofun⟩

theorem send (h : c.Retries sought armed) (m : Message) (after? : Option Event) :
    (c.send m after?).Retries sought armed :=
  h.still rfl rfl rfl (by simp [Channel.send])

theorem reconfigure (h : c.Retries sought armed) (settings : Settings) :
    (c.reconfigure settings).Retries sought armed := by
  unfold Channel.reconfigure
  split
  · exact h.still rfl rfl rfl (by simp)
  · split
    · exact h.still rfl rfl rfl (by simp)
    · next hsame => exact h.still rfl rfl (not_not.mp hsame) (by simp)

theorem obey (h : c.Retries sought armed) (y : Command) :
    (c.obey y).Retries sought armed := by
  have hgoal : ∀ goal, Retries { c with goal } sought armed := fun _ =>
    ⟨h.role, h.config, h.idle⟩
  cases y with
  | data text =>
      simp only [Channel.obey]
      split
      · exact h.send _ _
      · exact h.still rfl rfl rfl (by simp)
  | startup =>
      simp only [Channel.obey]
      split
      · exact (hgoal .dataReady).send _ _
      · exact (hgoal .dataReady).still rfl rfl rfl (by simp)
  | shutdown => exact (hgoal .ready).raise _
  | disconnect => exact h.raise _
  | disable => exact h.disable
  | enable =>
      simp only [Channel.obey]
      split
      · exact asking (c := { c with state := .idle }) h.role h.config _
      · exact h.still rfl rfl rfl rfl
  | reconfigure settings => exact h.reconfigure settings

/-- What the transport tells of a connection settles the matter, whatever was under
way before. -/
theorem connectionChanged (hrole : c.role = .client) (hconfig : c.config.role = .client)
    (up : Bool) : (c.connectionChanged up).Retries sought armed := by
  cases up with
  | true =>
      have hchanged : c.connectionChanged true = c.raise .localSetup := by
        simp [Channel.connectionChanged, hconfig]
      rw [hchanged]
      refine (raise_of_next hrole hconfig ?_).mono .inl
      intro hidle
      rw [next?, hrole, hidle]
      decide
  | false =>
      let o := c.release
      have hraised : (o.channel.raise .remoteDisconnect).channel.Retries sought
          (arming (arming armed (timings o.effects))
            (timings (o.channel.raise .remoteDisconnect).effects)) := by
        refine raise_of_next hrole hconfig ?_
        intro hidle
        rw [next?, show o.channel.role = .client from hrole, hidle]
        decide
      rw [← arming_append, timings, timings, ← collect_append] at hraised
      exact hraised.mono .inl

theorem receive (h : c.Retries sought armed) (m : Message) :
    (c.receive m).Retries sought armed := by
  unfold Channel.receive
  split
  · exact h.still rfl rfl rfl (by simp)
  · exact h.dispatch m

theorem confirm (h : c.Retries sought armed) (e : Event) :
    (c.confirm e).Retries sought armed := by
  unfold Channel.confirm
  split
  · exact h.still rfl rfl rfl (by simp)
  · have hcount : Retries { c with awaiting := c.awaiting - 1 } sought armed :=
      ⟨h.role, h.config, h.idle⟩
    exact (hcount.raise e).andThen fun _ _ h => h.replay

theorem unsent (h : c.Retries sought armed) (after? : Option Event) :
    (c.unsent after?).Retries sought armed := by
  unfold Channel.unsent
  split
  · split
    · refine Outcome.Retries.andThen (h.still rfl rfl rfl ?_) fun _ _ h => h.replay
      simp
    · exact h.replay
  · exact h.replay

/-- An expiry disarms its timer.  That of the reconnect timer asks for a
connection. -/
theorem timerExpired (h : c.Retries sought armed) (kind : TimerKind) :
    (c.timerExpired kind).Retries sought (Function.update armed kind false) := by
  unfold Channel.timerExpired
  cases he : kind.event? with
  | none => exact asking h.role h.config _
  | some e =>
      have hkind : kind ≠ .reconnect := by
        rintro rfl
        cases he
      have hdisarmed : c.Retries sought (Function.update armed kind false) := by
        refine ⟨h.role, h.config, ?_⟩
        rw [Function.update_of_ne hkind.symm]
        exact h.idle
      exact Outcome.Retries.andThen (hdisarmed.still rfl rfl rfl (by simp))
        fun _ _ h => h.raise e

/-- Any step but an expiry. -/
theorem step (h : c.Retries sought armed) {i : Input}
    (hi : ∀ kind, i ≠ .timerExpired kind) : (c.step i).Retries sought armed := by
  cases i with
  | start => exact start h.role h.config
  | raise e => exact h.raise e
  | command y => exact h.obey y
  | connectionChanged up => exact connectionChanged h.role h.config up
  | timerExpired kind => exact absurd rfl (hi kind)
  | confirm e => exact h.confirm e
  | unsent after? => exact h.unsent after?
  | receive m => exact h.receive m
  | log severity text => exact h.still rfl rfl rfl (by simp [Channel.step])

theorem stepAll (h : c.Retries sought armed) {l : List Input}
    (hl : ∀ i ∈ l, ∀ kind, i ≠ .timerExpired kind) :
    (c.stepAll l).Retries sought armed := by
  induction l generalizing c sought armed with
  | nil => exact h.still rfl rfl rfl rfl
  | cons i rest ih =>
      rw [List.forall_mem_cons] at hl
      exact (h.step hl.1).andThen fun _ _ h => ih h hl.2

end Retries

end FlightLink.Channel
