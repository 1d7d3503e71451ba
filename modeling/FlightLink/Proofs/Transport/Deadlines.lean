import FlightLink.Proofs.Settings.Rules
import FlightLink.Proofs.Timer.Expiries
import FlightLink.Proofs.Timer.Rearming
import FlightLink.Proofs.Transport.Endpoints
import FlightLink.Proofs.Transport.Listening

/-!
# Deadlines under checked settings

Settings may ask for intervals that are longer than the clock covers.  A timer that is
started then has a deadline all the same, for a sleep that is too long is cut.  A server
adds its delay to the time of a failed attempt to bind, and has nothing to fall back on.
It crashes when an attempt fails so late, or with so long a delay, that the sum is beyond
the clock, and in no other run.
-/

namespace FlightLink

/-! ## Deadlines of timers -/

/-- An arm has a deadline after its start.  This is the end of its interval, unless the
interval is longer than the longest sleep; then it may be earlier, but not before the
longest sleep is over.  The clock covers the deadline if it goes on for that long. -/
structure Arm.Timed (clock : Clock) (a : Arm) : Prop where
  since_lt : a.since < a.deadline clock
  kept : a.interval ≤ clock.longest → a.deadline clock = a.since + a.interval
  cut : clock.longest ≤ a.interval →
    a.since + clock.longest ≤ a.deadline clock ∧ a.deadline clock ≤ a.since + a.interval
  covered : a.since + clock.longest < clock.span → a.deadline clock < clock.span

theorem Arm.timed {clock : Clock} (hclock : clock.Saturates) {a : Arm} (h : 0 < a.interval) :
    a.Timed clock where
  since_lt := Arm.since_lt_deadline hclock h
  kept := a.deadline_of_le hclock
  cut h := ⟨a.le_deadline hclock h, a.deadline_le hclock⟩
  covered h := hclock.wake_lt_span h _

namespace TimerBank

/-- A configuration that is handed in has been returned by a check. -/
def Operation.IsChecked : Operation → Prop
  | reconfigure config => ∃ settings : Settings, settings.check = .ok config
  | _ => True

namespace Watch

/-- The run of an arm goes on, or the expiry is in the queue. -/
def Pending (w : Watch) (kind : TimerKind) (a : Arm) : Prop :=
  ⟨kind, (w.bank.get kind).generation⟩ ∈ w.bank.queue ∨
    ⟨(w.bank.get kind).generation, a⟩ ∈ (w.bank.get kind).runs

/-- All intervals that timers have been started with come from checked settings. -/
structure Checked (w : Watch) : Prop where
  config : ∃ settings : Settings, settings.check = .ok w.config
  arms : ∀ kind a, (kind, .armed a) ∈ w.past → 0 < a.interval

variable {w : Watch}

theorem Checked.ofConfig (clock : Clock) {settings : Settings} {config : Config}
    (h : settings.check = .ok config) : (Watch.ofConfig clock config).Checked :=
  ⟨⟨settings, h⟩, fun _ _ hmem => absurd hmem List.not_mem_nil⟩

theorem mem_history {kind : TimerKind} {e : Event} :
    e ∈ w.history kind ↔ (kind, e) ∈ w.past := by
  simp [history]

theorem Checked.next (h : w.Checked) {operation : Operation} (ho : operation.IsChecked) :
    (w.next operation).Checked := by
  obtain ⟨settings, hcheck⟩ := h.config
  -- what is no start leaves no new arm behind
  have hkeep : ∀ {l : List (TimerKind × Event)}, (∀ kind a, (kind, .armed a) ∉ l) →
      ∀ kind a, (kind, .armed a) ∈ w.past ++ l → 0 < a.interval := by
    intro l hl kind a hmem
    rcases List.mem_append.mp hmem with hmem | hmem
    · exact h.arms kind a hmem
    · exact absurd hmem (hl kind a)
  cases operation with
  | restart kind =>
      refine ⟨h.config, fun kind' a hmem => ?_⟩
      rcases List.mem_append.mp hmem with hmem | hmem
      · exact h.arms kind' a hmem
      · cases List.mem_singleton.mp hmem
        exact Settings.interval_pos_of_check hcheck kind
  | stop kind => exact ⟨h.config, hkeep (by simp)⟩
  | reconfigure config => exact ⟨ho, h.arms⟩
  | pass duration => exact ⟨h.config, h.arms⟩
  | expired => exact ⟨h.config, hkeep (by simp)⟩

theorem Checked.run (h : w.Checked) {operations : List Operation}
    (hoperations : ∀ o ∈ operations, o.IsChecked) : (w.run operations).Checked := by
  induction operations generalizing w with
  | nil => exact h
  | cons operation rest ih =>
      rw [List.forall_mem_cons] at hoperations
      exact ih (h.next hoperations.1) hoperations.2

/-- An arm that stands has an expiry in the queue, or a run that goes on. -/
theorem Sound.pending (h : w.Sound) {kind : TimerKind} {a : Arm}
    (ha : standing? (w.history kind) = some a) : w.Pending kind a := by
  have hkind := h.tracks.kind kind
  by_cases hqueued : ⟨kind, (w.bank.get kind).generation⟩ ∈ w.bank.queue
  · exact .inl hqueued
  · have ht := h.tracks.timer kind
    obtain ⟨-, r, hr, hgeneration⟩ := ht.running a ha (by rwa [hkind])
    have harm := ht.run_arm a ha r hr hgeneration
    right
    rw [← hgeneration, ← harm]
    exact hr

end Watch

end TimerBank

/-! ## The next attempt to bind -/

namespace Transport

namespace Server

/-- The events so far in a run of a server, with their times. -/
inductive Run (clock : Clock) (s₀ : Server) : List (Nat × Event) → Server → Prop where
  | start : Run clock s₀ [] s₀
  | step {history : List (Nat × Event)} {s : Server} {now : Nat} {e : Event} {r : Result}
      (h : Run clock s₀ history s) (hr : s.step? clock now e = some r) :
      Run clock s₀ (history ++ [(now, e)]) r.1

/-- The event is a failed attempt to bind, and the time after this delay is beyond the clock. -/
def Overruns (clock : Clock) (retry : Nat) (x : Nat × Event) : Prop :=
  (∃ p, x.2 = .input (.bound (.error p))) ∧ clock.span ≤ x.1 + retry

variable {s : Server} {clock : Clock} {now : Nat} {e : Event} {r : Result}

theorem retry_of_step? (h : s.step? clock now e = some r) : r.1.retry = s.retry := by
  rcases step?_cases h with ⟨l, -, rfl⟩ | ⟨-, hcases⟩
  · rfl
  · rcases hcases with ⟨o, -, rfl⟩ | ⟨-, rfl⟩ | ⟨answer, -, -, rfl⟩ | ⟨answer, -, -, rfl⟩
    · -- an order to connect to somewhere is refused
      by_cases ho : ∃ address port, o = .reconfigure (.connect address port)
      · obtain ⟨address, port, rfl⟩ := ho
        rfl
      · refine (s.keeps_obey now fun endpoint hendpoint => ?_).retry
        cases endpoint with
        | connect address port => exact absurd ⟨address, port, hendpoint⟩ ho
        | listen port clientIp? => rfl
    · exact (s.keeps_finish _).retry
    · exact (s.keeps_takeBinding clock now answer).retry
    · exact (s.keeps_takeClient answer).retry

/-- A server that serves tries to bind when it is time to. -/
theorem step?_bound_eq_some_iff {answer : Except Network.Problem Nat} :
    s.step? clock now (.input (.bound answer)) = some r ↔
      s.phase = .serving ∧ s.isDue now = true ∧ s.takeBinding clock now answer = r := by
  simp [step?, take?]

/-- After a failed attempt to bind a server waits for its delay, if the clock covers it. -/
theorem takeBinding_of_lt (h : now + s.retry < clock.span) (p : Network.Problem) :
    (s.takeBinding clock now (.error p)).1.phase = s.phase ∧
      (s.takeBinding clock now (.error p)).1.retryAt? = some (now + s.retry) := by
  have hadd : clock.add? now s.retry = some (now + s.retry) := if_pos h
  simp only [takeBinding, onLink]
  rw [hadd]
  exact ⟨rfl, rfl⟩

theorem takeBinding_of_le (h : clock.span ≤ now + s.retry) (p : Network.Problem) :
    (s.takeBinding clock now (.error p)).1.phase = .crashed := by
  have hadd : clock.add? now s.retry = none := if_neg (Nat.not_lt.mpr h)
  simp only [takeBinding, onLink]
  rw [hadd]
  exact phase_finish _ _

/-- Nothing else makes a server crash. -/
theorem phase_of_step? (h : s.step? clock now e = some r)
    (he : ∀ p, e ≠ .input (.bound (.error p))) :
    r.1.phase = s.phase ∨ r.1.phase = .stopped ∧ s.phase = .serving := by
  rcases step?_cases h with ⟨l, -, rfl⟩ | ⟨hserving, hcases⟩
  · exact .inl rfl
  · rcases hcases with ⟨o, -, rfl⟩ | ⟨-, rfl⟩ | ⟨answer, rfl, -, rfl⟩ | ⟨answer, -, -, rfl⟩
    · exact .inl (s.obey_spec now o).1
    · exact .inr ⟨s.phase_finish _, hserving⟩
    · cases answer with
      | ok listener => exact .inl rfl
      | error p => exact absurd rfl (he p)
    · exact .inl (s.takeClient_spec answer).1

theorem crashed_iff_of_step? (h : s.step? clock now e = some r) :
    r.1.phase = .crashed ↔ s.phase = .crashed ∨ Overruns clock s.retry (now, e) := by
  by_cases hfailed : ∃ p, e = .input (.bound (.error p))
  · obtain ⟨p, rfl⟩ := hfailed
    obtain ⟨hserving, -, rfl⟩ := step?_bound_eq_some_iff.mp h
    by_cases hspan : clock.span ≤ now + s.retry
    · exact iff_of_true (takeBinding_of_le hspan p) (.inr ⟨⟨p, rfl⟩, hspan⟩)
    · rw [(takeBinding_of_lt (Nat.lt_of_not_le hspan) p).1, hserving]
      exact iff_of_false nofun (not_or.mpr ⟨nofun, fun hover => hspan hover.2⟩)
  · have hnot : ¬ Overruns clock s.retry (now, e) := fun hover => hfailed hover.1
    rcases phase_of_step? h (not_exists.mp hfailed) with hphase | ⟨hstopped, hserving⟩
    · rw [hphase]
      exact (or_iff_left hnot).symm
    · rw [hstopped, hserving]
      exact iff_of_false nofun (not_or.mpr ⟨nofun, hnot⟩)

namespace Run

variable {s₀ : Server} {history : List (Nat × Event)}

theorem retry (h : Run clock s₀ history s) : s.retry = s₀.retry := by
  induction h with
  | start => rfl
  | step _ hr ih => exact (retry_of_step? hr).trans ih

/-- A server has crashed in exactly those runs in which an attempt to bind failed when the
time of the next one was beyond the clock. -/
theorem crashed_iff (h : Run clock s₀ history s) (h₀ : s₀.phase = .serving) :
    s.phase = .crashed ↔ ∃ x ∈ history, Overruns clock s₀.retry x := by
  induction h with
  | start => simp [h₀]
  | @step history s now e r hrun hr ih =>
      rw [crashed_iff_of_step? hr, ih, hrun.retry]
      simp only [List.mem_append, List.mem_singleton, or_and_right, exists_or, exists_eq_left]

end Run

/-- A server that is ordered to listen tries to bind at once, and may fail. -/
theorem exists_run_failed (clock : Clock) (port : Port) (clientIp? : Option IpAddress)
    (retry now : Nat) (p : Network.Problem) :
    ∃ s, (ofPort port clientIp? retry).Run clock
      [(now, .input (.order .reconnect)), (now, .input (.bound (.error p)))] s := by
  have hordered := @Run.step clock _ _ _ now (.input (.order .reconnect)) _
    (Run.start : Run clock (ofPort port clientIp? retry) [] _) rfl
  have hdue : ((ofPort port clientIp? retry).obey now .reconnect).1.isDue now = true :=
    decide_eq_true (Nat.le_refl now)
  exact ⟨_, @Run.step clock _ _ _ now (.input (.bound (.error p))) _ hordered
    (step?_bound_eq_some_iff.mpr ⟨rfl, hdue, rfl⟩)⟩

end Server

namespace Station

/-- Under checked settings every timer that is started has a deadline, however long its
interval is, and its run goes on to it unless it is replaced or stopped.  A server tries to
bind again after its delay.  It crashes in exactly those runs in which an attempt fails when
the time of the next one is beyond the clock. -/
theorem deadlines_of_check {clock : Clock} (hclock : clock.Saturates) {settings : Settings}
    {config : Config} (hcheck : settings.check = .ok config) :
    (∀ operations : List TimerBank.Operation, (∀ o ∈ operations, o.IsChecked) →
      let w := (TimerBank.Watch.ofConfig clock config).run operations
      ∀ kind a,
        (.armed a ∈ w.history kind → a.Timed clock) ∧
        (TimerBank.standing? (w.history kind) = some a → w.Pending kind a)) ∧
    ∀ server, ofConfig config = .server server → ∀ history s, server.Run clock history s →
      (s.phase = .crashed ↔ ∃ x ∈ history, Server.Overruns clock (retry config) x) ∧
      ∀ now p r, s.step? clock now (.input (.bound (.error p))) = some r →
        now + retry config < clock.span →
        r.1.phase = .serving ∧ r.1.retryAt? = some (now + retry config) := by
  constructor
  · intro operations hoperations w kind a
    have hchecked : w.Checked :=
      (TimerBank.Watch.Checked.ofConfig clock hcheck).run hoperations
    have hsound : w.Sound := (TimerBank.Watch.Sound.ofConfig clock config).run operations
    refine ⟨fun ha => ?_, hsound.pending⟩
    exact Arm.timed hclock (hchecked.arms kind a (TimerBank.Watch.mem_history.mp ha))
  · intro server hserver history s hrun
    obtain ⟨hserving, hretry⟩ : server.phase = .serving ∧ server.retry = retry config := by
      unfold ofConfig at hserver
      split at hserver
      · cases hserver
      · cases hserver
        exact ⟨rfl, rfl⟩
    refine ⟨hretry ▸ hrun.crashed_iff hserving, fun now p r hr hspan => ?_⟩
    obtain ⟨hs, -, rfl⟩ := Server.step?_bound_eq_some_iff.mp hr
    rw [← hretry, ← hrun.retry] at hspan ⊢
    obtain ⟨hphase, hretryAt⟩ := Server.takeBinding_of_lt hspan p
    exact ⟨hphase.trans hs, hretryAt⟩

/-- A receive timer and a server with the usual settings: the timer goes on to the end of
its interval, and after a failed attempt the server waits for the next one. -/
theorem deadlines_of_check_sample :
    let w := (TimerBank.Watch.ofConfig .standard (.sample .server)).run
      [.restart .receive, .pass 1000]
    let server := Server.ofPort (.number 8500) none (retry (.sample .server))
    let history := [(1000, Server.Event.input (.order .reconnect)),
      (1000, .input (.bound (.error .addressInUse)))]
    (Settings.sample .server).check = .ok (.sample .server) ∧
      ofConfig (.sample .server) = .server server ∧
      (⟨0, 40000⟩ : Arm).Timed .standard ∧ w.Pending .receive ⟨0, 40000⟩ ∧
      ∃ s, server.Run .standard history s ∧ s.phase ≠ .crashed := by
  intro w server history
  have hcheck := Settings.check_sample .server
  obtain ⟨htimers, hserver⟩ := deadlines_of_check Clock.saturates_standard hcheck
  have hwatch := htimers [.restart .receive, .pass 1000] (by simp [TimerBank.Operation.IsChecked])
    .receive ⟨0, 40000⟩
  obtain ⟨s, hs⟩ := Server.exists_run_failed .standard (.number 8500) none
    (retry (.sample .server)) 1000 .addressInUse
  have hcrashed := (hserver server rfl history s hs).1
  have hstanding : TimerBank.standing? (w.history .receive) = some ⟨0, 40000⟩ := by
    decide +kernel
  refine ⟨hcheck, rfl, hwatch.1 (by decide +kernel), hwatch.2 hstanding, s, hs,
    fun hphase => ?_⟩
  obtain ⟨x, hx, -, hspan⟩ := hcrashed.mp hphase
  have htime : ∀ x ∈ history, x.1 = 1000 := by simp [history]
  rw [htime x hx] at hspan
  exact absurd hspan (by decide)

/-- With the longest delay that can be set, a server crashes when its first attempt to bind
fails, whatever the time is. -/
theorem crashed_of_longest_delay :
    let settings := { Settings.sample .server with reconnectTimeout := 2 ^ 64 - 1 }
    let config := { Config.sample .server with reconnectTimeout := 2 ^ 64 - 1 }
    settings.check = .ok config ∧
      ∃ server, ofConfig config = .server server ∧
        ∀ now, ∃ s, server.Run .standard [(now, .input (.order .reconnect)),
          (now, .input (.bound (.error .addressInUse)))] s ∧ s.phase = .crashed := by
  refine ⟨by decide +kernel, _, rfl, fun now => ?_⟩
  obtain ⟨s, hs⟩ := Server.exists_run_failed .standard (.number 8500) none
    (Clock.seconds (2 ^ 64 - 1)) now .addressInUse
  refine ⟨s, hs, (hs.crashed_iff rfl).mpr ⟨(now, .input (.bound (.error .addressInUse))), ?_, ?_⟩⟩
  · simp
  · exact ⟨⟨_, rfl⟩, Nat.le_add_left_of_le (by decide)⟩

end Station

end Transport

end FlightLink
