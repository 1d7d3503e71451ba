import FlightLink.Proofs.Timer.Arming

/-!
# What a bank of timers knows about its arms

An arm is a start of a timer that has neither been replaced nor stopped, and
whose expiry has not been honoured.  The timers keep no list of their arms: they
compare generations.  Here the arms are kept beside the bank, and every operation
of the bank is shown to keep the two in step.  An arm has either a run that goes
on or an expiry in the queue, and an expiry of its generation is in the queue only
if its deadline has been reached.
-/

namespace FlightLink

/-! ## Deadlines -/

theorem Clock.saturates_standard : Clock.standard.Saturates where
  longest_pos := by decide
  wake_of_le {now duration} h := by
    show now + min duration Clock.thirtyYears = now + duration
    exact congrArg (now + ·) (Nat.min_eq_left h)
  le_wake {now duration} h := by
    show now + Clock.thirtyYears ≤ now + min duration Clock.thirtyYears
    exact Nat.le_of_eq (congrArg (now + ·) (Nat.min_eq_right h).symm)
  wake_le now duration := Nat.add_le_add_left (Nat.min_le_left ..) now
  wake_lt_span {now} h _ :=
    Nat.lt_of_le_of_lt (Nat.add_le_add_left (Nat.min_le_right ..) now) h

namespace Arm

variable {clock : Clock} {a b : Arm}

theorem deadline_of_le (hclock : clock.Saturates) (h : a.interval ≤ clock.longest) :
    a.deadline clock = a.since + a.interval :=
  hclock.wake_of_le h

theorem le_deadline (hclock : clock.Saturates) (h : clock.longest ≤ a.interval) :
    a.since + clock.longest ≤ a.deadline clock :=
  hclock.le_wake h

theorem deadline_le (hclock : clock.Saturates) : a.deadline clock ≤ a.since + a.interval :=
  hclock.wake_le _ _

theorem since_lt_deadline (hclock : clock.Saturates) (h : 0 < a.interval) :
    a.since < a.deadline clock := by
  rcases Nat.le_total a.interval clock.longest with hkept | hcut
  · rw [a.deadline_of_le hclock hkept]
    omega
  · have hlongest := hclock.longest_pos
    have hdeadline := a.le_deadline hclock hcut
    omega

/-- An arm that is no younger than another one and has the shorter interval expires
first, if its own sleep is below the longest. -/
theorem deadline_lt_deadline (hclock : clock.Saturates) (hsince : a.since ≤ b.since)
    (hinterval : a.interval < b.interval) (hkept : a.interval < clock.longest) :
    a.deadline clock < b.deadline clock := by
  rw [a.deadline_of_le hclock (Nat.le_of_lt hkept)]
  rcases Nat.le_total b.interval clock.longest with hb | hb
  · rw [b.deadline_of_le hclock hb]
    omega
  · have hdeadline := b.le_deadline hclock hb
    omega

end Arm

namespace Timer

@[simp] theorem stop_kind (t : Timer) : t.stop.kind = t.kind := by
  unfold stop
  split <;> rfl

@[simp] theorem stop_interval (t : Timer) : t.stop.interval = t.interval := by
  unfold stop
  split <;> rfl

@[simp] theorem stop_generation (t : Timer) :
    t.stop.generation = t.generation := by
  unfold stop
  split <;> rfl

@[simp] theorem stop_armed (t : Timer) : t.stop.armed = false := by
  unfold stop
  split
  · rfl
  · next h => simpa using h

theorem stop_runs_subset (t : Timer) : t.stop.runs ⊆ t.runs := by
  unfold stop
  split
  · exact List.filter_subset_self _
  · exact List.Subset.refl _

theorem start_runs (t : Timer) (now : Nat) :
    (t.start now).runs = t.stop.runs ++ [⟨t.generation + 1, ⟨now, t.interval⟩⟩] := by
  simp [start]

@[simp] theorem start_kind (t : Timer) (now : Nat) : (t.start now).kind = t.kind := by
  simp [start]

@[simp] theorem start_interval (t : Timer) (now : Nat) :
    (t.start now).interval = t.interval := by
  simp [start]

@[simp] theorem start_generation (t : Timer) (now : Nat) :
    (t.start now).generation = t.generation + 1 := by
  simp [start]

theorem honours_iff {t : Timer} {x : Expiry} :
    t.honours x = true ↔ t.armed = true ∧ x.generation = t.generation := by
  simp [honours]

/-! ## The arm of one timer -/

/-- The timer has this arm at this time, if any; its expiries are in the queue. -/
structure Tracks (t : Timer) (clock : Clock) (queue : List Expiry) (now : Nat)
    (arm? : Option Arm) : Prop where
  armed : t.armed = arm?.isSome
  run_le : ∀ r ∈ t.runs, r.generation ≤ t.generation
  queued_le : ∀ x ∈ queue, x.kind = t.kind → x.generation ≤ t.generation
  since_le : ∀ a, arm? = some a → a.since ≤ now
  run_arm : ∀ a, arm? = some a → ∀ r ∈ t.runs, r.generation = t.generation → r.arm = a
  queued_due : ∀ a, arm? = some a →
    ⟨t.kind, t.generation⟩ ∈ queue → a.deadline clock ≤ now
  /-- An arm that is not in the queue has a run, which has not come to its end
  unless it was started at this very time. -/
  running : ∀ a, arm? = some a → ⟨t.kind, t.generation⟩ ∉ queue →
    (now < a.deadline clock ∨ a.since = now) ∧ ∃ r ∈ t.runs, r.generation = t.generation

namespace Tracks

variable {t : Timer} {clock : Clock} {queue : List Expiry} {now : Nat} {arm? : Option Arm}

theorem idle (clock : Clock) (kind : TimerKind) (interval now : Nat) :
    (Timer.idle kind interval).Tracks clock [] now none where
  armed := rfl
  run_le := nofun
  queued_le := nofun
  since_le := nofun
  run_arm := nofun
  queued_due := nofun
  running := nofun

theorem start (h : t.Tracks clock queue now arm?) :
    (t.start now).Tracks clock queue now (some ⟨now, t.interval⟩) := by
  have hruns : ∀ r ∈ t.stop.runs, r.generation ≤ t.generation := fun r hr =>
    h.run_le r (t.stop_runs_subset hr)
  have hstart : ∀ r ∈ (t.start now).runs, r ∈ t.stop.runs ∨
      r = ⟨t.generation + 1, ⟨now, t.interval⟩⟩ := by
    intro r hr
    simpa [start_runs] using hr
  -- nothing of the new generation is in the queue
  have hfresh : ⟨(t.start now).kind, (t.start now).generation⟩ ∉ queue := by
    intro hmem
    have hle := h.queued_le _ hmem (t.start_kind now)
    rw [start_generation] at hle
    exact Nat.not_succ_le_self _ hle
  constructor
  · rfl
  · intro r hr
    rw [start_generation]
    rcases hstart r hr with hr | rfl
    · exact Nat.le_succ_of_le (hruns r hr)
    · exact Nat.le_refl _
  · intro x hx hkind
    rw [start_generation]
    exact Nat.le_succ_of_le (h.queued_le x hx (hkind.trans (t.start_kind now)))
  · rintro a ⟨⟩
    exact Nat.le_refl _
  · rintro a ⟨⟩ r hr hgen
    rcases hstart r hr with hr | rfl
    · rw [start_generation] at hgen
      have hle := hruns r hr
      omega
    · rfl
  · intro a _ hmem
    exact absurd hmem hfresh
  · rintro a ⟨⟩ -
    refine ⟨.inr rfl, ⟨t.generation + 1, ⟨now, t.interval⟩⟩, ?_, ?_⟩
    · simp [start_runs]
    · rw [start_generation]

theorem stop (h : t.Tracks clock queue now arm?) : t.stop.Tracks clock queue now none where
  armed := t.stop_armed
  run_le r hr := by
    rw [stop_generation]
    exact h.run_le r (t.stop_runs_subset hr)
  queued_le x hx hkind := by
    rw [stop_generation]
    exact h.queued_le x hx (hkind.trans t.stop_kind)
  since_le := nofun
  run_arm := nofun
  queued_due := nofun
  running := nofun

theorem setInterval (h : t.Tracks clock queue now arm?) (interval : Nat) :
    (t.setInterval interval).Tracks clock queue now arm? :=
  ⟨h.armed, h.run_le, h.queued_le, h.since_le, h.run_arm, h.queued_due,
    h.running⟩

/-- When time passes, the runs that come to their end are queued. -/
theorem settle {later : Nat} {due : List Expiry}
    (h : t.Tracks clock queue now arm?) (hle : now ≤ later)
    (hdue : ∀ x, x.kind = t.kind → (x ∈ due ↔ x ∈ t.due clock later)) :
    (t.settle clock later).Tracks clock (queue ++ due) later arm? := by
  have hof : ∀ x ∈ due, x.kind = t.kind →
      ∃ r ∈ t.runs, r.arm.deadline clock ≤ later ∧ r.generation = x.generation := by
    intro x hx hkind
    obtain ⟨r, hr, rfl⟩ := List.mem_map.1 ((hdue x hkind).1 hx)
    simp only [dueRuns, List.mem_filter, decide_eq_true_eq] at hr
    exact ⟨r, hr.1, hr.2, rfl⟩
  constructor
  · exact h.armed
  · intro r hr
    exact h.run_le r (List.mem_of_mem_filter hr)
  · intro x hx hkind
    rcases List.mem_append.1 hx with hx | hx
    · exact h.queued_le x hx hkind
    · obtain ⟨r, hr, -, hgen⟩ := hof x hx hkind
      rw [← hgen]
      exact h.run_le r hr
  · intro a ha
    exact Nat.le_trans (h.since_le a ha) hle
  · intro a ha r hr
    exact h.run_arm a ha r (List.mem_of_mem_filter hr)
  · intro a ha hmem
    rcases List.mem_append.1 hmem with hmem | hmem
    · exact Nat.le_trans (h.queued_due a ha hmem) hle
    · obtain ⟨r, hr, hend, hgen⟩ := hof _ hmem rfl
      rw [← h.run_arm a ha r hr hgen]
      exact hend
  · intro a ha hmem
    rw [List.mem_append, not_or] at hmem
    obtain ⟨-, r, hr, hgen⟩ := h.running a ha hmem.1
    -- its run is not due, or its expiry would be in the queue
    have hend : later < r.arm.deadline clock := by
      by_contra hend
      refine hmem.2 ((hdue _ rfl).2 (List.mem_map.2 ⟨r, ?_, ?_⟩))
      · simp only [dueRuns, List.mem_filter, decide_eq_true_eq]
        exact ⟨hr, Nat.le_of_not_lt hend⟩
      · rw [hgen]
        rfl
    refine ⟨.inl ?_, r, ?_, hgen⟩
    · rw [← h.run_arm a ha r hr hgen]
      exact hend
    · simp only [Timer.settle, List.mem_filter, decide_eq_true_eq]
      exact ⟨hr, hend⟩

/-- Expiries may be dropped if none of them is that of the arm. -/
theorem drop {rest : List Expiry} (h : t.Tracks clock queue now arm?)
    (hsub : rest ⊆ queue)
    (hkeep : t.armed = true → ⟨t.kind, t.generation⟩ ∈ queue →
      ⟨t.kind, t.generation⟩ ∈ rest) :
    t.Tracks clock rest now arm? where
  armed := h.armed
  run_le := h.run_le
  queued_le x hx := h.queued_le x (hsub hx)
  since_le := h.since_le
  run_arm := h.run_arm
  queued_due a ha hmem := h.queued_due a ha (hsub hmem)
  running a ha hmem := by
    have harmed : t.armed = true := by
      rw [h.armed, ha]
      rfl
    exact h.running a ha fun hqueued => hmem (hkeep harmed hqueued)

/-- An expiry that counts ends the arm. -/
theorem honour {rest : List Expiry} (h : t.Tracks clock queue now arm?)
    (hsub : rest ⊆ queue) : { t with armed := false }.Tracks clock rest now none where
  armed := rfl
  run_le := h.run_le
  queued_le x hx := h.queued_le x (hsub hx)
  since_le := nofun
  run_arm := nofun
  queued_due := nofun
  running := nofun

end Tracks

end Timer

namespace TimerBank

/-! ## The timers after an operation -/

@[simp] theorem set_queue (b : TimerBank) (kind : TimerKind) (t : Timer) :
    (b.set kind t).queue = b.queue := by
  cases kind <;> rfl

@[simp] theorem get_reconfigure (b : TimerBank) (config : Config)
    (kind : TimerKind) :
    (b.reconfigure config).get kind =
      (b.get kind).setInterval (interval config kind) := by
  cases kind <;> rfl

@[simp] theorem reconfigure_queue (b : TimerBank) (config : Config) :
    (b.reconfigure config).queue = b.queue := rfl

@[simp] theorem get_elapse (b : TimerBank) (clock : Clock) (now : Nat) (kind : TimerKind) :
    (b.elapse clock now).get kind = (b.get kind).settle clock now := by
  cases kind <;> rfl

/-- The passing of time queues what the timers have due. -/
theorem elapse_queue (b : TimerBank) (clock : Clock) (now : Nat) :
    (b.elapse clock now).queue = b.queue ++ b.timers.flatMap (·.due clock now) := rfl

/-- All that a call can do: it drops stale expiries, up to the first that counts
if there is one, and this one disarms its timer. -/
theorem expiredFrom_cases (b : TimerBank) (queue : List Expiry) :
    (∃ stale x rest, queue = stale ++ x :: rest ∧
      (∀ y ∈ stale, (b.get y.kind).honours y = false) ∧
      (b.get x.kind).honours x = true ∧
      (b.expiredFrom queue).kind? = some x.kind ∧
      (b.expiredFrom queue).bank =
        { b.set x.kind { b.get x.kind with armed := false } with queue := rest }) ∨
    ((∀ y ∈ queue, (b.get y.kind).honours y = false) ∧
      (b.expiredFrom queue).kind? = none ∧
      (b.expiredFrom queue).bank = { b with queue := [] }) := by
  induction queue with
  | nil =>
      right
      exact ⟨nofun, rfl, rfl⟩
  | cons x rest ih =>
      by_cases hx : (b.get x.kind).honours x
      · left
        refine ⟨[], x, rest, rfl, nofun, hx, ?_, ?_⟩
        · rw [expiredFrom, if_pos hx]
        · rw [expiredFrom, if_pos hx, Timer.fire, if_pos hx]
      · have hstale : (b.get x.kind).honours x = false := by simpa using hx
        obtain ⟨stale, y, rest', hqueue, hstales, hy, hkind, hbank⟩ |
          ⟨hstales, hkind, hbank⟩ := ih
        · left
          refine ⟨x :: stale, y, rest', ?_, ?_, hy, ?_, ?_⟩
          · rw [hqueue, List.cons_append]
          · exact List.forall_mem_cons.2 ⟨hstale, hstales⟩
          · rw [expiredFrom, if_neg hx, hkind]
          · rw [expiredFrom, if_neg hx, hbank]
        · right
          refine ⟨List.forall_mem_cons.2 ⟨hstale, hstales⟩, ?_, ?_⟩
          · rw [expiredFrom, if_neg hx, hkind]
          · rw [expiredFrom, if_neg hx, hbank]

/-! ## The arms of a bank -/

/-- The timers of a configuration have these arms at this time. -/
structure Tracks (b : TimerBank) (clock : Clock) (config : Config) (now : Nat)
    (arm? : TimerKind → Option Arm) : Prop where
  kind : ∀ k, (b.get k).kind = k
  interval : ∀ k, (b.get k).interval = interval config k
  timer : ∀ k, (b.get k).Tracks clock b.queue now (arm? k)

namespace Tracks

variable {b : TimerBank} {clock : Clock} {config : Config} {now : Nat}
  {arm? : TimerKind → Option Arm}

theorem ofConfig (clock : Clock) (config : Config) (now : Nat) :
    (TimerBank.ofConfig config).Tracks clock config now fun _ => none where
  kind k := by cases k <;> rfl
  interval k := by cases k <;> rfl
  timer k := by cases k <;> exact .idle _ _ _ _

theorem armed (h : b.Tracks clock config now arm?) (kind : TimerKind) :
    b.isArmed kind = (arm? kind).isSome :=
  (h.timer kind).armed

/-- A change of one timer, which leaves the queue alone. -/
theorem set {t : Timer} {a? : Option Arm} (h : b.Tracks clock config now arm?)
    (kind : TimerKind) (hkind : t.kind = (b.get kind).kind)
    (hinterval : t.interval = (b.get kind).interval)
    (ht : t.Tracks clock b.queue now a?) :
    (b.set kind t).Tracks clock config now (Function.update arm? kind a?) := by
  constructor
  · intro k
    rw [get_set]
    split
    · next hk => rw [hkind, h.kind, hk]
    · exact h.kind k
  · intro k
    rw [get_set]
    split
    · next hk => rw [hinterval, h.interval, hk]
    · exact h.interval k
  · intro k
    rw [get_set, set_queue, Function.update_apply]
    split
    · exact ht
    · exact h.timer k

theorem restart (h : b.Tracks clock config now arm?) (kind : TimerKind) :
    (b.restart now kind).Tracks clock config now
      (Function.update arm? kind (some ⟨now, TimerBank.interval config kind⟩)) := by
  rw [← h.interval kind]
  exact h.set kind (Timer.start_kind _ _) (Timer.start_interval _ _)
    (h.timer kind).start

theorem stop (h : b.Tracks clock config now arm?) (kind : TimerKind) :
    (b.stop kind).Tracks clock config now (Function.update arm? kind none) :=
  h.set kind (Timer.stop_kind _) (Timer.stop_interval _) (h.timer kind).stop

theorem reconfigure (h : b.Tracks clock config now arm?) (config' : Config) :
    (b.reconfigure config').Tracks clock config' now arm? := by
  constructor
  · intro k
    rw [get_reconfigure]
    exact h.kind k
  · intro k
    rw [get_reconfigure]
    rfl
  · intro k
    rw [get_reconfigure, reconfigure_queue]
    exact (h.timer k).setInterval _

theorem elapse {later : Nat} (h : b.Tracks clock config now arm?) (hle : now ≤ later) :
    (b.elapse clock later).Tracks clock config later arm? := by
  -- of the expiries that are added, a timer finds its own
  have hdue : ∀ k x, x.kind = k →
      (x ∈ b.timers.flatMap (·.due clock later) ↔ x ∈ (b.get k).due clock later) := by
    intro k x hx
    have hof : ∀ k', x ∈ (b.get k').due clock later → k' = k := by
      intro k' hmem
      obtain ⟨r, -, rfl⟩ := List.mem_map.1 hmem
      exact (h.kind k').symm.trans hx
    simp only [timers, List.mem_flatMap, List.mem_map]
    constructor
    · rintro ⟨-, ⟨k', -, rfl⟩, hmem⟩
      rw [← hof k' hmem]
      exact hmem
    · intro hmem
      exact ⟨_, ⟨k, by cases k <;> decide, rfl⟩, hmem⟩
  constructor
  · intro k
    rw [get_elapse]
    exact h.kind k
  · intro k
    rw [get_elapse]
    exact h.interval k
  · intro k
    rw [get_elapse, elapse_queue]
    exact (h.timer k).settle hle fun x hx =>
      hdue k x (hx.trans (h.kind k))

/-- An expiry that counts is not among the stale ones. -/
theorem mem_of_stale (h : b.Tracks clock config now arm?) {stale rest : List Expiry}
    (hstale : ∀ y ∈ stale, (b.get y.kind).honours y = false) {k : TimerKind}
    (harmed : (b.get k).armed = true)
    (hmem : ⟨(b.get k).kind, (b.get k).generation⟩ ∈ stale ++ rest) :
    ⟨(b.get k).kind, (b.get k).generation⟩ ∈ rest := by
  rcases List.mem_append.1 hmem with hmem | hmem
  · have hfalse := hstale _ hmem
    rw [h.kind k] at hfalse
    have htrue : (b.get k).honours ⟨k, (b.get k).generation⟩ = true :=
      Timer.honours_iff.2 ⟨harmed, rfl⟩
    exact absurd (hfalse.symm.trans htrue) (by decide)
  · exact hmem

/-- Stale expiries may be dropped. -/
theorem drop (h : b.Tracks clock config now arm?)
    (hstale : ∀ y ∈ b.queue, (b.get y.kind).honours y = false) :
    { b with queue := [] }.Tracks clock config now arm? := by
  refine ⟨h.kind, h.interval, fun k => ?_⟩
  refine (h.timer k).drop (List.nil_subset _) fun harmed hmem => ?_
  apply h.mem_of_stale hstale harmed
  rw [List.append_nil]
  exact hmem

/-- The first expiry that counts ends the arm of its timer. -/
theorem honour (h : b.Tracks clock config now arm?) {stale rest : List Expiry} {x : Expiry}
    (hqueue : b.queue = stale ++ x :: rest)
    (hstale : ∀ y ∈ stale, (b.get y.kind).honours y = false) :
    { b.set x.kind { b.get x.kind with armed := false } with queue := rest }.Tracks clock config now
      (Function.update arm? x.kind none) := by
  have hrest : rest ⊆ b.queue := by
    rw [hqueue]
    exact List.Subset.trans (List.subset_cons_self x rest) (List.subset_append_right _ _)
  constructor
  · intro k
    show ((b.set x.kind _).get k).kind = k
    rw [get_set]
    split
    · next hk => exact (h.kind x.kind).trans hk.symm
    · exact h.kind k
  · intro k
    show ((b.set x.kind _).get k).interval = _
    rw [get_set]
    split
    · next hk => rw [hk]; exact h.interval x.kind
    · exact h.interval k
  · intro k
    show ((b.set x.kind _).get k).Tracks clock rest now _
    rw [get_set, Function.update_apply]
    split
    · exact (h.timer x.kind).honour hrest
    · next hk =>
        refine (h.timer k).drop hrest fun harmed hmem => ?_
        rw [hqueue] at hmem
        rcases List.mem_cons.1 (h.mem_of_stale hstale harmed hmem) with heq | hmem
        · rw [h.kind k] at heq
          exact absurd (congrArg Expiry.kind heq) hk
        · exact hmem

/-- A call returns the kind of an arm whose deadline has been reached, and ends
it; otherwise nothing that counts is in the queue. -/
theorem expired (h : b.Tracks clock config now arm?) :
    (∃ k a, b.expired.kind? = some k ∧ arm? k = some a ∧ a.deadline clock ≤ now ∧
      b.expired.bank.Tracks clock config now (Function.update arm? k none)) ∨
    (b.expired.kind? = none ∧ (∀ x ∈ b.queue, (b.get x.kind).honours x = false) ∧
      b.expired.bank.Tracks clock config now arm?) := by
  obtain ⟨stale, x, rest, hqueue, hstale, hx, hkind, hbank⟩ | ⟨hstale, hkind, hbank⟩ :=
    b.expiredFrom_cases b.queue
  · left
    have hxt := Timer.honours_iff.1 hx
    obtain ⟨a, ha⟩ : ∃ a, arm? x.kind = some a := by
      rw [← Option.isSome_iff_exists, ← h.armed]
      exact hxt.1
    have hmem : ⟨(b.get x.kind).kind, (b.get x.kind).generation⟩ ∈ b.queue := by
      rw [h.kind, ← hxt.2, hqueue]
      exact List.mem_append_right _ (List.mem_cons_self ..)
    refine ⟨x.kind, a, hkind, ha, (h.timer x.kind).queued_due a ha hmem, ?_⟩
    rw [TimerBank.expired, hbank]
    exact h.honour hqueue hstale
  · right
    refine ⟨hkind, hstale, ?_⟩
    rw [TimerBank.expired, hbank]
    exact h.drop hstale

end Tracks

end TimerBank

end FlightLink
