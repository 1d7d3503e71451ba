import FlightLink.Proofs.Channel.Transition
import FlightLink.Proofs.History
import FlightLink.Proofs.Timer.Arms
import Mathlib.Data.UInt

/-!
# Honoured expiries

What is started, stopped and returned is written down beside the timers, each
kind with a history of its own.  Over any operations, an expiry that is returned
belongs to the last start of its kind, with nothing in between, and its deadline
has been reached.  Of a timer that is armed, the deadline is not missed: from the
moment time has reached it, its expiry is in the queue, and successive calls come
to it before one of them has to wait.

A deadline is the start plus the interval, unless the interval is longer than the
longest sleep; then it may be earlier, but lies at least the longest sleep after the
start.
-/

namespace FlightLink.TimerBank

/-! ## Successive calls -/

/-- Whether an expiry of this kind that counts is in the queue. -/
def Awaits (b : TimerBank) (kind : TimerKind) : Prop :=
  ∃ x ∈ b.queue, x.kind = kind ∧ (b.get kind).honours x = true

/-- An expiry that counts is that of an arm whose deadline has been reached. -/
theorem Awaits.exists_arm {b : TimerBank} {clock : Clock} {config : Config} {now : Nat}
    {arm? : TimerKind → Option Arm} {kind : TimerKind} (h : b.Awaits kind)
    (htracks : b.Tracks clock config now arm?) :
    ∃ a, arm? kind = some a ∧ a.deadline clock ≤ now := by
  obtain ⟨x, hx, rfl, hcounts⟩ := h
  obtain ⟨harmed, hgeneration⟩ := Timer.honours_iff.1 hcounts
  have ht := htracks.timer x.kind
  obtain ⟨a, ha⟩ : ∃ a, arm? x.kind = some a := by
    rw [← Option.isSome_iff_exists, ← ht.armed]
    exact harmed
  refine ⟨a, ha, ht.queued_due a ha ?_⟩
  rw [htracks.kind, ← hgeneration]
  exact hx

/-- What successive calls return; `none` stands for a call that has to wait. -/
def successive : (calls : Nat) → TimerBank → List (Option TimerKind)
  | 0, _ => []
  | calls + 1, b => b.expired.kind? :: successive calls b.expired.bank

/-- A call takes a first expiry that counts and drops the stale ones before it. -/
theorem Awaits.exists_expired {b : TimerBank} {kind : TimerKind}
    (h : b.Awaits kind) :
    ∃ stale x rest, b.queue = stale ++ x :: rest ∧
      (∀ y ∈ stale, (b.get y.kind).honours y = false) ∧
      b.expired.kind? = some x.kind ∧ b.expired.bank.queue = rest ∧
      (kind = x.kind ∨ b.expired.bank.Awaits kind) := by
  obtain ⟨y, hy, rfl, hcounts⟩ := h
  obtain ⟨stale, x, rest, hqueue, hstale, -, hkind, hbank⟩ | ⟨hstale, -, -⟩ :=
    b.expiredFrom_cases b.queue
  · refine ⟨stale, x, rest, hqueue, hstale, hkind, ?_, ?_⟩
    · rw [expired, hbank]
    · by_cases hxy : y.kind = x.kind
      · exact .inl hxy
      · right
        rw [expired, hbank]
        rw [hqueue, List.mem_append, List.mem_cons] at hy
        rcases hy with hy | rfl | hy
        · exact absurd ((hstale y hy).symm.trans hcounts) (by decide)
        · exact absurd rfl hxy
        · refine ⟨y, hy, rfl, ?_⟩
          show ((b.set x.kind _).get y.kind).honours y = true
          rw [get_set, if_neg hxy]
          exact hcounts
  · exact absurd ((hstale y hy).symm.trans hcounts) (by decide)

/-- No call waits before the expiry has been returned. -/
theorem Awaits.mem_of_successive {b : TimerBank} {kind : TimerKind}
    (h : b.Awaits kind) {calls : Nat} {earlier later : List (Option TimerKind)}
    (hcalls : successive calls b = earlier ++ none :: later) :
    some kind ∈ earlier := by
  induction calls generalizing b earlier with
  | zero => simp [successive] at hcalls
  | succ calls ih =>
      obtain ⟨-, x, -, -, -, hkind, -, hnext⟩ := h.exists_expired
      rw [successive, hkind] at hcalls
      cases earlier with
      | nil => cases hcalls
      | cons first earlier =>
          rw [List.cons_append, List.cons.injEq] at hcalls
          obtain ⟨hfirst, hrest⟩ := hcalls
          rw [← hfirst]
          rcases hnext with rfl | hnext
          · exact List.mem_cons_self ..
          · exact List.mem_cons_of_mem _ (ih hnext hrest)

/-- As many calls as there are entries in the queue are enough. -/
theorem Awaits.mem_successive {b : TimerBank} {kind : TimerKind}
    (h : b.Awaits kind) {calls : Nat} (hcalls : b.queue.length ≤ calls) :
    some kind ∈ successive calls b := by
  induction calls generalizing b with
  | zero =>
      obtain ⟨x, hx, -⟩ := h
      rw [List.length_eq_zero_iff.1 (Nat.le_zero.1 hcalls)] at hx
      cases hx
  | succ calls ih =>
      obtain ⟨stale, x, rest, hqueue, -, hkind, hrest, hnext⟩ := h.exists_expired
      rw [successive, hkind]
      rcases hnext with rfl | hnext
      · exact List.mem_cons_self ..
      · refine List.mem_cons_of_mem _ (ih hnext ?_)
        have hlength := congrArg List.length hqueue
        rw [List.length_append, List.length_cons] at hlength
        rw [hrest]
        omega

/-! ## Operations and their history -/

/-- What is asked of the timers, and the passing of time. -/
inductive Operation
  | restart (kind : TimerKind)
  | stop (kind : TimerKind)
  | reconfigure (config : Config)
  | pass (duration : Nat)
  | expired

/-- What happens to a timer. -/
inductive Event
  | armed (a : Arm)
  | stopped
  | expired (now : Nat)
  deriving DecidableEq, Repr

/-- The arm that an event leaves behind. -/
def Event.arm? : Event → Option Arm
  | armed a => some a
  | stopped | expired _ => none

/-- The arm that is left after the events of a timer. -/
def standing? (events : List Event) : Option Arm :=
  events.getLast?.bind Event.arm?

/-- Timers on a clock, with the configuration in use and what has happened to
the timers, in order. -/
structure Watch where
  clock : Clock
  bank : TimerBank
  config : Config
  now : Nat
  past : List (TimerKind × Event)

namespace Watch

/-- New timers at the start of the clock. -/
def ofConfig (clock : Clock) (config : Config) : Watch :=
  ⟨clock, .ofConfig config, config, 0, []⟩

/-- What has happened to the timer of a kind. -/
def history (w : Watch) (kind : TimerKind) : List Event :=
  w.past.filterMap fun x => if x.1 = kind then some x.2 else none

/-- One operation. -/
def next (w : Watch) : Operation → Watch
  | .restart kind =>
    { w with
      bank := w.bank.restart w.now kind
      past := w.past ++ [(kind, .armed ⟨w.now, interval w.config kind⟩)] }
  | .stop kind =>
    { w with bank := w.bank.stop kind, past := w.past ++ [(kind, .stopped)] }
  | .reconfigure config => { w with bank := w.bank.reconfigure config, config }
  | .pass duration =>
    { w with bank := w.bank.elapse w.clock (w.now + duration), now := w.now + duration }
  | .expired =>
    let e := w.bank.expired
    { w with
      bank := e.bank
      past := w.past ++ e.kind?.toList.map fun kind => (kind, .expired w.now) }

/-- Operations in order. -/
def run (w : Watch) (operations : List Operation) : Watch :=
  operations.foldl next w

@[simp] theorem clock_run (w : Watch) (operations : List Operation) :
    (w.run operations).clock = w.clock := by
  induction operations generalizing w with
  | nil => rfl
  | cons operation rest ih =>
      refine (ih (w.next operation)).trans ?_
      cases operation <;> rfl

theorem history_append (w : Watch) (kind kind' : TimerKind) (e : Event)
    {w' : Watch} (hpast : w'.past = w.past ++ [(kind, e)]) :
    w'.history kind' = w.history kind' ++ if kind = kind' then [e] else [] := by
  unfold history
  rw [hpast, List.filterMap_append]
  by_cases h : kind = kind'
  · simp [h]
  · simp [h]

end Watch

/-! ## Histories -/

@[simp] theorem standing?_concat (events : List Event) (e : Event) :
    standing? (events ++ [e]) = e.arm? := by
  simp [standing?]

theorem standing?_eq_some {events : List Event} {a : Arm}
    (h : standing? events = some a) : events.getLast? = some (.armed a) := by
  obtain ⟨e, hlast, he⟩ := Option.bind_eq_some_iff.1 h
  cases e with
  | armed a' => rw [hlast, Option.some.inj he]
  | stopped => cases he
  | expired now => cases he

/-- Every expiry directly follows its arm, whose deadline it has reached. -/
def Genuine (clock : Clock) : List Event → Prop :=
  Heralded fun earlier e =>
    ∀ now, e = .expired now → ∃ a, standing? earlier = some a ∧ a.deadline clock ≤ now

/-- The expiry at `j` is that of the arm at `i`: the timer was not started again
nor stopped in between. -/
structure Returns (events : List Event) (i : Nat) (a : Arm) (j now : Nat) : Prop where
  arm : events[i]? = some (.armed a)
  expiry : events[j]? = some (.expired now)
  lt : i < j
  between : ∀ k, i < k → k < j → ∃ now', events[k]? = some (.expired now')

/-- The arm of an expiry stands right before it. -/
theorem Genuine.exists_arm {clock : Clock} {events : List Event} (h : Genuine clock events)
    {j now : Nat} (hj : events[j]? = some (.expired now)) :
    ∃ i a, j = i + 1 ∧ events[i]? = some (.armed a) ∧ a.deadline clock ≤ now := by
  obtain ⟨a, ha, hdue⟩ := h j _ hj now rfl
  have hlt := (List.getElem?_eq_some_iff.1 hj).1
  obtain ⟨i, hi, hlast⟩ :=
    getElem?_of_getLast?_take (Nat.le_of_lt hlt) (standing?_eq_some ha)
  exact ⟨i, a, hi, hlast, hdue⟩

theorem Genuine.returns {clock : Clock} {events : List Event} (h : Genuine clock events)
    {j now : Nat} (hj : events[j]? = some (.expired now)) :
    ∃ i a, Returns events i a j now ∧ a.deadline clock ≤ now := by
  obtain ⟨i, a, rfl, ha, hdue⟩ := h.exists_arm hj
  exact ⟨i, a, ⟨ha, hj, Nat.lt_succ_self i, by omega⟩, hdue⟩

/-- No arm is returned twice. -/
theorem Genuine.returns_unique {clock : Clock} {events : List Event}
    (h : Genuine clock events) {i : Nat} {a : Arm} {j now : Nat} (hr : Returns events i a j now) :
    j = i + 1 := by
  obtain ⟨i', a', rfl, ha', -⟩ := h.exists_arm hr.expiry
  by_contra hne
  have hlt := hr.lt
  obtain ⟨now', hexp⟩ := hr.between i' (by omega) (Nat.lt_succ_self i')
  rw [ha'] at hexp
  cases hexp

/-! ## Runs -/

namespace Watch

/-- What is known of the timers at any time. -/
structure Sound (w : Watch) : Prop where
  tracks : w.bank.Tracks w.clock w.config w.now fun kind => standing? (w.history kind)
  genuine : ∀ kind, Genuine w.clock (w.history kind)

theorem Sound.ofConfig (clock : Clock) (config : Config) :
    (Watch.ofConfig clock config).Sound where
  tracks := .ofConfig clock config 0
  genuine _ := .nil

/-- An event of one kind changes the standing arm of that kind. -/
theorem standing?_history {w w' : Watch} {kind : TimerKind} {e : Event}
    (hpast : w'.past = w.past ++ [(kind, e)]) :
    (fun kind' => standing? (w'.history kind')) =
      Function.update (fun kind' => standing? (w.history kind')) kind e.arm? := by
  funext kind'
  rw [history_append w kind kind' e hpast, Function.update_apply]
  by_cases h : kind' = kind
  · rw [if_pos h, if_pos h.symm, standing?_concat]
  · rw [if_neg h, if_neg (Ne.symm h), List.append_nil]

/-- An event keeps the histories genuine if it is no expiry, or one that is due. -/
theorem Sound.record {w w' : Watch} (h : w.Sound) {kind : TimerKind} {e : Event}
    (hclock : w'.clock = w.clock) (hpast : w'.past = w.past ++ [(kind, e)])
    (hdue : ∀ now, e = .expired now →
      ∃ a, standing? (w.history kind) = some a ∧ a.deadline w.clock ≤ now)
    (htracks : w'.bank.Tracks w.clock w'.config w'.now
      (Function.update (fun kind' => standing? (w.history kind')) kind e.arm?)) :
    w'.Sound where
  tracks := by
    rw [standing?_history hpast, hclock]
    exact htracks
  genuine kind' := by
    rw [history_append w kind kind' e hpast, hclock]
    split
    · next hkind =>
        subst hkind
        exact (h.genuine kind).concat hdue
    · rw [List.append_nil]
      exact h.genuine kind'

theorem Sound.next {w : Watch} (h : w.Sound) (operation : Operation) :
    (w.next operation).Sound := by
  cases operation with
  | restart kind =>
      refine h.record rfl rfl ?_ (h.tracks.restart kind)
      intro now he
      cases he
  | stop kind =>
      refine h.record rfl rfl ?_ (h.tracks.stop kind)
      intro now he
      cases he
  | reconfigure config => exact ⟨h.tracks.reconfigure config, h.genuine⟩
  | pass duration =>
      exact ⟨h.tracks.elapse (Nat.le_add_right _ _), h.genuine⟩
  | expired =>
      obtain ⟨kind, a, hkind, ha, hdue, htracks⟩ | ⟨hkind, -, htracks⟩ :=
        h.tracks.expired
      · have hpast : (w.next .expired).past =
            w.past ++ [(kind, .expired w.now)] := by
          simp [Watch.next, hkind]
        refine h.record rfl hpast ?_ htracks
        intro now he
        cases he
        exact ⟨a, ha, hdue⟩
      · have hpast : (w.next .expired).past = w.past := by
          simp [Watch.next, hkind]
        have hhistory : (w.next .expired).history = w.history := by
          unfold history
          rw [hpast]
        refine ⟨?_, ?_⟩
        · rw [hhistory]
          exact htracks
        · rw [hhistory]
          exact h.genuine

theorem Sound.run {w : Watch} (h : w.Sound) (operations : List Operation) :
    (w.run operations).Sound := by
  induction operations generalizing w with
  | nil => exact h
  | cons operation rest ih => exact ih (h.next operation)

/-- The expiry of an arm whose deadline has passed is in the queue. -/
theorem Sound.awaits {w : Watch} (h : w.Sound) {kind : TimerKind} {a : Arm}
    (ha : standing? (w.history kind) = some a) (hsince : a.since < w.now)
    (hdeadline : a.deadline w.clock ≤ w.now) : w.bank.Awaits kind := by
  have ht := h.tracks.timer kind
  have harmed : (w.bank.get kind).armed = true := by
    rw [ht.armed, ha]
    rfl
  refine ⟨⟨kind, (w.bank.get kind).generation⟩, ?_, rfl,
    Timer.honours_iff.2 ⟨harmed, rfl⟩⟩
  by_contra hmem
  have hkind := h.tracks.kind kind
  have hmem' :
      ⟨(w.bank.get kind).kind, (w.bank.get kind).generation⟩ ∉ w.bank.queue := by
    rw [hkind]
    exact hmem
  rcases (ht.running a ha hmem').1 with hlt | heq
  · omega
  · omega

/-- Over any operations on new timers, on a clock that cuts no sleep but those that are
too long for it:

* an expiry that is returned is that of one arm of its kind, with no start or stop
  in between; the interval that was set when it was armed has passed, or at least the
  longest sleep if the interval is longer;
* no arm is returned twice;
* a timer is armed as long as the last that happened to it is an arm, and once the
  deadline of this arm has passed, which lies no later than the end of the interval, its
  expiry is in the queue.  A call then takes the first expiry that counts without
  waiting, and drops the stale ones before it; of successive calls none waits before
  the expiry has been returned, and as many calls as there are entries in the queue
  return it. -/
theorem expiries_genuine_and_complete {clock : Clock} (hclock : clock.Saturates)
    (config : Config) (operations : List Operation) (kind : TimerKind) :
    let w := (Watch.ofConfig clock config).run operations
    (∀ j now, (w.history kind)[j]? = some (.expired now) →
      ∃ i a, Returns (w.history kind) i a j now ∧
        (a.interval ≤ clock.longest → a.since + a.interval ≤ now) ∧
        (clock.longest ≤ a.interval → a.since + clock.longest ≤ now)) ∧
    (∀ i a a' j j' now now', Returns (w.history kind) i a j now →
      Returns (w.history kind) i a' j' now' → j = j') ∧
    w.bank.isArmed kind = (standing? (w.history kind)).isSome ∧
    (∀ a : Arm, a.deadline clock ≤ a.since + a.interval) ∧
    (∀ a, standing? (w.history kind) = some a → a.since < w.now →
      a.deadline clock ≤ w.now →
      w.bank.Awaits kind ∧
      (∃ stale x rest, w.bank.queue = stale ++ x :: rest ∧
        (∀ y ∈ stale, (w.bank.get y.kind).honours y = false) ∧
        w.bank.expired.kind? = some x.kind ∧ w.bank.expired.bank.queue = rest) ∧
      (∀ calls earlier later,
        successive calls w.bank = earlier ++ none :: later → some kind ∈ earlier) ∧
      some kind ∈ successive w.bank.queue.length w.bank) := by
  intro w
  have hw : w.Sound := (Sound.ofConfig clock config).run operations
  have hsame : w.clock = clock := clock_run _ operations
  refine ⟨?_, ?_, hw.tracks.armed kind, fun _ => Arm.deadline_le hclock, ?_⟩
  · intro j now hj
    obtain ⟨i, a, hreturns, hdue⟩ := (hw.genuine kind).returns hj
    rw [hsame] at hdue
    refine ⟨i, a, hreturns, ?_, ?_⟩
    · intro hkept
      rw [← a.deadline_of_le hclock hkept]
      exact hdue
    · intro hcut
      exact (a.le_deadline hclock hcut).trans hdue
  · intro i a a' j j' now now' h h'
    rw [(hw.genuine kind).returns_unique h, (hw.genuine kind).returns_unique h']
  · intro a ha hsince hdeadline
    have hawaits := hw.awaits ha hsince (hsame ▸ hdeadline)
    obtain ⟨stale, x, rest, hqueue, hstale, hkind, hrest, -⟩ :=
      hawaits.exists_expired
    refine ⟨hawaits, ⟨stale, x, rest, hqueue, hstale, hkind, hrest⟩, ?_,
      hawaits.mem_successive (Nat.le_refl _)⟩
    intro calls earlier later hcalls
    exact hawaits.mem_of_successive hcalls

/-- The send timer is started again while its first expiry is queued, and its second one
is queued when the receive timer runs out.  The first expiry is dropped, the second is
returned, and the receive timer comes next. -/
theorem expiries_genuine_and_complete_restarted :
    let w := (Watch.ofConfig .standard (.sample .client)).run
      [.restart .receive, .restart .send, .pass 20000, .restart .send, .pass 20000, .expired]
    w.history .send = [.armed ⟨0, 15000⟩, .armed ⟨20000, 15000⟩, .expired 40000] ∧
      (∃ i a, Returns (w.history .send) i a 2 40000 ∧ a.since + a.interval ≤ 40000) ∧
      w.history .receive = [.armed ⟨0, 40000⟩] ∧ w.bank.Awaits .receive ∧
      some .receive ∈ successive w.bank.queue.length w.bank := by
  intro w
  have hsend : w.history .send =
      [.armed ⟨0, 15000⟩, .armed ⟨20000, 15000⟩, .expired 40000] := by
    decide +kernel
  have hreceive : w.history .receive = [.armed ⟨0, 40000⟩] := by
    decide +kernel
  have hresult := expiries_genuine_and_complete Clock.saturates_standard (.sample .client)
    [.restart .receive, .restart .send, .pass 20000, .restart .send, .pass 20000, .expired]
  obtain ⟨i, a, hreturns, hkept, -⟩ := (hresult .send).1 2 40000 (by rw [hsend]; rfl)
  have harm : a.interval ≤ Clock.standard.longest := by
    have hmem : Event.armed a ∈ w.history .send := List.mem_of_getElem? hreturns.arm
    rw [hsend] at hmem
    obtain rfl | rfl : a = ⟨0, 15000⟩ ∨ a = ⟨20000, 15000⟩ := by simpa using hmem
    all_goals decide
  obtain ⟨hawaits, -, -, hsuccessive⟩ := (hresult .receive).2.2.2.2 ⟨0, 40000⟩
    (by rw [hreceive]; rfl) (by decide +kernel) (by decide +kernel)
  exact ⟨hsend, ⟨i, a, hreturns, hkept harm⟩, hreceive, hawaits, hsuccessive⟩

/-- An interval may be longer than the longest sleep: with the longest Ti that can be set,
the expiry comes after thirty years. -/
theorem expires_before_its_interval :
    let settings := { Settings.sample .client with intervalTi := 2 ^ 64 - 1 }
    let config := { Config.sample .client with ti := 2 ^ 64 - 1 }
    let w := (Watch.ofConfig .standard config).run
      [.restart .identification, .pass Clock.thirtyYears, .expired]
    settings.check = .ok config ∧
      w.history .identification =
        [.armed ⟨0, (2 ^ 64 - 1) * 1000⟩, .expired Clock.thirtyYears] ∧
      Clock.thirtyYears < 0 + (2 ^ 64 - 1) * 1000 := by
  decide +kernel

end Watch

end FlightLink.TimerBank
