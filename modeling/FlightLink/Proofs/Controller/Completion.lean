import FlightLink.Proofs.Controller.Execution

/-!
# The actions of a controller run out

Actions are carried out one by one, and a packet that is too long can add further ones:
records, and whatever acting on the messages on hold asks for.  Time goes on meanwhile.
Here the loop runs without any bound, and each action may find another time on the
clock.  It ends after finitely many actions, with nothing pending.
-/

namespace FlightLink

namespace Controller

variable {c c' : Controller} {clock : Nat → Nat} {outputs : List Output}

/-- Carries out the next action `n` times, the first time at `clock 0`. -/
def iterate? (clock : Nat → Nat) : Nat → Controller → Option Result
  | 0, c => some (c, [])
  | n + 1, c =>
    match iterate? clock n c with
    | none => none
    | some (c', outputs) =>
      (c'.performNext? (clock n)).map fun r => (r.1, outputs ++ r.2)

theorem iterate?_succ {n : Nat} {r : Result} (h : iterate? clock n c = some (c', outputs))
    (hr : c'.performNext? (clock n) = some r) :
    iterate? clock (n + 1) c = some (r.1, outputs ++ r.2) := by
  rw [iterate?, h]
  dsimp only
  rw [hr, Option.map_some]

theorem exists_performNext?_of_iterate? {n : Nat} {r : Result}
    (h : iterate? clock (n + 1) c = some r) :
    ∃ c' outputs r', iterate? clock n c = some (c', outputs) ∧
      c'.performNext? (clock n) = some r' ∧ r = (r'.1, outputs ++ r'.2) := by
  rw [iterate?] at h
  split at h
  · cases h
  · next c' outputs hn =>
      obtain ⟨r', hr', rfl⟩ := Option.map_eq_some_iff.mp h
      exact ⟨c', outputs, r', hn, hr', rfl⟩

/-- Every iteration takes effort. -/
theorem effort_iterate? {n : Nat} (h : iterate? clock n c = some (c', outputs)) :
    c'.effort + n ≤ c.effort := by
  induction n generalizing c' outputs with
  | zero =>
      cases h
      exact Nat.le_refl _
  | succ n ih =>
      obtain ⟨d, l, r, hn, hr, heq⟩ := exists_performNext?_of_iterate? h
      cases heq
      have hlt := effort_performNext?_lt hr
      have hle := ih hn
      omega

/-- A controller with a transport goes on, whatever it carries out. -/
theorem going_iterate? (hattached : c.transportGone = false) (hgoing : c.ending? = none)
    {n : Nat} (h : iterate? clock n c = some (c', outputs)) :
    c'.transportGone = false ∧ c'.ending? = none := by
  induction n generalizing c' outputs with
  | zero =>
      cases h
      exact ⟨hattached, hgoing⟩
  | succ n ih =>
      obtain ⟨d, l, r, hn, hr, heq⟩ := exists_performNext?_of_iterate? h
      cases heq
      obtain ⟨hd, hd'⟩ := ih hn
      obtain ⟨a, rest, -, rfl⟩ := exists_perform_of_performNext? hr
      let b : Controller := { d with pending := rest }
      exact ⟨(b.follows_perform _ a).2.2.1.trans hd,
        (ending?_perform (c := b) hd _ a).trans hd'⟩

/-! ## Execution, action by action -/

theorem exists_performNext? (now : Nat) {a : Action} {l : List Action}
    (hgoing : c.ending? = none) (hpending : c.pending.toList = a :: l) :
    ∃ rest, rest.toList = l ∧
      c.performNext? now = some ({ c with pending := rest }.perform now a) := by
  cases hpop : c.pending.pop? with
  | none =>
      rw [Fifo.pop?_eq_none_iff.mp hpop] at hpending
      cases hpending
  | some p =>
      obtain ⟨b, rest⟩ := p
      rw [Fifo.toList_of_pop? hpop] at hpending
      obtain ⟨rfl, rfl⟩ := List.cons.inj hpending
      refine ⟨rest, rfl, ?_⟩
      rw [performNext?, hgoing, hpop]
      rfl

theorem performNext?_eq_none (now : Nat) (hpending : c.pending.toList = []) :
    c.performNext? now = none := by
  rw [performNext?, Fifo.pop?_eq_none_iff.mpr hpending]
  split <;> rfl

theorem execute_of_performNext?_eq_none {now : Nat} (h : c.performNext? now = none) :
    c.execute now = (c, []) := by
  rw [execute]
  cases c.effort with
  | zero => rfl
  | succ fuel => rw [executeOnto, h]; rfl

/-- More effort than an execution takes makes no difference to it. -/
theorem executeOnto_eq_execute {now fuel : Nat} {done : List Output} {c : Controller}
    (h : c.effort ≤ fuel) :
    executeOnto now fuel done c =
      ((c.execute now).1, done.reverse ++ (c.execute now).2) := by
  induction fuel using Nat.strongRecOn generalizing done c with
  | ind fuel ih =>
      cases hnext : c.performNext? now with
      | none =>
          rw [execute_of_performNext?_eq_none hnext]
          cases fuel with
          | zero => simp [executeOnto]
          | succ fuel => simp [executeOnto, hnext]
      | some r =>
          have hlt := effort_performNext?_lt hnext
          obtain ⟨n, hn⟩ : ∃ n, c.effort = n + 1 := ⟨c.effort - 1, by omega⟩
          obtain ⟨m, rfl⟩ : ∃ m, fuel = m + 1 := ⟨fuel - 1, by omega⟩
          rw [execute, hn, executeOnto, executeOnto, hnext]
          dsimp only
          rw [ih m (by omega) (by omega), ih n (by omega) (by omega)]
          simp

/-- Execution goes on after an action as it would begin there. -/
theorem execute_of_performNext? {now : Nat} {r : Result}
    (hr : c.performNext? now = some r) :
    c.execute now = ((r.1.execute now).1, r.2 ++ (r.1.execute now).2) := by
  have hlt := effort_performNext?_lt hr
  obtain ⟨n, hn⟩ : ∃ n, c.effort = n + 1 := ⟨c.effort - 1, by omega⟩
  rw [execute, hn, executeOnto, hr]
  dsimp only
  rw [executeOnto_eq_execute (by omega)]
  simp

/-- On a clock that stands still, execution begins with the iterations. -/
theorem execute_of_iterate? {now n : Nat} (hclock : ∀ k, clock k = now)
    (h : iterate? clock n c = some (c', outputs)) :
    c.execute now = ((c'.execute now).1, outputs ++ (c'.execute now).2) := by
  induction n generalizing c' outputs with
  | zero =>
      cases h
      rfl
  | succ n ih =>
      obtain ⟨d, l, r, hn, hr, heq⟩ := exists_performNext?_of_iterate? h
      cases heq
      rw [hclock n] at hr
      rw [ih hn, execute_of_performNext? hr, List.append_assoc]

/-! ## The loop ends -/

/-- As long as something is pending, there is another iteration, and it takes effort. -/
theorem exists_iterate?_succ (hattached : c.transportGone = false)
    (hgoing : c.ending? = none) {k : Nat}
    (h : iterate? clock k c = some (c', outputs)) (hpending : c'.pending.toList ≠ []) :
    ∃ d l, iterate? clock (k + 1) c = some (d, l) ∧ d.effort < c'.effort := by
  obtain ⟨a, rest, hfirst⟩ := List.exists_cons_of_ne_nil hpending
  obtain ⟨q, -, hr⟩ := exists_performNext? (clock k)
    (going_iterate? hattached hgoing h).2 hfirst
  have hnext := iterate?_succ h hr
  exact ⟨_, _, hnext, effort_performNext?_lt hr⟩

/-- Wherever the loop is, it comes to its end. -/
theorem exists_iterate?_of_effort_le (hattached : c.transportGone = false)
    (hgoing : c.ending? = none) {fuel k : Nat}
    (h : iterate? clock k c = some (c', outputs)) (hfuel : c'.effort ≤ fuel) :
    ∃ n d l, iterate? clock n c = some (d, l) ∧ d.pending.toList = [] := by
  induction fuel generalizing k c' outputs with
  | zero =>
      refine ⟨k, c', outputs, h, ?_⟩
      by_contra hpending
      obtain ⟨d, l, -, hlt⟩ := exists_iterate?_succ hattached hgoing h hpending
      omega
  | succ fuel ih =>
      by_cases hpending : c'.pending.toList = []
      · exact ⟨k, c', outputs, h, hpending⟩
      · obtain ⟨d, l, hnext, hlt⟩ := exists_iterate?_succ hattached hgoing h hpending
        exact ih hnext (by omega)

/-- Before the last iteration something is pending. -/
theorem exists_iterate?_of_lt {n k : Nat} (hk : k < n) {r : Result}
    (h : iterate? clock n c = some r) :
    ∃ d l, iterate? clock k c = some (d, l) ∧ d.pending.toList ≠ [] := by
  induction n generalizing r with
  | zero => exact absurd hk (Nat.not_lt_zero k)
  | succ n ih =>
      obtain ⟨d, l, r', hn, hr, -⟩ := exists_performNext?_of_iterate? h
      rcases Nat.lt_succ_iff_lt_or_eq.mp hk with hlt | rfl
      · exact ih hlt hn
      · refine ⟨d, l, hn, fun hpending => ?_⟩
        rw [performNext?_eq_none _ hpending] at hr
        cases hr

/-- Carrying out actions comes to an end, whatever is pending, held or awaited, and
however time goes on meanwhile.  On a clock that stands still it is what `execute`
does. -/
theorem exists_iterate?_pending_eq_nil (hattached : c.transportGone = false)
    (hgoing : c.ending? = none) (clock : Nat → Nat) :
    ∃ n ≤ c.effort, ∃ c' outputs, iterate? clock n c = some (c', outputs) ∧
      c'.pending.toList = [] ∧ c'.ending? = none ∧
      (∀ k < n, ∃ d l, iterate? clock k c = some (d, l) ∧ d.pending.toList ≠ []) ∧
      ∀ now, (∀ k, clock k = now) → c.execute now = (c', outputs) := by
  have hstart : iterate? clock 0 c = some (c, []) := rfl
  obtain ⟨n, c', outputs, hn, hdone⟩ :=
    exists_iterate?_of_effort_le hattached hgoing hstart (Nat.le_refl _)
  refine ⟨n, ?_, c', outputs, hn, hdone, ?_, ?_, ?_⟩
  · have hle := effort_iterate? hn
    omega
  · exact (going_iterate? hattached hgoing hn).2
  · exact fun k hk => exists_iterate?_of_lt hk hn
  · intro now hclock
    have hrest := execute_of_performNext?_eq_none (performNext?_eq_none now hdone)
    rw [execute_of_iterate? hclock hn, hrest, List.append_nil]

/-- A controller in the middle of a turn: the next action is a packet that is too long,
and once its event is given up, the messages on hold are acted on. -/
def crowded : Controller :=
  { ofConfig (.sample .client) with
    channel :=
      { Channel.ofConfig (.sample .client) with
        state := .dataReady
        awaiting := 1
        held := #[.operational "payload", .shutdown, .startup] }
    pending := .ofList
      [.send (.operational (.ofList (List.replicate 65531 'x'))) (some .localData),
        .restartTimer .send] }

theorem exists_iterate?_crowded :
    crowded.transportGone = false ∧ crowded.ending? = none ∧
      ∃ n ≤ crowded.effort, ∃ c' outputs,
        iterate? (fun _ => 5) n crowded = some (c', outputs) ∧
        c'.pending.toList = [] ∧ c'.ending? = none ∧
        (∀ k < n, ∃ d l, iterate? (fun _ => 5) k crowded = some (d, l) ∧
          d.pending.toList ≠ []) ∧
        ∀ now, (∀ _ : Nat, 5 = now) → crowded.execute now = (c', outputs) :=
  ⟨rfl, rfl, exists_iterate?_pending_eq_nil rfl rfl fun _ => 5⟩

end Controller

end FlightLink
