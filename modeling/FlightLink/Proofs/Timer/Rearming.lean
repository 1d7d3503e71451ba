import FlightLink.Proofs.Timer.Arms

/-!
# Arms under the actions of a channel

The actions that a channel asks for start and stop its timers.  Carried out in
their order, they replace the arms of the timers that they concern and leave the
others as they were.
-/

namespace FlightLink

/-- The arms once timers of a configuration have been started and stopped. -/
def rearm (config : Config) (now : Nat) (arm? : TimerKind → Option Arm) :
    List (TimerKind × Bool) → TimerKind → Option Arm
  | [] => arm?
  | (kind, on) :: rest =>
    let a? := if on then some ⟨now, TimerBank.interval config kind⟩ else none
    rearm config now (Function.update arm? kind a?) rest

section Rearm

variable {clock : Clock} {config : Config} {now : Nat} {arm? : TimerKind → Option Arm}
  {kind : TimerKind} {l : List (TimerKind × Bool)}

theorem rearm_append (l l' : List (TimerKind × Bool)) :
    rearm config now arm? (l ++ l') = rearm config now (rearm config now arm? l) l' := by
  induction l generalizing arm? with
  | nil => rfl
  | cons t rest ih => exact ih

/-- Starts and stops arm and disarm. -/
theorem isSome_rearm :
    (fun kind => (rearm config now arm? l kind).isSome) =
      arming (fun kind => (arm? kind).isSome) l := by
  induction l generalizing arm? with
  | nil => rfl
  | cons t rest ih =>
      obtain ⟨kind, on⟩ := t
      rw [rearm, ih, arming_cons]
      congr 1
      funext kind'
      rw [Function.update_apply, Function.update_apply]
      split
      · cases on <;> rfl
      · rfl

theorem isSome_update_none (kind : TimerKind) :
    (fun kind' => (Function.update arm? kind none kind').isSome) =
      Function.update (fun kind' => (arm? kind').isSome) kind false := by
  funext kind'
  rw [Function.update_apply, Function.update_apply]
  split <;> rfl

/-- An arm is an old one or has just been made. -/
theorem rearm_cases {a : Arm} (h : rearm config now arm? l kind = some a) :
    arm? kind = some a ∨ a = ⟨now, TimerBank.interval config kind⟩ := by
  induction l generalizing arm? with
  | nil => exact .inl h
  | cons t rest ih =>
      obtain ⟨kind', on⟩ := t
      rcases ih h with hbefore | hnew
      · rw [Function.update_apply] at hbefore
        split at hbefore
        · next heq =>
            subst heq
            cases on with
            | true => exact .inr (Option.some.inj hbefore).symm
            | false => cases hbefore
        · exact .inl hbefore
      · exact .inr hnew

theorem rearm_of_forall_ne (h : ∀ t ∈ l, t.1 ≠ kind) :
    rearm config now arm? l kind = arm? kind := by
  induction l generalizing arm? with
  | nil => rfl
  | cons t rest ih =>
      obtain ⟨hfirst, hrest⟩ := List.forall_mem_cons.mp h
      rw [rearm, ih hrest, Function.update_of_ne hfirst.symm]

/-- A timer that is started and not stopped is armed anew. -/
theorem rearm_of_mem (hmem : (kind, true) ∈ l) (hstarts : (kind, false) ∉ l) :
    rearm config now arm? l kind = some ⟨now, TimerBank.interval config kind⟩ := by
  induction l generalizing arm? with
  | nil => cases hmem
  | cons t rest ih =>
      rw [List.mem_cons, not_or] at hstarts
      by_cases hrest : (kind, true) ∈ rest
      · exact ih hrest hstarts.2
      · obtain rfl := (List.mem_cons.mp hmem).resolve_right hrest
        have hnone : ∀ t ∈ rest, t.1 ≠ kind := by
          rintro ⟨kind', on⟩ ht rfl
          cases on with
          | true => exact hrest ht
          | false => exact hstarts.2 ht
        rw [rearm, rearm_of_forall_ne hnone, Function.update_self]
        rfl

namespace TimerBank.Tracks

variable {b : TimerBank}

theorem carryOut (h : b.Tracks clock config now arm?) (a : Action) :
    (b.carryOut config now a).Tracks clock config now
      (rearm config now arm? a.timing?.toList) := by
  cases a with
  | restartTimer kind => exact h.restart kind
  | stopTimer kind => exact h.stop kind
  | reconfigure => exact h.reconfigure config
  | _ => exact h

theorem foldl_carryOut (h : b.Tracks clock config now arm?) (actions : List Action) :
    (actions.foldl (TimerBank.carryOut config now) b).Tracks clock config now
      (rearm config now arm? (actions.filterMap Action.timing?)) := by
  induction actions generalizing b arm? with
  | nil => exact h
  | cons a rest ih =>
      have hfirst : (a :: rest).filterMap Action.timing? =
          a.timing?.toList ++ rest.filterMap Action.timing? := by
        simp only [List.filterMap_eq_flatMap_toList, List.flatMap_cons]
      rw [hfirst, rearm_append]
      exact ih (h.carryOut a)

/-- Of an arm whose expiry does not count in the queue, the deadline lies ahead. -/
theorem exists_nextDeadline? (h : b.Tracks clock config now arm?) (hnone : b.hasExpired = false)
    {a : Arm} (ha : arm? kind = some a) : ∃ n ∈ b.nextDeadline? clock, n ≤ a.deadline clock := by
  have ht := h.timer kind
  have hqueued : ⟨(b.get kind).kind, (b.get kind).generation⟩ ∉ b.queue := by
    intro hmem
    have hcounts := List.any_eq_false.mp hnone _ hmem
    rw [h.kind kind] at hcounts
    apply hcounts
    apply Timer.honours_iff.mpr
    rw [ht.armed, ha]
    exact ⟨rfl, rfl⟩
  obtain ⟨-, r, hr, hgeneration⟩ := ht.running a ha hqueued
  have hmem : a.deadline clock ∈ b.timers.flatMap (·.deadlines clock) := by
    refine List.mem_flatMap.mpr ⟨b.get kind, ?_, ?_⟩
    · exact List.mem_map.mpr ⟨kind, by cases kind <;> decide, rfl⟩
    · exact List.mem_map.mpr ⟨r, hr, by rw [ht.run_arm a ha r hr hgeneration]⟩
  cases hmin : (b.timers.flatMap (·.deadlines clock)).min? with
  | none =>
      rw [List.min?_eq_none_iff.mp hmin] at hmem
      cases hmem
  | some n => exact ⟨n, hmin, (List.min?_eq_some_iff.mp hmin).2 _ hmem⟩

end TimerBank.Tracks

end Rearm

end FlightLink
