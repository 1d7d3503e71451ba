import FlightLink.Controller
import FlightLink.Proofs.Channel.Effects
import Mathlib.Logic.Function.Basic

/-!
# Which timers are armed

Of a bank of timers, most statements need to know only which of them are armed.
Starts and stops decide that, and an expiry that counts ends it.  The passing of
time and new intervals have no influence on it, and neither have expiries of
runs that were stopped or replaced.
-/

namespace FlightLink

/-- Which timers are armed after starts and stops. -/
def arming (armed : TimerKind → Bool) :
    List (TimerKind × Bool) → TimerKind → Bool
  | [] => armed
  | (kind, on) :: rest => arming (Function.update armed kind on) rest

@[simp] theorem arming_nil (armed : TimerKind → Bool) : arming armed [] = armed :=
  rfl

@[simp] theorem arming_cons (armed : TimerKind → Bool) (kind : TimerKind)
    (on : Bool) (rest : List (TimerKind × Bool)) :
    arming armed ((kind, on) :: rest) =
      arming (Function.update armed kind on) rest := rfl

@[simp] theorem arming_append (armed : TimerKind → Bool)
    (earlier later : List (TimerKind × Bool)) :
    arming armed (earlier ++ later) = arming (arming armed earlier) later := by
  induction earlier generalizing armed with
  | nil => rfl
  | cons x rest ih => exact ih _

/-- Orders make up for any change of a timer that they concern. -/
theorem arming_update_of_mem {armed : TimerKind → Bool} {kind : TimerKind}
    {on : Bool} {l : List (TimerKind × Bool)}
    (hmem : kind ∈ l.map Prod.fst) :
    arming (Function.update armed kind on) l = arming armed l := by
  induction l generalizing armed with
  | nil => cases hmem
  | cons x rest ih =>
      obtain ⟨kind', on'⟩ := x
      by_cases hkind : kind = kind'
      · subst hkind
        simp
      · have hrest : kind ∈ rest.map Prod.fst := by
          simpa [hkind] using hmem
        rw [arming_cons, Function.update_comm hkind, ih hrest, arming_cons]

namespace TimerBank

/-- Whether the timer of a kind is armed. -/
def isArmed (b : TimerBank) (kind : TimerKind) : Bool :=
  (b.get kind).armed

theorem get_set (b : TimerBank) (kind kind' : TimerKind) (t : Timer) :
    (b.set kind t).get kind' = if kind' = kind then t else b.get kind' := by
  cases kind <;> cases kind' <;> rfl

theorem isArmed_set (b : TimerBank) (kind : TimerKind) (t : Timer) :
    (b.set kind t).isArmed = Function.update b.isArmed kind t.armed := by
  funext kind'
  by_cases h : kind' = kind
  · subst h
    simp [isArmed, get_set]
  · simp [isArmed, get_set, h]

theorem isArmed_restart (b : TimerBank) (now : Nat) (kind : TimerKind) :
    (b.restart now kind).isArmed = Function.update b.isArmed kind true := by
  rw [restart, isArmed_set]
  rfl

theorem isArmed_stop (b : TimerBank) (kind : TimerKind) :
    (b.stop kind).isArmed = Function.update b.isArmed kind false := by
  have hstop : (b.get kind).stop.armed = false := by
    unfold Timer.stop
    split
    · rfl
    · next h => simpa using h
  rw [stop, isArmed_set, hstop]

/-- Changes that leave every timer as armed as it was. -/
theorem isArmed_foldl_set (change : TimerKind → Timer → Timer)
    (hchange : ∀ kind t, (change kind t).armed = t.armed)
    (kinds : List TimerKind) (b : TimerBank) :
    (kinds.foldl (fun b kind => b.set kind (change kind (b.get kind))) b).isArmed =
      b.isArmed := by
  induction kinds generalizing b with
  | nil => rfl
  | cons kind rest ih =>
      rw [List.foldl_cons, ih, isArmed_set, hchange]
      exact Function.update_eq_self kind b.isArmed

theorem isArmed_reconfigure (b : TimerBank) (config : Config) :
    (b.reconfigure config).isArmed = b.isArmed :=
  isArmed_foldl_set (fun kind t => t.setInterval (interval config kind))
    (fun _ _ => rfl) _ b

theorem isArmed_elapse (b : TimerBank) (clock : Clock) (now : Nat) :
    (b.elapse clock now).isArmed = b.isArmed :=
  isArmed_foldl_set (fun _ t => t.settle clock now) (fun _ _ => rfl) _ b

/-- An expiry that counts is that of an armed timer, which it disarms; expiries
that do not count change nothing. -/
theorem isArmed_expiredFrom (b : TimerBank) (queue : List Expiry) :
    match (b.expiredFrom queue).kind? with
    | none => (b.expiredFrom queue).bank.isArmed = b.isArmed
    | some kind =>
      b.isArmed kind = true ∧
        (b.expiredFrom queue).bank.isArmed =
          Function.update b.isArmed kind false := by
  induction queue with
  | nil => rfl
  | cons x rest ih =>
      by_cases h : (b.get x.kind).honours x
      · have harmed : (b.get x.kind).armed = true := by
          simp only [Timer.honours, Bool.and_eq_true] at h
          exact h.1
        have hfire : ((b.get x.kind).fire x).armed = false := by
          rw [Timer.fire, if_pos h]
        have hset := b.isArmed_set x.kind ((b.get x.kind).fire x)
        rw [hfire] at hset
        simp only [expiredFrom, if_pos h]
        exact ⟨harmed, hset⟩
      · simpa only [expiredFrom, if_neg h] using ih

/-- Carries out what an action asks of the timers. -/
def carryOut (config : Config) (now : Nat) (b : TimerBank) :
    Action → TimerBank
  | .restartTimer kind => b.restart now kind
  | .stopTimer kind => b.stop kind
  | .reconfigure => b.reconfigure config
  | _ => b

theorem isArmed_carryOut (config : Config) (now : Nat) (b : TimerBank)
    (a : Action) :
    (b.carryOut config now a).isArmed = arming b.isArmed a.timing?.toList := by
  cases a with
  | restartTimer kind => exact b.isArmed_restart now kind
  | stopTimer kind => exact b.isArmed_stop kind
  | reconfigure => exact b.isArmed_reconfigure config
  | _ => rfl

end TimerBank

/-- A controller treats its timers in this way. -/
theorem Controller.timers_perform (c : Controller) (now : Nat) (a : Action) :
    (c.perform now a).1.timers = c.timers.carryOut c.channel.config now a := by
  have horder : ∀ (c : Controller) (o : Transport.Order),
      (c.order o).1.timers = c.timers := by
    intro c o
    unfold order
    split <;> rfl
  cases a with
  | send m after? =>
      simp only [perform]
      split
      · exact horder c _
      · rfl
  | reconnect => exact horder c _
  | disconnect => exact horder c _
  | halt => exact horder c _
  | reconfigure =>
      simp only [perform]
      split <;> exact horder _ _
  | _ => rfl

end FlightLink
