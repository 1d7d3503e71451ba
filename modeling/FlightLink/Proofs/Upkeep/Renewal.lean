import FlightLink.Proofs.Timer.Rearming
import FlightLink.Proofs.Upkeep.Signs

/-!
# Who renews the receive timer

Of the receive timer only the last thing that is asked of it counts.  A channel
that ends up exchanging data has asked for a start last, or has asked for nothing.
In the latter case it exchanged data all the time, and no message that it acted
on was a sign of life.
-/

namespace FlightLink

/-! ## The last thing asked of a timer -/

/-- Whether a timer is started or stopped last, if at all. -/
def lastAsked? (kind : TimerKind) : List (TimerKind × Bool) → Option Bool
  | [] => none
  | t :: rest => (lastAsked? kind rest).or (if t.1 = kind then some t.2 else none)

theorem lastAsked?_append (kind : TimerKind) (l l' : List (TimerKind × Bool)) :
    lastAsked? kind (l ++ l') = (lastAsked? kind l').or (lastAsked? kind l) := by
  induction l with
  | nil => exact (Option.or_none).symm
  | cons t rest ih => rw [List.cons_append, lastAsked?, ih, Option.or_assoc, lastAsked?]

/-- The arm of a timer depends on the last thing asked of it. -/
theorem rearm_eq (config : Config) (now : Nat) (arm? : TimerKind → Option Arm)
    (l : List (TimerKind × Bool)) (kind : TimerKind) :
    rearm config now arm? l kind =
      match lastAsked? kind l with
      | some true => some ⟨now, TimerBank.interval config kind⟩
      | some false => none
      | none => arm? kind := by
  induction l generalizing arm? with
  | nil => rfl
  | cons t rest ih =>
      obtain ⟨kind', on⟩ := t
      rw [rearm, ih, lastAsked?]
      cases lastAsked? kind rest with
      | some last => cases last <;> rfl
      | none =>
          by_cases hkind : kind' = kind
          · subst hkind
            cases on <;> simp
          · simp [hkind, Function.update_of_ne (Ne.symm hkind)]

/-! ## Transitions -/

/-- A transition into the exchange of data starts the receive timer.  A transition within
it does so on a sign of life, and asks nothing of the timer otherwise. -/
theorem Table.lastAsked?_of_next? {role : Role} {s : State} {e : Event}
    (hnext : next? role s e = some .dataReady) :
    lastAsked? .receive (s.leavingTimings e) = some true ∨
      lastAsked? .receive (s.leavingTimings e) = none ∧ s = .dataReady ∧
        e ≠ .remoteData ∧ e ≠ .remoteHeartbeat := by
  obtain ⟨r, hr, rfl, ht, hmem⟩ := exists_row_of_next? hnext
  -- One case for each entry of the rows that lead there.
  cases role <;> fin_cases hr <;>
    first
    | exact absurd ht (by decide)
    | fin_cases hmem <;> decide

namespace Channel

open Effect

/-- An outcome that acts on messages.  If the channel exchanges data afterwards, it has
asked for a start of the receive timer last, or it has exchanged data all the time and
there was no sign of life. -/
def Outcome.Renews (c : Channel) (l : List Message) (o : Outcome) : Prop :=
  o.channel.state = .dataReady →
    lastAsked? .receive (timings o.effects) = some true ∨
      lastAsked? .receive (timings o.effects) = none ∧ c.state = .dataReady ∧
        ∀ m ∈ l, m.isVital = false

namespace Outcome.Renews

variable {c : Channel} {l l' : List Message} {o : Outcome}

theorem of_ne (h : o.channel.state ≠ .dataReady) : o.Renews c l :=
  fun hstate => absurd hstate h

theorem of_same (hstate : o.channel.state = c.state) (hnone : timings o.effects = []) :
    o.Renews c [] := by
  intro hready
  rw [hnone]
  exact .inr ⟨rfl, hstate.symm.trans hready, nofun⟩

/-- Of the channel only the state counts. -/
theorem congr {d : Channel} (h : o.Renews c l) (hstate : c.state = d.state) :
    o.Renews d l := by
  rw [Renews, ← hstate]
  exact h

theorem andThen {next : Channel → Outcome} (h : o.Renews c l)
    (hnext : (next o.channel).Renews o.channel l') : (o.andThen next).Renews c (l ++ l') := by
  intro hready
  rw [andThen_effects, timings, collect_append, lastAsked?_append]
  rcases hnext hready with hlast | ⟨hnone, hmiddle, hvital⟩
  · rw [hlast]
    exact .inl rfl
  · rw [hnone]
    rcases h hmiddle with hlast | ⟨hnone, hstate, hvital'⟩
    · exact .inl hlast
    · exact .inr ⟨hnone, hstate, List.forall_mem_append.2 ⟨hvital', hvital⟩⟩

end Outcome.Renews

variable {c : Channel}

theorem renews_raise {e : Event} {l : List Message}
    (hl : e ≠ .remoteData ∧ e ≠ .remoteHeartbeat → ∀ m ∈ l, m.isVital = false) :
    (c.raise e).Renews c l := by
  intro hready
  rw [raise_state] at hready
  rw [timings_raise]
  cases hnext : c.next? e with
  | none =>
      rw [hnext, Option.getD_none] at hready
      refine .inr ⟨rfl, hready, hl ⟨?_, ?_⟩⟩
      all_goals
        rintro rfl
        rw [next?, hready] at hnext
        cases hrole : c.role <;> rw [hrole] at hnext <;> cases hnext
  | some t =>
      rw [hnext, Option.getD_some] at hready
      subst hready
      rw [Option.elim_some, State.enteringTimings, List.append_nil]
      refine (Table.lastAsked?_of_next? hnext).imp_right ?_
      rintro ⟨hnone, hstate, he⟩
      exact ⟨hnone, hstate, hl he⟩

theorem renews_raise_nil {e : Event} : (c.raise e).Renews c [] :=
  renews_raise fun _ => List.forall_mem_nil _

/-- The event of a sign of life. -/
theorem messageEvent?_of_isVital {m : Message} (h : m.isVital) :
    c.messageEvent? m = some .remoteData ∨ c.messageEvent? m = some .remoteHeartbeat := by
  obtain ⟨kind, text⟩ := m
  cases kind with
  | operational => exact .inl rfl
  | system =>
      have htext : text = Message.heartbeatText := by
        simpa [Message.isVital, Message.isHeartbeat] using h
      subst htext
      exact .inr rfl
  | identification | operator | status | unknown => cases h

theorem renews_dispatch (c : Channel) (m : Message) : (c.dispatch m).Renews c [m] := by
  have hdelivered : (if m.isPayload then (Action.timing? (.deliver m)).toList else []) = [] := by
    split <;> rfl
  have hdull : c.messageEvent? m ≠ some .remoteData → c.messageEvent? m ≠ some .remoteHeartbeat →
      ∀ m' ∈ [m], m'.isVital = false := by
    intro hdata hbeat m' hm'
    obtain rfl := List.mem_singleton.1 hm'
    by_contra hvital
    exact (messageEvent?_of_isVital (Bool.not_eq_false _ ▸ hvital)).elim hdata hbeat
  intro hready
  rw [dispatch_channel] at hready
  rw [timings, collect_dispatch, hdelivered, List.nil_append]
  cases he : c.messageEvent? m with
  | none =>
      rw [he] at hready
      exact .inr ⟨rfl, hready, hdull (by simp [he]) (by simp [he])⟩
  | some e =>
      rw [he] at hready
      refine renews_raise (fun hother => ?_) hready
      exact hdull (by simpa [he] using hother.1) (by simpa [he] using hother.2)

/-- The end of a connection and the expiry of the timer are the end of the exchange. -/
theorem state_raise_ne {e : Event} (he : e = .remoteDisconnect ∨ e = .receiveTimeout) :
    (c.raise e).channel.state ≠ .dataReady := by
  rw [raise_state, next?]
  rcases he with rfl | rfl <;> cases c.role <;> cases c.state <;> decide

theorem renews_settleAll (c : Channel) (l : List Message) :
    (c.settleAll (l.map (·, .dispatched))).Renews c l := by
  induction l generalizing c with
  | nil => exact .of_same rfl rfl
  | cons m rest ih => exact (c.renews_dispatch m).andThen (ih _)

theorem renews_obey (c : Channel) (y : Command) : (c.obey y).Renews c [] := by
  cases y with
  | data text =>
      rw [obey]
      split
      · exact .of_same rfl (collect_sending c _ _)
      · exact .of_same rfl (by simp)
  | startup =>
      rw [obey]
      dsimp only
      split
      · exact .of_same rfl (collect_sending _ _ _)
      · exact .of_same rfl (by simp)
  | shutdown =>
      have hraise : (raise { c with goal := .ready } .localShutdown).Renews _ [] :=
        renews_raise_nil
      exact hraise.congr rfl
  | disconnect => exact renews_raise_nil
  | disable => exact .of_ne (by simp [obey, disable_state])
  | enable =>
      rw [obey]
      split
      · exact .of_ne (by simp)
      · exact .of_same rfl rfl
  | reconfigure settings =>
      rw [obey, reconfigure]
      split
      · exact .of_same rfl (by simp)
      · split
        · exact .of_same rfl (by simp)
        · exact .of_same rfl (by simp)

/-! ## Steps -/

/-- What a step does before it settles messages, if the connection is not lost. -/
theorem renews_before (c : Channel) {i : Input} (hi : i ≠ .connectionChanged false) :
    (c.before i).Renews c [] := by
  match i with
  | .start =>
      simp only [before, step, start]
      split
      · exact .of_same rfl (by simp)
      · exact c.renews_obey .disable
  | .raise e => exact renews_raise_nil
  | .command y => exact c.renews_obey y
  | .timerExpired kind =>
      simp only [before, step, timerExpired]
      split
      · next e _ =>
          have hnoted : Outcome.Renews c [] ⟨c, [c.noted .debug s!"{kind.name} expired"]⟩ :=
            .of_same rfl (by simp)
          exact hnoted.andThen renews_raise_nil
      · exact .of_same rfl (by simp)
  | .log severity text => exact .of_same rfl (by simp [before, step])
  | .connectionChanged true =>
      simp only [before, step, connectionChanged, if_true]
      split
      · exact renews_raise_nil
      · exact .of_same rfl rfl
  | .connectionChanged false => exact absurd rfl hi
  | .receive m =>
      simp only [before, receive]
      split
      · exact .of_same rfl (by simp)
      · exact .of_same rfl rfl
  | .confirm e =>
      rw [before]
      by_cases hawait : c.awaiting = 0
      · rw [confirm, if_pos hawait]
        exact .of_same rfl (by simp)
      · rw [confirm_eq_raise (by exact hawait) rfl]
        have hraise : ∀ d : Channel, (d.raise e).Renews d [] := fun _ => renews_raise_nil
        exact (hraise _).congr rfl
  | .unsent after? =>
      have hreplay : ∀ {d : Channel}, d.held = #[] → d.replay.Renews d [] := by
        intro d hheld
        rw [replay_of_held_eq_nil hheld]
        exact .of_same rfl rfl
      rw [before]
      unfold unsent
      split
      · next e =>
          split
          · have hcounted : Outcome.Renews c []
                ⟨{ c with held := #[], awaiting := c.awaiting - 1 },
                  [c.logged .warning s!"packet not sent, {e.name} not raised"]⟩ :=
              .of_same rfl (by simp)
            exact hcounted.andThen (hreplay rfl)
          · exact (hreplay (d := { c with held := #[] }) rfl).congr rfl
      · exact (hreplay (d := { c with held := #[] }) rfl).congr rfl

/-- A step that goes on with the exchange of data without asking for a start of the
receive timer acts on no sign of life. -/
theorem renews_step {c : Channel} (h : c.HoldsInOrder) (i : Input) :
    (c.step i).Renews c ((c.settled i).map Prod.fst) := by
  by_cases hlost : i = .connectionChanged false
  · subst hlost
    exact .of_ne (state_raise_ne (.inl rfl))
  · obtain ⟨l, hl⟩ : ∃ l : List Message, c.settled i = l.map (·, .dispatched) := by
      match i with
      | .receive m =>
          by_cases hawait : 0 < c.awaiting
          · exact ⟨[], if_pos hawait⟩
          · exact ⟨[m], if_neg hawait⟩
      | .confirm e => exact ⟨_, rfl⟩
      | .unsent after? => exact ⟨_, rfl⟩
      | .connectionChanged false => exact absurd rfl hlost
      | .start | .raise _ | .command _ | .connectionChanged true | .timerExpired _ | .log _ _ =>
          exact ⟨[], rfl⟩
    have hfirst : (c.settled i).map Prod.fst = l := by
      rw [hl, List.map_map]
      exact List.map_id l
    have hafter : ∀ d : Channel, d.after i = ⟨d, []⟩ := by
      intro d
      unfold after
      split
      · exact absurd rfl hlost
      · rfl
    have hsettled : Outcome.Renews c l
        ((c.before i).andThen (·.settleAll (c.settled i))) := by
      rw [hl]
      exact (c.renews_before hlost).andThen (renews_settleAll _ l)
    rw [step_eq_staged h, hfirst]
    intro hready
    simp only [staged, hafter, Outcome.andThen, List.append_nil] at hready ⊢
    exact hsettled hready

/-- Over any inputs, the messages acted on or let go and those left on hold are those held
before and those that arrive, in this order. -/
theorem exists_renews_stepAll {c : Channel} (h : c.HoldsInOrder) (l : List Input) :
    ∃ acted, acted ++ (c.stepAll l).channel.held.toList =
        c.held.toList ++ l.flatMap Input.arrivals ∧
      (c.stepAll l).Renews c acted := by
  induction l generalizing c with
  | nil => exact ⟨[], by simp [stepAll], .of_same rfl rfl⟩
  | cons i rest ih =>
      obtain ⟨acted, hacted, hrenews⟩ := ih (holdsInOrder_step h i)
      refine ⟨(c.settled i).map Prod.fst ++ acted, ?_, (renews_step h i).andThen hrenews⟩
      have hkept := settled_append_kept h i
      have hheld : (c.step i).channel.held.toList = c.kept i := by rw [held_step h]
      rw [stepAll, andThen_channel, List.append_assoc, hacted, hheld, ← List.append_assoc,
        hkept, List.flatMap_cons, List.append_assoc]

end Channel

end FlightLink
