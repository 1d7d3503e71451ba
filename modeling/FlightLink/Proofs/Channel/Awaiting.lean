import FlightLink.Proofs.Channel.Chronicle

/-!
# How many events are awaited

A channel counts the events that its packets ask for.  An input can lower the
count: an event that comes back or is given up by one, the end of the connection
to nothing.  Everything that raises it is an action that still has to be carried
out.
-/

namespace FlightLink

open Effect

theorem Effect.countP_actions (effects : List Effect) :
    (actions effects).countP Action.awaitsEvent = (expected effects).length := by
  rw [← awaited_eq_length_expected, awaited]
  induction effects with
  | nil => rfl
  | cons x effects ih =>
      cases x with
      | note n => simpa [actions, Effect.awaitsEvent] using ih
      | action a =>
          have hcons : actions (.action a :: effects) = a :: actions effects := rfl
          rw [hcons, List.countP_cons, List.countP_cons, ih]
          rfl

namespace Channel

/-- How many of `n` events are still awaited when an input has come. -/
def Input.spares : Input → Nat → Nat
  | .connectionChanged false, _ => 0
  | .confirm _, n | .unsent (some _), n => n - 1
  | _, n => n

/-- How many of `n` events are still awaited when inputs have come. -/
def sparedBy (l : List Input) (n : Nat) : Nat :=
  l.foldl (fun n i => i.spares n) n

/-- The outcome awaits `n` events besides those that it asks for. -/
def Outcome.Counts (o : Outcome) (n : Nat) : Prop :=
  o.channel.awaiting = n + (expected o.effects).length

variable {c : Channel} {n : Nat}

theorem Outcome.Counts.andThen {o : Outcome} (h : o.Counts n)
    {next : Channel → Outcome} (hnext : (next o.channel).Counts o.channel.awaiting) :
    (o.andThen next).Counts n := by
  unfold Outcome.Counts at h hnext ⊢
  rw [andThen_channel, andThen_effects, expected_append, List.length_append, hnext,
    h, Nat.add_assoc]

theorem counts_same {effects : List Effect} (hnone : expected effects = []) :
    Outcome.Counts ⟨c, effects⟩ c.awaiting := by
  simp [Outcome.Counts, hnone]

theorem counts_raise (c : Channel) (e : Event) : (c.raise e).Counts c.awaiting :=
  c.raise_awaiting e

theorem counts_dispatch (c : Channel) (m : Message) :
    (c.dispatch m).Counts c.awaiting := by
  unfold Outcome.Counts
  rw [dispatch_channel, expected, packets, collect_dispatch]
  cases c.messageEvent? m with
  | none => simp
  | some e => simpa [expected] using c.raise_awaiting e

theorem counts_settleAll (c : Channel) (l : List Message) :
    (c.settleAll (l.map (·, .dispatched))).Counts c.awaiting := by
  induction l generalizing c with
  | nil => exact counts_same rfl
  | cons m rest ih => exact (c.counts_dispatch m).andThen (ih _)

theorem counts_replay (c : Channel) : c.replay.Counts c.awaiting := by
  rw [replay_eq]
  exact counts_settleAll c _

theorem counts_send (c : Channel) (m : Message) (after? : Option Event) :
    (c.send m after?).Counts c.awaiting :=
  congrArg (c.awaiting + ·) (awaited_eq_length_expected _)

theorem counts_disable (c : Channel) : c.disable.Counts c.awaiting := by
  unfold disable
  split
  · exact counts_same rfl
  · exact counts_same (c := { c with state := .disabled })
      (by simp [expected, entering, TimerKind.all])

theorem counts_obey (c : Channel) (y : Command) : (c.obey y).Counts c.awaiting := by
  cases y with
  | data text =>
      rw [obey]
      split
      · exact counts_send c _ _
      · exact counts_same (by simp [expected])
  | startup =>
      rw [obey]
      split
      · exact counts_send { c with goal := .dataReady } _ _
      · exact counts_same (c := { c with goal := .dataReady }) (by simp [expected])
  | shutdown => exact counts_raise { c with goal := .ready } _
  | disconnect => exact counts_raise c _
  | disable => exact counts_disable c
  | enable =>
      rw [obey]
      split
      · exact counts_same (c := { c with state := .idle }) (by simp [expected])
      · exact counts_same rfl
  | reconfigure settings =>
      rw [obey, reconfigure]
      split
      · exact counts_same (by simp [expected])
      · next config _ =>
          split
          · exact counts_same (by simp [expected])
          · exact counts_same (c := { c with config }) (by simp [expected])

/-- Every step counts the events that its packets ask for. -/
theorem counts_step (c : Channel) (i : Input) :
    (c.step i).Counts (i.spares c.awaiting) := by
  match i with
  | .start =>
      simp only [step, start]
      split
      · exact counts_same (by simp [expected])
      · exact counts_disable c
  | .raise e => exact counts_raise c e
  | .command y => exact counts_obey c y
  | .timerExpired kind =>
      simp only [step, timerExpired]
      split
      · exact (counts_same (by simp [expected])).andThen (counts_raise c _)
      · exact counts_same (by simp [expected])
  | .log severity text => exact counts_same (by simp [expected])
  | .connectionChanged true =>
      simp only [step, connectionChanged, if_true]
      split
      · exact counts_raise c _
      · exact counts_same rfl
  | .connectionChanged false =>
      have hrelease : c.release.Counts 0 := by
        have hnone : expected c.release.effects = [] := by
          rw [expected, packets, collect_release Action.sent? (fun _ => rfl)]
          rfl
        rw [Outcome.Counts, hnone]
        rfl
      have hstep : (c.release.andThen (·.raise .remoteDisconnect)).Counts 0 :=
        hrelease.andThen (counts_raise _ _)
      exact hstep
  | .receive m =>
      simp only [step, receive]
      split
      · exact counts_same (c := { c with held := c.held.push m }) (by simp [expected])
      · exact counts_dispatch c m
  | .confirm e =>
      simp only [step, confirm]
      split
      · next hzero =>
          have hsame : c.awaiting - 1 = c.awaiting := by omega
          rw [Input.spares, hsame]
          exact counts_same (by simp [expected])
      · exact Outcome.Counts.andThen (counts_raise { c with awaiting := c.awaiting - 1 } e)
          (counts_replay _)
  | .unsent none => exact counts_replay c
  | .unsent (some e) =>
      simp only [step, unsent]
      split
      · exact Outcome.Counts.andThen
          (counts_same (c := { c with awaiting := c.awaiting - 1 }) (by simp [expected]))
          (counts_replay _)
      · next hzero =>
          have hsame : c.awaiting - 1 = c.awaiting := by omega
          rw [Input.spares, hsame]
          exact counts_replay c

theorem sparedBy_le (l : List Input) {m k : Nat} (h : m ≤ n + k) :
    sparedBy l m ≤ sparedBy l n + k := by
  induction l generalizing m n with
  | nil => exact h
  | cons i rest ih =>
      have hstep : i.spares m ≤ i.spares n + k := by
        unfold Input.spares
        split <;> omega
      exact ih hstep

theorem sparedBy_le_self (l : List Input) (n : Nat) : sparedBy l n ≤ n := by
  induction l generalizing n with
  | nil => exact Nat.le_refl n
  | cons i rest ih =>
      have hstep : i.spares n ≤ n := by
        unfold Input.spares
        split <;> omega
      exact Nat.le_trans (ih _) hstep

/-- After a run no more events are awaited than have been spared and asked
for. -/
theorem awaiting_stepAll_le (c : Channel) (l : List Input) :
    (c.stepAll l).channel.awaiting ≤
      sparedBy l c.awaiting + (expected (c.stepAll l).effects).length := by
  induction l generalizing c with
  | nil => exact Nat.le_add_right _ _
  | cons i rest ih =>
      have hrest := ih (c.step i).channel
      have hspared : sparedBy rest (c.step i).channel.awaiting ≤
          sparedBy (i :: rest) c.awaiting + (expected (c.step i).effects).length :=
        sparedBy_le rest (Nat.le_of_eq (c.counts_step i))
      rw [stepAll, andThen_effects, expected_append, List.length_append,
        andThen_channel]
      omega

end Channel

end FlightLink
