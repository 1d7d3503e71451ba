import FlightLink.Controller
import FlightLink.Proofs.Channel.Hold

/-!
# Controllers carry out all actions

A controller carries out its actions on an amount of effort that it computes from
them and from the messages on hold.  Every action lowers this amount.  The only
one that leads to further actions is a message that does not fit into a packet.
What this releases is paid for: each message on hold counts for more than all
that acting on it can ask for.  So the effort never gives out.
-/

namespace FlightLink

open Effect

namespace Controller

/-- The effort that actions may take together. -/
def actionsEffort (actions : List Action) : Nat :=
  actions.foldr (fun a n => actionEffort a + n) 0

@[simp] theorem actionsEffort_nil : actionsEffort [] = 0 := rfl

@[simp] theorem actionsEffort_cons (a : Action) (actions : List Action) :
    actionsEffort (a :: actions) = actionEffort a + actionsEffort actions := rfl

@[simp] theorem actionsEffort_append (actions more : List Action) :
    actionsEffort (actions ++ more) = actionsEffort actions + actionsEffort more := by
  induction actions with
  | nil => simp
  | cons a actions ih => simp [ih, Nat.add_assoc]

end Controller

namespace Effect

/-- The effort that the actions among effects may take. -/
def effort (effects : List Effect) : Nat :=
  Controller.actionsEffort (actions effects)

@[simp] theorem effort_nil : effort [] = 0 := rfl

@[simp] theorem effort_append (effects more : List Effect) :
    effort (effects ++ more) = effort effects + effort more := by
  simp [effort]

@[simp] theorem effort_action (a : Action) (effects : List Effect) :
    effort (.action a :: effects) = Controller.actionEffort a + effort effects := by
  simp [effort, actions]

@[simp] theorem effort_note (n : Note) (effects : List Effect) :
    effort (.note n :: effects) = effort effects := by
  simp [effort, actions]

end Effect

namespace Channel

theorem effort_recorded_le (c : Channel) (r : LogRecord) (effects : List Effect) :
    effort (c.recorded r :: effects) ≤ 1 + effort effects := by
  unfold recorded
  split
  · rw [effort_note]
    omega
  · exact Nat.le_of_eq (effort_action _ _)

theorem effort_logged_le (c : Channel) (severity : Severity) (text : String)
    (effects : List Effect) :
    effort (c.logged severity text :: effects) ≤ 1 + effort effects :=
  c.effort_recorded_le _ effects

theorem effort_loggedReceipt_le (c : Channel) (severity : Severity)
    (kind : Packet.Kind) (text : String) (effects : List Effect) :
    effort (c.loggedReceipt severity kind text :: effects) ≤ 1 + effort effects :=
  c.effort_recorded_le _ effects

theorem effort_sending_append_le (c : Channel) (m : Message) (after? : Option Event)
    (effects : List Effect) :
    effort (c.sending m after? ++ effects) ≤ 5 + effort effects := by
  have hrecorded := c.effort_recorded_le
    ((LogRecord.plain c.config.id (c.routine m.isHeartbeat) s!"sending {m.text}").about
      m.kind .outgoing) [.action (.send m after?)]
  have hsend : effort [.action (.send m after?)] = 4 := rfl
  rw [effort_append, sending]
  omega

theorem effort_sending_le (c : Channel) (m : Message) (after? : Option Event) :
    effort (c.sending m after?) ≤ 5 := by
  simpa using c.effort_sending_append_le m after? []

theorem effort_leaving_le (c : Channel) (e : Event) : effort (c.leaving e) ≤ 7 := by
  have hsending : ∀ m after? effects, effort effects ≤ 2 →
      effort (c.sending m after? ++ effects) ≤ 7 := by
    intro m after? effects heffects
    have hle := c.effort_sending_append_le m after? effects
    omega
  unfold leaving
  cases c.state with
  | idle | connectionPending | disabled => dsimp only; decide
  | ready => dsimp only; split <;> decide
  | systemIdPending | idPending | associationPending | dataReady =>
      dsimp only
      split <;> first | exact hsending _ _ _ (by decide) | decide

theorem effort_entering_le (c : Channel) (s : State) : effort (c.entering s) ≤ 5 := by
  unfold entering
  cases s with
  | idle => cases c.config.role <;> dsimp only <;> decide
  | connectionPending => exact c.effort_sending_le _ _
  | ready =>
      dsimp only
      split
      · exact c.effort_sending_le _ _
      · decide
  | systemIdPending | idPending | associationPending | dataReady | disabled =>
      dsimp only
      decide

theorem effort_raise_le (c : Channel) (e : Event) : effort (c.raise e).effects ≤ 13 := by
  unfold raise
  split
  · exact Nat.zero_le _
  · next s hnext =>
      have hchanging : ∀ effects,
          effort (c.changing s e :: effects) ≤ 1 + effort effects := by
        intro effects
        unfold changing
        split
        · rw [noted, effort_note]
          omega
        · exact c.effort_logged_le _ _ _
      have hleaving := c.effort_leaving_le e
      have hentering := c.effort_entering_le s
      have hlater := hchanging (c.entering s ++ [entered s (some e)])
      have hentered : effort [entered s (some e)] = 0 := rfl
      rw [effort_append] at hlater ⊢
      omega

/-- A message on hold counts for more than acting on it can ask for. -/
theorem effort_dispatch_le (c : Channel) (m : Message) :
    effort (c.dispatch m).effects ≤ Controller.messageEffort := by
  have hreceipt := c.effort_loggedReceipt_le
  have hraise := c.effort_raise_le
  have hmismatch : ∀ (e : Event) text, effort (if e = .remoteIdInvalid then
      [c.loggedReceipt .warning .identification text] else []) ≤ 1 := by
    intro e text
    split
    · exact hreceipt _ _ _ []
    · exact Nat.zero_le _
  have hdelivering : ∀ m, effort (c.delivering m) ≤ 2 :=
    fun m => hreceipt .info m.kind s!"received {m.text}" [.action (.deliver m)]
  unfold dispatch
  cases m.kind with
  | identification =>
      simp only [andThen_effects, effort_append]
      exact Nat.le_trans (Nat.add_le_add
        (Nat.add_le_add (hmismatch _ _) (hreceipt _ _ _ [])) (hraise _)) (by decide)
  | system =>
      cases systemEvent? m.text with
      | none => exact Nat.le_trans (hreceipt _ _ _ []) (by decide)
      | some e =>
          simp only [andThen_effects, effort_append]
          exact Nat.le_trans (Nat.add_le_add (hreceipt _ _ _ []) (hraise e)) (by decide)
  | operational =>
      simp only [andThen_effects, effort_append]
      exact Nat.le_trans (Nat.add_le_add (hdelivering m) (hraise _)) (by decide)
  | operator | status | unknown => exact Nat.le_trans (hdelivering m) (by decide)

/-- The effort that an outcome may take with all that it leaves on hold. -/
def Outcome.effort (o : Outcome) : Nat :=
  Effect.effort o.effects + Controller.messageEffort * o.channel.held.size

theorem Outcome.effort_andThen (o : Outcome) (next : Channel → Outcome) :
    (o.andThen next).effort = Effect.effort o.effects + (next o.channel).effort := by
  rw [Outcome.effort, andThen_effects, effort_append, Nat.add_assoc]
  rfl

theorem effort_settleAll_le (c : Channel) (l : List Message) :
    Effect.effort (c.settleAll (l.map (·, .dispatched))).effects ≤
      Controller.messageEffort * l.length := by
  induction l generalizing c with
  | nil => exact Nat.zero_le _
  | cons m rest ih =>
      have hfirst := c.effort_dispatch_le m
      have hrest := ih (c.dispatch m).channel
      rw [List.map_cons, settleAll, andThen_effects, effort_append, List.length_cons,
        Nat.mul_succ]
      exact Nat.le_trans (Nat.add_le_add hfirst hrest) (Nat.le_of_eq (Nat.add_comm _ _))

/-- A replay is paid for by the messages that it acts on. -/
theorem effort_replay_le (c : Channel) :
    c.replay.effort ≤ Controller.messageEffort * c.held.size := by
  have hsettled := c.effort_settleAll_le (c.replayed c.held.toList)
  have hlength := congrArg List.length (c.replayed_append_drop c.held.toList)
  rw [List.length_append] at hlength
  rw [Outcome.effort, replay_eq]
  simp only [← Array.length_toList, ← hlength, Nat.mul_add]
  exact Nat.add_le_add_right hsettled _

theorem effort_unsent_le (c : Channel) (after? : Option Event) :
    (c.unsent after?).effort ≤ 1 + Controller.messageEffort * c.held.size := by
  have hreplay : ∀ c' : Channel, c'.held = c.held →
      c'.replay.effort ≤ Controller.messageEffort * c.held.size := by
    intro c' hheld
    rw [← hheld]
    exact c'.effort_replay_le
  have hsame := Nat.le_trans (hreplay c rfl) (Nat.le_add_left _ 1)
  cases after? with
  | none => exact hsame
  | some e =>
      simp only [unsent]
      split
      · have hlogged := c.effort_logged_le .warning
          s!"packet not sent, {e.name} not raised" []
        rw [Outcome.effort_andThen]
        exact Nat.add_le_add hlogged (hreplay { c with awaiting := c.awaiting - 1 } rfl)
      · exact hsame

end Channel

namespace Controller

theorem effort_eq (c : Controller) :
    c.effort = actionsEffort c.pending.toList + messageEffort * c.channel.held.size := rfl

theorem effort_absorb (c : Controller) (o : Channel.Outcome) :
    (c.absorb o).1.effort = actionsEffort c.pending.toList + o.effort := by
  rw [effort_eq, absorb, Fifo.toList_append, actionsEffort_append, Nat.add_assoc]
  rfl

/-- Carrying out an action takes effort. -/
theorem effort_perform_lt (c : Controller) (now : Nat) (a : Action) :
    (c.perform now a).1.effort < c.effort + actionEffort a := by
  have horder : ∀ (c : Controller) o, (c.order o).1.effort = c.effort := by
    intro c o
    unfold order
    split <;> rfl
  have hpos : ∀ c' : Controller, c'.effort = c.effort → 0 < actionEffort a →
      c'.effort < c.effort + actionEffort a := by
    intro c' hsame hcost
    omega
  cases a with
  | send m after? =>
      simp only [perform]
      split
      · exact hpos _ (horder c _) (Nat.succ_pos 3)
      · next fault _ =>
          have hlogged := c.channel.effort_logged_le .error
            s!"cannot send {m.describe}: {fault.message}" []
          have hunsent := c.channel.effort_unsent_le after?
          have hsend : actionEffort (.send m after?) = 4 := rfl
          rw [effort_absorb, effort_eq c, hsend, Channel.Outcome.effort_andThen]
          rw [effort_nil] at hlogged
          dsimp only
          omega
  | restartTimer kind | stopTimer kind | deliver m | log r => exact hpos _ rfl Nat.one_pos
  | reconnect | disconnect | halt => exact hpos _ (horder c _) Nat.one_pos
  | reconfigure =>
      have hsame := horder { c with timers := c.timers.reconfigure c.channel.config }
        (.reconfigure c.channel.config.endpoint)
      refine hpos _ ?_ Nat.one_pos
      simp only [perform]
      split <;> exact hsame

theorem effort_performNext?_lt {c : Controller} {now : Nat} {r : Result}
    (h : c.performNext? now = some r) : r.1.effort < c.effort := by
  unfold performNext? at h
  split at h
  · cases h
  · split at h
    · cases h
    · next a rest hpop =>
        obtain rfl := Option.some.inj h
        have hperform := effort_perform_lt { c with pending := rest } now a
        rw [effort_eq c, Fifo.toList_of_pop? hpop, actionsEffort_cons]
        rw [effort_eq { c with pending := rest }] at hperform
        dsimp only at hperform ⊢
        omega

theorem performNext?_executeOnto {now fuel : Nat} {done : List Output} {c : Controller}
    (h : c.effort ≤ fuel) : (executeOnto now fuel done c).1.performNext? now = none := by
  -- Every action takes effort, so what is left suffices after each of them.
  induction fuel generalizing done c with
  | zero =>
      cases hnext : c.performNext? now with
      | none => exact hnext
      | some r =>
          have hlt := effort_performNext?_lt hnext
          omega
  | succ fuel ih =>
      rw [executeOnto]
      split
      · next hnone => exact hnone
      · next c' outputs hnext =>
          have hlt := effort_performNext?_lt hnext
          exact ih (by dsimp only at hlt; omega)

/-- A controller carries out all actions, unless its run comes to its end. -/
theorem pending_execute (c : Controller) (now : Nat)
    (hgoes : (c.execute now).1.ending? = none) :
    (c.execute now).1.pending.toList = [] := by
  have hnext : (c.execute now).1.performNext? now = none :=
    performNext?_executeOnto (Nat.le_refl c.effort)
  rw [← Fifo.pop?_eq_none_iff]
  cases hpop : (c.execute now).1.pending.pop? with
  | none => rfl
  | some p => simp [performNext?, hgoes, hpop] at hnext

end Controller

end FlightLink
