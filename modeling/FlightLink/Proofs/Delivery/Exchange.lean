import FlightLink.Proofs.Channel.Awaiting
import FlightLink.Proofs.Channel.Connection
import FlightLink.Proofs.Channel.Course
import FlightLink.Proofs.Conversation.Reassociation

/-!
# Channels that exchange data

A channel that exchanges data goes on doing so while nobody ends the association
and the connection lasts.  What it sends is given away by its inputs: the data of
the application, and a heartbeat when nothing has been sent for too long.  Nothing
that it receives makes it send anything, so messages on hold can be acted on at
any time, and each payload received is delivered or on hold.
-/

namespace FlightLink

/-! ## Records about headers -/

/-- Whether a text is that of a fault about a header. -/
def BlamesHeader (text : String) : Prop :=
  ∃ header, text = (Fault.invalidHeader header).message

/-- The first two characters tell that a text is about something else. -/
theorem not_blamesHeader {text : String} (h : text.toList.take 2 ≠ ['i', 'n']) :
    ¬BlamesHeader text := by
  rintro ⟨header, hheader⟩
  have hmessage : (Fault.invalidHeader header).message =
      "invalid FMTP header [" ++ (", ".intercalate (header.map Text.hexByte) ++ "]") :=
    String.append_assoc
  have hlong : 2 ≤ "invalid FMTP header [".toList.length := by decide
  have hstart : "invalid FMTP header [".toList.take 2 = ['i', 'n'] := by decide
  apply h
  rw [hheader, hmessage, String.toList_append, List.take_append_of_le_length hlong, hstart]

theorem not_blamesHeader_append {start : String} (h : start.toList.take 2 ≠ ['i', 'n'])
    (hlong : 2 ≤ start.toList.length) (rest : String) : ¬BlamesHeader (start ++ rest) := by
  apply not_blamesHeader
  rwa [String.toList_append, List.take_append_of_le_length hlong]

/-- Whether an action is one of a channel that exchanges data.  On a sound
connection no record is about a header. -/
def Action.IsExchange (sound : Prop) : Action → Prop
  | send _ _ | restartTimer _ | stopTimer _ | deliver _ => True
  | log r => sound → ¬BlamesHeader r.text
  | reconnect | disconnect | halt | reconfigure => False

namespace Channel

open Effect

/-- Whether a channel can exchange data all the same after an input. -/
def Input.IsExchange (sound : Prop) : Input → Prop
  | .command (.data _) | .command .startup | .timerExpired .send | .unsent _ => True
  | .confirm e => e.isAsked
  | .receive m => m ≠ .shutdown
  | .log _ text => sound → ¬BlamesHeader text
  | _ => False

/-- The packets that an input makes a channel send that exchanges data. -/
def Input.sends : Input → List (Message × Option Event)
  | .command (.data text) => [(.operational text, some .localData)]
  | .timerExpired .send => [(.heartbeat, none)]
  | _ => []

/-- A channel that exchanges data and is not about to learn that the peer has
ended the association. -/
structure Exchanging (c : Channel) : Prop where
  state : c.state = .dataReady
  holds : c.HoldsInOrder
  held : ∀ m ∈ c.held.toList, m ≠ .shutdown

/-- An outcome after which the channel still exchanges data. -/
structure Outcome.Exchanges (sound : Prop) (c : Channel) (sent : List (Message × Option Event))
    (o : Outcome) : Prop where
  state : o.channel.state = .dataReady
  config : o.channel.config = c.config
  actions : ∀ a ∈ actions o.effects, a.IsExchange sound
  packets : packets o.effects = sent

variable {sound : Prop} {c c' : Channel}

namespace Outcome.Exchanges

theorem andThen {o : Outcome} {sent sent' : List (Message × Option Event)}
    (h : o.Exchanges sound c sent) (next : Channel → Outcome)
    (hnext : (next o.channel).Exchanges sound o.channel sent') :
    (o.andThen next).Exchanges sound c (sent ++ sent') := by
  refine ⟨hnext.state, hnext.config.trans h.config, ?_, ?_⟩
  · intro a ha
    rw [andThen_effects, actions_append] at ha
    exact (List.mem_append.mp ha).elim (h.actions a) (hnext.actions a)
  · rw [andThen_effects, Effect.packets, collect_append]
    exact congrArg₂ _ h.packets hnext.packets

theorem noted (hstate : c'.state = .dataReady) (hconfig : c'.config = c.config)
    (notes : List Note) : Exchanges sound c [] ⟨c', notes.map .note⟩ := by
  have hnone : Effect.actions (notes.map .note) = [] := by
    induction notes with
    | nil => rfl
    | cons n notes ih => exact ih
  refine ⟨hstate, hconfig, ?_, ?_⟩
  · rw [hnone]
    exact List.forall_mem_nil _
  · rw [Effect.packets, collect, hnone]
    rfl

theorem recorded (hstate : c'.state = .dataReady) (hconfig : c'.config = c.config)
    {r : LogRecord} (hr : sound → ¬BlamesHeader r.text) :
    Exchanges sound c [] ⟨c', [c.recorded r]⟩ := by
  refine ⟨hstate, hconfig, ?_, collect_recorded rfl c []⟩
  intro a ha
  unfold Channel.recorded at ha
  split at ha
  · cases ha
  · obtain rfl := List.mem_singleton.mp ha
    exact hr

theorem recorded_action (hstate : c'.state = .dataReady) (hconfig : c'.config = c.config)
    {r : LogRecord} (hr : sound → ¬BlamesHeader r.text) {a : Action}
    (ha : a.IsExchange sound) :
    Exchanges sound c a.sent?.toList ⟨c', [c.recorded r, .action a]⟩ := by
  have haction : Exchanges sound c' a.sent?.toList ⟨c', [.action a]⟩ := by
    refine ⟨hstate, rfl, ?_, ?_⟩
    · intro b hb
      obtain rfl := List.mem_singleton.mp hb
      exact ha
    · rw [Effect.packets, collect_action, collect_nil, List.append_nil]
  exact (recorded hstate hconfig hr).andThen (⟨·, [.action a]⟩) haction

end Outcome.Exchanges

/-! ## Parts of a step -/

theorem not_blamesHeader_sending (text : String) : ¬BlamesHeader s!"sending {text}" :=
  not_blamesHeader_append (by decide) (by decide) text

theorem not_blamesHeader_received (text : String) : ¬BlamesHeader s!"received {text}" :=
  not_blamesHeader_append (by decide) (by decide) text

theorem exchanges_sending (hstate : c'.state = .dataReady) (hconfig : c'.config = c.config)
    (m : Message) (after? : Option Event) :
    Outcome.Exchanges sound c [(m, after?)] ⟨c', c.sending m after?⟩ :=
  .recorded_action hstate hconfig (fun _ => not_blamesHeader_sending m.text)
    (a := .send m after?) trivial

/-- Nothing is asked for on leaving the state that ends the exchange by itself. -/
theorem isExchange_leaving (hstate : c.state = .dataReady) (e : Event) :
    ∀ a ∈ actions (c.leaving e), a.IsExchange sound := by
  have hsending : ∀ m, ∀ kinds : List Effect,
      (∀ a ∈ actions kinds, a.IsExchange sound) →
      ∀ a ∈ actions (c.sending m none ++ kinds), a.IsExchange sound := by
    intro m kinds hkinds a ha
    rw [actions_append] at ha
    exact (List.mem_append.mp ha).elim
      ((exchanges_sending hstate rfl m none).actions a) (hkinds a)
  unfold leaving
  rw [hstate]
  dsimp only
  split
  · exact hsending _ _ (by simp [actions, stopping, Action.IsExchange])
  · exact hsending _ _ (by simp [actions, stopping, Action.IsExchange])
  · simp [actions, stopping, Action.IsExchange]
  · simp [actions, stopping, Action.IsExchange]
  · simp [actions, restarting, Action.IsExchange]
  · exact hsending _ _ (by simp [actions, restarting, Action.IsExchange])
  · simp [actions, restarting, Action.IsExchange]
  · simp [actions, restarting, Action.IsExchange]
  · simp [actions, restarting, stopping, Action.IsExchange]
  · exact List.forall_mem_nil _

/-- An event that leads nowhere else. -/
theorem exchanges_raise (hstate : c.state = .dataReady) {e : Event}
    {sent : List (Message × Option Event)}
    (hnext : c.next? e = none ∧ sent = [] ∨ c.next? e = some .dataReady ∧
      State.dataReady.leavingPackets c.ownIdentification e = sent) :
    (c.raise e).Exchanges sound c sent := by
  rcases hnext with ⟨hignored, rfl⟩ | ⟨hstays, rfl⟩
  · rw [raise_of_ignored hignored]
    exact .noted hstate rfl [_]
  · have hactions : actions (c.raise e).effects = actions (c.leaving e) := by
      have hchanging : c.changing .dataReady e =
          c.noted .debug s!"{e.name} in {State.dataReady.name}" := if_pos hstate
      rw [raise, hstays]
      dsimp only
      rw [actions_append, hchanging]
      exact List.append_nil _
    refine ⟨?_, raise_config c e, ?_, ?_⟩
    · rw [raise_state, hstays]
      rfl
    · rw [hactions]
      exact isExchange_leaving hstate e
    · rw [packets_raise, hstays, hstate]
      exact List.append_nil _

/-- Events that come back and events of the peer send nothing. -/
theorem exchanges_raise_of_asked (hstate : c.state = .dataReady) {e : Event}
    (he : e.isAsked) : (c.raise e).Exchanges sound c [] := by
  apply exchanges_raise hstate
  rw [next?, hstate]
  cases c.role <;> cases e <;> first | exact .inl ⟨rfl, rfl⟩ | exact .inr ⟨rfl, rfl⟩ | cases he

theorem exchanges_raise_of_peers (hstate : c.state = .dataReady) {e : Event}
    (he : e.isPeers) (hdown : e ≠ .remoteShutdown) : (c.raise e).Exchanges sound c [] := by
  apply exchanges_raise hstate
  rw [next?, hstate]
  have hleads : Table.next? c.role .dataReady e = none ∨
      Table.next? c.role .dataReady e = some .dataReady :=
    Table.next?_dataReady_of_isPeers he hdown
  rcases hleads with hnext | hnext
  · exact .inl ⟨hnext, rfl⟩
  · refine .inr ⟨hnext, ?_⟩
    cases e <;> first | rfl | cases he

/-! ## Messages -/

/-- Whatever the peer sends, except that it ends the association. -/
theorem exchanges_dispatch (hstate : c.state = .dataReady) {m : Message} (hm : m ≠ .shutdown) :
    (c.dispatch m).Exchanges sound c [] := by
  have hraise : ∀ e, c.messageEvent? m = some e → (c.raise e).Exchanges sound c [] := by
    intro e he
    exact exchanges_raise_of_peers hstate (messageEvent?_spec he).1 fun hdown =>
      hm ((eq_of_messageEvent? he).2 hdown)
  have hreceipt : ∀ severity {text : String}, ¬BlamesHeader text →
      Outcome.Exchanges sound c [] ⟨c, [c.loggedReceipt severity m.kind text]⟩ :=
    fun severity _ htext => .recorded hstate rfl fun _ => htext
  have hdelivering : Outcome.Exchanges sound c [] ⟨c, c.delivering m⟩ :=
    .recorded_action hstate rfl (fun _ => not_blamesHeader_received m.text)
      (a := .deliver m) trivial
  unfold messageEvent? at hraise
  unfold dispatch
  cases hkind : m.kind with
  | identification =>
      rw [hkind] at hraise hreceipt
      have hreceived := hreceipt .info (not_blamesHeader_received m.text)
      dsimp only
      split
      · refine ((hreceipt .warning ?_).andThen (⟨·, _⟩) hreceived).andThen
          (·.raise _) (hraise _ rfl)
        simp only [String.append_assoc]
        exact not_blamesHeader_append (by decide) (by decide) _
      · exact hreceived.andThen (·.raise _) (hraise _ rfl)
  | system =>
      rw [hkind] at hraise hreceipt
      dsimp only at hraise ⊢
      cases he : systemEvent? m.text with
      | none =>
          apply hreceipt .warning
          simp only [String.append_assoc]
          exact not_blamesHeader_append (by decide) (by decide) _
      | some e =>
          exact (hreceipt _ (not_blamesHeader_received e.name)).andThen (·.raise e)
            (hraise e he)
  | operational =>
      rw [hkind] at hraise
      exact hdelivering.andThen (·.raise .remoteData) (hraise _ rfl)
  | operator | status | unknown => exact hdelivering

theorem exchanges_settleAll (hstate : c.state = .dataReady) {l : List Message}
    (hl : ∀ m ∈ l, m ≠ .shutdown) :
    (c.settleAll (l.map (·, .dispatched))).Exchanges sound c [] := by
  induction l generalizing c with
  | nil => exact .noted hstate rfl []
  | cons m rest ih =>
      have hfirst : (c.dispatch m).Exchanges sound c [] :=
        exchanges_dispatch hstate (hl m List.mem_cons_self)
      exact hfirst.andThen _ (ih hfirst.state fun m hm => hl m (List.mem_cons_of_mem _ hm))

theorem exchanges_replay (hstate : c.state = .dataReady)
    (hheld : ∀ m ∈ c.held.toList, m ≠ .shutdown) : c.replay.Exchanges sound c [] := by
  have hreplayed : ∀ m ∈ c.replayed c.held.toList, m ≠ .shutdown := by
    intro m hm
    apply hheld
    rw [← c.replayed_append_drop c.held.toList]
    exact List.mem_append_left _ hm
  have hsettled : (c.settleAll ((c.replayed c.held.toList).map (·, .dispatched))).Exchanges
      sound c [] :=
    exchanges_settleAll hstate hreplayed
  obtain ⟨hafter, hconfig, hactions, hpackets⟩ := hsettled
  rw [replay_eq]
  exact ⟨hafter, hconfig, hactions, hpackets⟩

/-! ## Steps -/

theorem exchanges_confirm (h : c.Exchanging) {e : Event} (he : e.isAsked) :
    (c.confirm e).Exchanges sound c [] := by
  by_cases hawait : c.awaiting = 0
  · rw [confirm, if_pos hawait]
    exact .noted h.state rfl [_]
  · have hraise : (raise { c with awaiting := c.awaiting - 1 } e).Exchanges sound
        { c with awaiting := c.awaiting - 1 } [] :=
      exchanges_raise_of_asked (c := { c with awaiting := c.awaiting - 1 }) h.state he
    have hheld : ∀ m ∈ (raise { c with awaiting := c.awaiting - 1 } e).channel.held.toList,
        m ≠ .shutdown := by
      rw [raise_held]
      exact h.held
    obtain ⟨hstate, hconfig, hactions, hpackets⟩ :=
      hraise.andThen replay (exchanges_replay hraise.state hheld)
    rw [confirm_eq_andThen_replay hawait]
    exact ⟨hstate, hconfig, hactions, hpackets⟩

theorem exchanges_unsent (h : c.Exchanging) (after? : Option Event) :
    (c.unsent after?).Exchanges sound c [] := by
  cases after? with
  | none => exact exchanges_replay h.state h.held
  | some e =>
      rw [unsent]
      split
      · have htext : ¬BlamesHeader s!"packet not sent, {e.name} not raised" := by
          simp only [String.append_assoc]
          exact not_blamesHeader_append (by decide) (by decide) _
        have hrecord : Outcome.Exchanges sound c []
            ⟨{ c with awaiting := c.awaiting - 1 },
              [c.logged .warning s!"packet not sent, {e.name} not raised"]⟩ :=
          .recorded (by exact h.state) (by rfl) fun _ => htext
        exact hrecord.andThen replay (exchanges_replay h.state h.held)
      · exact exchanges_replay h.state h.held

theorem exchanges_step (h : c.Exchanging) {i : Input} (hi : i.IsExchange sound) :
    (c.step i).Exchanges sound c i.sends := by
  cases i with
  | command y =>
      cases y with
      | data text =>
          have hsending : Outcome.Exchanges sound c [(.operational text, some .localData)]
              ⟨c, c.sending (.operational text) (some .localData)⟩ :=
            exchanges_sending h.state rfl _ _
          rw [step, obey, if_pos h.state]
          exact ⟨h.state, rfl, hsending.actions, hsending.packets⟩
      | startup =>
          have hready : c.state ≠ .ready := by
            rw [h.state]
            decide
          rw [step, obey]
          simp only [if_neg hready]
          exact .noted (by exact h.state) (by rfl) [_]
      | _ => cases hi
  | timerExpired kind =>
      cases kind with
      | send =>
          have hnext : c.next? .sendTimeout = some .dataReady := by
            rw [next?, h.state]
            cases c.role <;> rfl
          have hraise : (c.raise .sendTimeout).Exchanges sound c [(.heartbeat, none)] :=
            exchanges_raise h.state (.inr ⟨hnext, rfl⟩)
          have hexpired : Outcome.Exchanges sound c []
              ⟨c, [c.noted .debug s!"{TimerKind.send.name} expired"]⟩ :=
            .noted h.state rfl [_]
          exact hexpired.andThen (·.raise .sendTimeout) hraise
      | _ => cases hi
  | unsent after? => exact exchanges_unsent h after?
  | confirm e => exact exchanges_confirm h hi
  | receive m =>
      rw [step, receive]
      split
      · exact .noted (by exact h.state) (by rfl) [_]
      · exact exchanges_dispatch h.state hi
  | log severity text => exact .recorded h.state rfl hi
  | _ => cases hi

/-- A step settles or keeps what is on hold and what arrives. -/
theorem mem_held_step (hc : c.HoldsInOrder) (i : Input) {m : Message}
    (hm : m ∈ (c.step i).channel.held.toList) : m ∈ c.held.toList ++ i.arrivals := by
  rw [held_step hc] at hm
  rw [← settled_append_kept hc i]
  exact List.mem_append_right _ hm

theorem Exchanging.step (h : c.Exchanging) {i : Input} (hi : i.IsExchange sound) :
    (c.step i).channel.Exchanging := by
  refine ⟨(exchanges_step h hi).state, holdsInOrder_step h.holds i, ?_⟩
  intro m hm
  rcases List.mem_append.mp (mem_held_step h.holds i hm) with hheld | harrives
  · exact h.held m hheld
  · cases i with
    | receive m' =>
        obtain rfl := List.mem_singleton.mp harrives
        exact hi
    | _ => cases harrives

def heldPayloads (c : Channel) : List Message :=
  c.held.toList.filter Message.isPayload

/-- The payloads delivered in a step and those then on hold are those that were
on hold and those that arrive. -/
theorem deliveries_append_heldPayloads (hc : c.HoldsInOrder) (i : Input) :
    deliveries (c.step i).effects ++ (c.step i).channel.heldPayloads =
      c.heldPayloads ++ i.arrivals.filter Message.isPayload := by
  rw [deliveries_step hc, heldPayloads, held_step hc, heldPayloads, ← List.filter_append,
    ← List.filter_append, settled_append_kept hc]

/-! ## Runs -/

theorem Exchanging.stepAll (h : c.Exchanging) {l : List Input}
    (hl : ∀ i ∈ l, i.IsExchange sound) : (c.stepAll l).channel.Exchanging := by
  induction l generalizing c with
  | nil => exact h
  | cons i rest ih =>
      exact ih (h.step (hl i List.mem_cons_self)) fun j hj => hl j (List.mem_cons_of_mem _ hj)

theorem exchanges_stepAll (h : c.Exchanging) {l : List Input}
    (hl : ∀ i ∈ l, i.IsExchange sound) :
    (c.stepAll l).Exchanges sound c (l.flatMap Input.sends) := by
  induction l generalizing c with
  | nil => exact .noted h.state rfl []
  | cons i rest ih =>
      have hi := hl i List.mem_cons_self
      exact (exchanges_step h hi).andThen (·.stepAll rest)
        (ih (h.step hi) fun j hj => hl j (List.mem_cons_of_mem _ hj))

theorem deliveries_append_heldPayloads_stepAll (hc : c.HoldsInOrder) (l : List Input) :
    deliveries (c.stepAll l).effects ++ (c.stepAll l).channel.heldPayloads =
      c.heldPayloads ++ (l.flatMap Input.arrivals).filter Message.isPayload := by
  induction l generalizing c with
  | nil => exact (List.append_nil _).symm
  | cons i rest ih =>
      have hstep := deliveries_append_heldPayloads hc i
      have hrest := ih (holdsInOrder_step hc i)
      rw [stepAll, andThen_effects, deliveries, collect_append, andThen_channel,
        List.append_assoc, hrest, ← List.append_assoc, hstep, List.flatMap_cons,
        List.filter_append, List.append_assoc]

end Channel

end FlightLink
