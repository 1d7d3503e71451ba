import FlightLink.Proofs.Controller.Execution
import FlightLink.Proofs.Delivery.Line
import FlightLink.Proofs.Upkeep.Vigil

/-!
# Two controllers as a conversation

Two controllers exchange bytes, but if every packet can be framed, what is on its way
to a side is a list of messages.  Whatever a controller takes in, its turn is a step
of its channel in the conversation: the messages that arrived whole are taken from
the inbox, the packets are put into the inbox of the other side, and the arms of the
timers are replaced as the channel orders.
-/

namespace FlightLink

open Framing Channel Effect

/-- A message that fits into one packet and is found in it again. -/
structure Message.IsPosted (m : Message) : Prop where
  kind : m.kind ≠ .unknown
  text : m.text ≠ ""
  encoded : ∃ bytes, m.encode .utf8 = .ok bytes

/-! ## Messages in bytes -/

namespace Framing

variable {stream : List UInt8}

/-- A message at the end of a stream of packets. -/
theorem Whole.append_encode (h : Whole stream) {m : Message} (hm : m.IsPosted)
    {bytes : List UInt8} (hbytes : m.encode .utf8 = .ok bytes) :
    messages (stream ++ bytes) = messages stream ++ [m] ∧ Whole (stream ++ bytes) := by
  obtain ⟨rfl, hlength⟩ := bytes_of_encode hbytes
  have hframable : Packet.IsFramable ⟨m.kind, Charset.utf8.encode m.text⟩ :=
    ⟨hm.kind, length_encode_pos hm.text, hlength⟩
  have hcuts := cutAll_append_cutAll stream
    (Packet.bytes ⟨m.kind, Charset.utf8.encode m.text⟩)
  rw [h.rest, List.nil_append, cutAll_bytes hframable] at hcuts
  refine ⟨?_, ?_, ?_⟩
  · rw [messages, hcuts, precede, List.filterMap_append]
    congr 1
    show [Message.ofPacket .utf8 ⟨m.kind, Charset.utf8.encode m.text⟩] = [m]
    rw [ofPacket_encode]
  · rw [hcuts]
    rfl
  · intro x hx
    rw [hcuts] at hx
    rcases List.mem_append.mp hx with hold | hnew
    · exact h.cuts x hold
    · exact ⟨_, List.mem_singleton.mp hnew⟩

/-- A part of a stream of packets that has been cut, and what is left of it. -/
theorem Whole.split {first rest : List UInt8} (h : Whole (first ++ rest)) :
    messages (first ++ rest) =
        (cutAll first).1.filterMap Cut.message? ++ messages ((cutAll first).2 ++ rest) ∧
      Whole ((cutAll first).2 ++ rest) ∧
      ∀ x ∈ (cutAll first).1, ∃ p, x = .packet p := by
  have hcuts := cutAll_append_cutAll first rest
  refine ⟨?_, ⟨?_, ?_⟩, ?_⟩
  · rw [messages, hcuts]
    exact List.filterMap_append
  · rw [← h.rest, hcuts]
    rfl
  · intro x hx
    apply h.cuts
    rw [hcuts]
    exact List.mem_append_right _ hx
  · intro x hx
    apply h.cuts
    rw [hcuts]
    exact List.mem_append_left _ hx

/-- Packets are messages for the channel and nothing else. -/
theorem inputs_of_packets {cuts : List Cut} (h : ∀ x ∈ cuts, ∃ p, x = .packet p) :
    cuts.flatMap (Cut.inputs .utf8) = (cuts.filterMap Cut.message?).map .receive := by
  induction cuts with
  | nil => rfl
  | cons x rest ih =>
      obtain ⟨⟨p, rfl⟩, hrest⟩ := List.forall_mem_cons.mp h
      rw [List.flatMap_cons, ih hrest]
      rfl

theorem whole_nil : Whole [] := by
  constructor
  · rw [cutAll_nil]
  · rw [cutAll_nil]
    exact nofun

end Framing

namespace Controller

/-- Packets that can be framed are handed over, and become messages at the end of the
stream. -/
theorem parcelsOf_spec {sent : List (Message × Option Event)}
    (hsent : ∀ p ∈ sent, p.1.IsPosted) {stream : List UInt8} (h : Whole stream) :
    let bytes := (parcelsOf sent).flatMap (·.bytes.data.toList)
    replies (parcelsOf sent) = sent.filterMap Prod.snd ∧
      messages (stream ++ bytes) = messages stream ++ sent.map Prod.fst ∧
      Whole (stream ++ bytes) := by
  induction sent generalizing stream with
  | nil => exact ⟨rfl, by simp [parcelsOf], by simpa [parcelsOf] using h⟩
  | cons p rest ih =>
      obtain ⟨m, after?⟩ := p
      obtain ⟨hm, hrest⟩ := List.forall_mem_cons.mp hsent
      obtain ⟨bytes, hbytes⟩ := hm.encoded
      obtain ⟨hmessages, hwhole⟩ := h.append_encode hm hbytes
      obtain ⟨hreplies, hall, hwholeAll⟩ := ih hrest hwhole
      have hparcels : parcelsOf ((m, after?) :: rest) =
          ⟨⟨bytes.toArray⟩, after?⟩ :: parcelsOf rest := by
        have hone : parcelsOf [(m, after?)] = [⟨⟨bytes.toArray⟩, after?⟩] :=
          parcelsOf_of_ok hbytes
        rw [← List.singleton_append, parcelsOf_append, hone]
        rfl
      rw [hparcels]
      simp only [List.flatMap_cons, ← List.append_assoc]
      refine ⟨?_, ?_, hwholeAll⟩
      · rw [replies, List.filterMap_cons, List.filterMap_cons]
        dsimp only
        rw [← replies, hreplies]
      · rw [hall, hmessages, List.map_cons, List.append_assoc]
        rfl

end Controller

namespace Channel

/-- What a channel sends apart from data can be framed if its identification can. -/
theorem Utters.isPosted {c : Channel} (hown : c.ownIdentification.IsPosted) {m : Message}
    (h : c.Utters m) : m.IsPosted := by
  have hfixed : ∀ m ∈ [Message.accept, .reject, .startup, .shutdown, .heartbeat],
      m.kind ≠ .unknown ∧ m.text ≠ "" ∧ (m.encode .utf8).isOk = true := by
    decide +kernel
  rcases List.mem_cons.mp h with rfl | h
  · exact hown
  · obtain ⟨hkind, htext, hencoded⟩ := hfixed m h
    refine ⟨hkind, htext, ?_⟩
    cases hbytes : m.encode .utf8 with
    | ok bytes => exact ⟨bytes, rfl⟩
    | error fault =>
        rw [hbytes] at hencoded
        cases hencoded

end Channel

/-- Nothing is awaited in vain if all packets can be framed. -/
theorem lost_eq_zero {effects : List Effect}
    (h : ∀ p ∈ packets effects, p.1.IsPosted) : lost (actions effects) = 0 := by
  apply List.countP_eq_zero.mpr
  intro a ha hlost
  cases a with
  | send m after? =>
      cases after? with
      | none => cases hlost
      | some e =>
          have hp : (m, some e) ∈ packets effects :=
            List.mem_filterMap.mpr ⟨_, ha, rfl⟩
          obtain ⟨bytes, hbytes⟩ := (h _ hp).encoded
          simp [Action.isLost, hbytes, Except.isOk, Except.toBool] at hlost
  | _ => cases hlost

/-- The event of a packet that is too long is the only one that is awaited in vain. -/
theorem Channel.lost_sending (c : Channel) {m : Message} {fault : Fault}
    (h : m.encode .utf8 = .error fault) (e : Event) :
    lost (actions (c.sending m (some e))) = 1 := by
  have hlost : (Action.send m (some e)).isLost := by
    simp [Action.isLost, h, Except.isOk, Except.toBool]
  rw [sending, recorded]
  split
  · exact List.countP_cons_of_pos hlost
  · refine (List.countP_cons_of_neg ?_).trans (List.countP_cons_of_pos hlost)
    exact Bool.false_ne_true

/-! ## Ends of a connection -/

/-- The end of a connection between turns.  What is on its way to it consists of
packets. -/
structure Terminal.Orderly (t : Terminal) : Prop where
  controller : t.controller.Settled
  drained : (cutAll t.controller.received).1 = []
  whole : Whole t.stream

/-- Packets get on their way to an end. -/
theorem Terminal.Orderly.convey {t : Terminal} (h : t.Orderly)
    {sent : List (Message × Option Event)} (hsent : ∀ p ∈ sent, p.1.IsPosted) :
    (t.convey (Controller.parcelsOf sent)).Orderly ∧
      messages (t.convey (Controller.parcelsOf sent)).stream =
        messages t.stream ++ sent.map Prod.fst := by
  obtain ⟨-, hmessages, hwhole⟩ := Controller.parcelsOf_spec hsent h.whole
  have hstream : (t.convey (Controller.parcelsOf sent)).stream = t.stream ++
      (Controller.parcelsOf sent).flatMap (·.bytes.data.toList) :=
    (List.append_assoc _ _ _).symm
  rw [hstream]
  exact ⟨⟨h.controller, h.drained, hstream ▸ hwhole⟩, hmessages⟩

namespace Line

variable {v : Line} {r : Role} {t : Terminal} {now : Nat} {i : Controller.Input}

/-- The conversation that two controllers lead. -/
def conversation (v : Line) : Conversation := fun r =>
  ⟨(v r).controller.channel, messages (v r).stream, (v r).owed⟩

/-- A side takes an input once something has been taken from it, and its packets get
on their way. -/
def answer (v : Line) (r : Role) (t : Terminal) (now : Nat) (i : Controller.Input) : Line :=
  let (t, sent) := t.respond now i
  fun s => if s = r then t else (v s).convey sent

theorem next_eq (v : Line) (move : Move) :
    v.next move =
      match (v move.role).meet? move.stimulus with
      | none => v
      | some (i, t) => v.answer move.role t move.now i := rfl

theorem answer_self (v : Line) (r : Role) (t : Terminal) (now : Nat)
    (i : Controller.Input) : v.answer r t now i r = (t.respond now i).1 :=
  if_pos rfl

theorem answer_peer (v : Line) (r : Role) (t : Terminal) (now : Nat)
    (i : Controller.Input) :
    v.answer r t now i r.peer = (v r.peer).convey (t.respond now i).2 :=
  if_neg r.peer_ne

/-- What a side takes in, the channel at the end of its turn, and the messages that
are left for it. -/
structure Taking (v : Line) (r : Role) (t : Terminal) (i : Controller.Input)
    (end_ : Channel) (sent : List (Message × Option Event)) : Prop where
  signals : i ≠ .signalsClosed
  commands : i ≠ .commandsClosed
  settled : t.controller.Settled
  holds : end_.HoldsInOrder
  charset : end_.config.charset = .utf8
  channel : (t.controller.channel.stepAll (t.controller.inputs i)).channel =
    { end_ with
      awaiting := end_.awaiting +
        lost (actions (t.controller.channel.stepAll (t.controller.inputs i)).effects) }
  posted : ∀ p ∈ sent, p.1.IsPosted
  sent : Controller.parcelsOf
      (packets (t.controller.channel.stepAll (t.controller.inputs i)).effects) =
    Controller.parcelsOf sent
  drained : (cutAll (t.controller.take i).1.received).1 = []
  whole : Whole ((t.controller.take i).1.received ++ t.inbound)

/-- The side that takes something in. -/
theorem Taking.respond {end_ : Channel} {sent : List (Message × Option Event)}
    (h : v.Taking r t i end_ sent) (now : Nat) :
    (t.respond now i).2 = Controller.parcelsOf sent ∧
      (t.respond now i).1.Orderly ∧
      (t.respond now i).1.stream = (t.controller.take i).1.received ++ t.inbound ∧
      (t.respond now i).1.owed = t.owed ++ sent.filterMap Prod.snd ∧
      (t.respond now i).1.controller.channel = end_ ∧
      (t.respond now i).1.controller.timers =
        (actions (t.controller.channel.stepAll (t.controller.inputs i)).effects).foldl
          (TimerBank.carryOut end_.config now) t.controller.timers := by
  obtain ⟨hsettled, hchannel, htimers, hhanded⟩ :=
    h.settled.turn now h.signals h.commands h.holds h.charset h.channel
  rw [h.sent] at hhanded
  have hreceived := Controller.received_turn h.settled.going now i
  have hstream : (t.respond now i).1.stream =
      (t.controller.take i).1.received ++ t.inbound := by
    rw [← hreceived]
    rfl
  have hdrained : (cutAll (t.controller.turn now i).1.received).1 = [] := by
    rw [hreceived]
    exact h.drained
  have howed : (t.respond now i).1.owed = t.owed ++ sent.filterMap Prod.snd := by
    rw [← (Controller.parcelsOf_spec h.posted whole_nil).1, ← hhanded]
    rfl
  exact ⟨hhanded, ⟨hsettled, hdrained, hstream ▸ h.whole⟩, hstream, howed, hchannel, htimers⟩

/-- A turn of one of two controllers is a step of their conversation. -/
theorem Taking.answer {end_ : Channel} {sent : List (Message × Option Event)}
    (h : v.Taking r t i end_ sent) (hv : ∀ s, (v s).Orderly) (now : Nat) :
    let u := v.answer r t now i
    let rest := messages ((t.controller.take i).1.received ++ t.inbound)
    (∀ s, (u s).Orderly) ∧
      u.conversation r = ⟨end_, rest, t.owed ++ sent.filterMap Prod.snd⟩ ∧
      u.conversation r.peer =
        { v.conversation r.peer with
          inbox := (v.conversation r.peer).inbox ++ sent.map Prod.fst } ∧
      (u r).controller.timers =
        (actions (t.controller.channel.stepAll (t.controller.inputs i)).effects).foldl
          (TimerBank.carryOut end_.config now) t.controller.timers ∧
      (u r.peer).controller = (v r.peer).controller := by
  intro u rest
  obtain ⟨hhanded, horderly, hstream, howed, hchannel, htimers⟩ := h.respond now
  obtain ⟨horderlyPeer, hmessages⟩ := (hv r.peer).convey h.posted
  have hself : u r = (t.respond now i).1 := v.answer_self r t now i
  have hpeer : u r.peer = (v r.peer).convey (Controller.parcelsOf sent) := by
    rw [← hhanded]
    exact v.answer_peer r t now i
  refine ⟨?_, ?_, ?_, ?_, ?_⟩
  · intro s
    rcases Conversation.eq_or_eq_peer r s with rfl | rfl
    · rw [hself]
      exact horderly
    · rw [hpeer]
      exact horderlyPeer
  · rw [conversation, hself, hstream, howed, hchannel]
  · rw [conversation, hpeer, hmessages]
    rfl
  · rw [hself]
    exact htimers
  · rw [hpeer]
    rfl

end Line

end FlightLink
