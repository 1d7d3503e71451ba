import FlightLink.Proofs.Conversation.Moves
import FlightLink.Proofs.Delivery.Stream
import FlightLink.Proofs.Delivery.Turns

/-!
# Delivery of data

Two controllers exchange data over a connection that stays up.  The bytes of their
packets arrive in order, in chunks of any size and at any time, the events of the
packets come back in order, and the send timers may expire in between.

A text that an application gives to its controller reaches the other application
as one payload, in the order of the texts, if it fits into a packet and is not
empty.  An empty text is written as a packet without a body, which the other side
takes for an invalid header.
-/

namespace FlightLink

open Framing

/-- A controller at its end of a connection, with the bytes on their way to it,
the events that come back once its packets are written, and its outputs so far. -/
structure Terminal where
  controller : Controller
  inbound : List UInt8
  owed : List Event
  outputs : List Controller.Output

namespace Terminal

open Controller

/-- What can happen at one end of a connection that stays up. -/
inductive Stimulus where
  | data (text : String)
  | startup
  /-- Bytes arrive: as many as given, or all that are on their way. -/
  | arrival (count : Nat)
  /-- The event of the oldest packet comes back. -/
  | written
  /-- The send timer expires. -/
  | expiry
  | tick

/-- Whether the stimulus is the connection at work. -/
def Stimulus.isTransit : Stimulus → Bool
  | arrival _ | written => true
  | _ => false

/-- The text that the application wants to be sent. -/
def Stimulus.text? : Stimulus → Option String
  | data text => some text
  | _ => none

/-- The packets that a stimulus leads to. -/
def Stimulus.sends : Stimulus → List (Message × Option Event)
  | data text => [(.operational text, some .localData)]
  | expiry => [(.heartbeat, none)]
  | startup | arrival _ | written | tick => []

/-- What the controller takes in on a stimulus, and the terminal without what is
used up by it. -/
def meet? (t : Terminal) : Stimulus → Option (Controller.Input × Terminal)
  | .data text => some (.command (.data text), t)
  | .startup => some (.command .startup, t)
  | .arrival count =>
    some (.signal (.received ⟨(t.inbound.take count).toArray⟩),
      { t with inbound := t.inbound.drop count })
  | .written =>
    match t.owed with
    | [] => none
    | e :: rest => some (.signal (.sent e), { t with owed := rest })
  | .expiry => some (.expired .send, t)
  | .tick => some (.tick, t)

/-- A turn of the controller; the packets that it hands over get on their way. -/
def respond (t : Terminal) (now : Nat) (i : Controller.Input) :
    Terminal × List Transport.Parcel :=
  let r := t.controller.turn now i
  let sent := parcels r.2
  ({ t with
      controller := r.1
      owed := t.owed ++ replies sent
      outputs := t.outputs ++ r.2 },
    sent)

/-- More packets get on their way to the terminal. -/
def convey (t : Terminal) (sent : List Transport.Parcel) : Terminal :=
  { t with inbound := t.inbound ++ sent.flatMap (·.bytes.data.toList) }

/-- The bytes that are still to be cut. -/
def stream (t : Terminal) : List UInt8 :=
  t.controller.received ++ t.inbound

/-- The payloads that have not reached the application yet. -/
def outstanding (t : Terminal) : List Message :=
  t.controller.channel.heldPayloads ++ (messages t.stream).filter Message.isPayload

/-- A terminal whose controller exchanges data.  It awaits no other events than
those owed to it, and the end of the association is not on its way. -/
structure InTouch (t : Terminal) : Prop where
  controller : t.controller.AtRest
  owed : ∀ e ∈ t.owed, e.isAsked
  awaiting : t.controller.channel.awaiting ≤ t.owed.length
  drained : (cutAll t.controller.received).1 = []
  clean : Clean t.stream
  incoming : ∀ m ∈ messages t.stream, m ≠ .shutdown

/-- A terminal that has had no reason to complain about a header. -/
structure Faultless (t : Terminal) : Prop where
  stream : Whole t.stream
  records : ∀ r ∈ records t.outputs, ¬BlamesHeader r.text

end Terminal

/-- Something that happens at one end of a connection at a time. -/
structure Line.Move where
  role : Role
  now : Nat
  stimulus : Terminal.Stimulus

/-- The two ends of a connection. -/
abbrev Line := Role → Terminal

namespace Line

def next (v : Line) (move : Move) : Line :=
  match (v move.role).meet? move.stimulus with
  | none => v
  | some (i, t) =>
    let (t, sent) := t.respond move.now i
    fun r => if r = move.role then t else (v r).convey sent

def run (v : Line) (moves : List Move) : Line :=
  moves.foldl next v

/-- The texts that the application of a side gives to its controller. -/
def texts (r : Role) (moves : List Move) : List String :=
  (moves.filter (·.role = r)).filterMap (·.stimulus.text?)

/-- Whether a text is not empty and fits into a packet. -/
def isDeliverable (text : String) : Bool :=
  text ≠ "" && ((Message.operational text).encode .utf8).isOk

/-- The payloads for the other side that texts amount to. -/
def payloadsOf (texts : List String) : List Message :=
  (texts.filter isDeliverable).map .operational

end Line

/-! ## One end -/

namespace Terminal

open Controller Channel

/-- What a stimulus has to do with what is under way. -/
structure Meets (t : Terminal) (i : Controller.Input) (t' : Terminal)
    (sent : List (Message × Option Event)) : Prop where
  controller : t'.controller = t.controller
  outputs : t'.outputs = t.outputs
  inputs : ∀ j ∈ t.controller.inputs i, j.IsExchange t.Faultless
  signals : i ≠ .signalsClosed
  commands : i ≠ .commandsClosed
  sends : (t.controller.inputs i).flatMap Channel.Input.sends = sent
  awaiting : sparedBy (t.controller.inputs i) t.controller.channel.awaiting ≤ t'.owed.length
  owed : ∀ e ∈ t'.owed, e.isAsked
  drained : (cutAll (t.controller.take i).1.received).1 = []
  stream : ∃ cuts, cuts.filterMap Cut.message? =
      (t.controller.inputs i).flatMap Channel.Input.arrivals ∧
    cutAll t.stream = precede cuts (cutAll ((t.controller.take i).1.received ++ t'.inbound))

variable {t : Terminal}

/-- A stimulus that brings the channel one input and no bytes. -/
theorem InTouch.meets_one (h : t.InTouch) {i : Controller.Input} {j : Channel.Input}
    {owed : List Event} (hinputs : t.controller.inputs i = [j])
    (hj : j.IsExchange t.Faultless) (harrivals : j.arrivals = [])
    (hreceived : (t.controller.take i).1.received = t.controller.received)
    (hsignals : i ≠ .signalsClosed) (hcommands : i ≠ .commandsClosed)
    (hawaiting : j.spares t.controller.channel.awaiting ≤ owed.length)
    (howed : ∀ e ∈ owed, e.isAsked) : t.Meets i { t with owed } j.sends where
  controller := rfl
  outputs := rfl
  inputs := by
    rw [hinputs]
    intro k hk
    obtain rfl := List.mem_singleton.mp hk
    exact hj
  signals := hsignals
  commands := hcommands
  sends := by rw [hinputs, List.flatMap_singleton]
  awaiting := by
    rw [hinputs]
    exact hawaiting
  owed := howed
  drained := by
    rw [hreceived]
    exact h.drained
  stream := by
    rw [hinputs, List.flatMap_singleton, harrivals, hreceived]
    exact ⟨[], rfl, rfl⟩

/-- Bytes that arrive make the channel send nothing, and are no event. -/
theorem sends_inputs (cuts : List Cut) :
    (cuts.flatMap (Cut.inputs .utf8)).flatMap Channel.Input.sends = [] ∧
      ∀ {n}, sparedBy (cuts.flatMap (Cut.inputs .utf8)) n = n := by
  induction cuts with
  | nil => exact ⟨rfl, rfl⟩
  | cons x cuts ih =>
      rw [List.flatMap_cons, List.flatMap_append, ih.1]
      refine ⟨by cases x <;> rfl, fun {n} => ?_⟩
      rw [sparedBy, List.foldl_append, ← sparedBy, ← sparedBy, ih.2]
      cases x <;> rfl

/-- The messages of the bytes that arrive are those in front of the stream. -/
theorem InTouch.meets_arrival (h : t.InTouch) (count : Nat) :
    t.Meets (.signal (.received ⟨(t.inbound.take count).toArray⟩))
      { t with inbound := t.inbound.drop count } [] := by
  have hstream : t.controller.received ++ t.inbound.take count ++ t.inbound.drop count =
      t.stream := by
    rw [List.append_assoc, List.take_append_drop]
    rfl
  have hinputs : t.controller.inputs (.signal (.received ⟨(t.inbound.take count).toArray⟩)) =
      (cutAll (t.controller.received ++ t.inbound.take count)).1.flatMap
        (Cut.inputs .utf8) := by
    rw [Controller.inputs, h.controller.charset]
  have hreceived := t.controller.take_received
    (.signal (.received ⟨(t.inbound.take count).toArray⟩))
  dsimp only at hreceived
  have hcuts := cutAll_append_cutAll (t.controller.received ++ t.inbound.take count)
    (t.inbound.drop count)
  rw [hstream] at hcuts
  refine ⟨rfl, rfl, ?_, nofun, nofun, ?_, ?_, h.owed, ?_, ?_⟩
  · intro j hj
    rw [hinputs] at hj
    obtain ⟨x, hx, hj⟩ := List.mem_flatMap.mp hj
    have hmem : x ∈ (cutAll t.stream).1 := by
      rw [hcuts]
      exact List.mem_append_left _ hx
    cases x with
    | packet p =>
        obtain rfl := List.mem_singleton.mp hj
        exact h.incoming _ (List.mem_filterMap.mpr ⟨_, hmem, rfl⟩)
    | invalidHeader header =>
        obtain rfl := List.mem_singleton.mp hj
        intro hfaultless
        obtain ⟨p, hp⟩ := hfaultless.stream.cuts _ hmem
        cases hp
    | incomplete => cases hj
  · rw [hinputs]
    exact (sends_inputs _).1
  · rw [hinputs, (sends_inputs _).2]
    exact h.awaiting
  · rw [hreceived]
    exact cutAll_rest _
  · refine ⟨_, (arrivals_inputs _).symm.trans (congrArg _ hinputs.symm), ?_⟩
    rw [hreceived]
    exact hcuts

theorem InTouch.meets (h : t.InTouch) {stimulus : Stimulus} {i : Controller.Input}
    {t' : Terminal} (hmeet : t.meet? stimulus = some (i, t')) :
    t.Meets i t' stimulus.sends := by
  cases stimulus with
  | data text =>
      obtain ⟨rfl, rfl⟩ := Prod.mk.inj (Option.some.inj hmeet)
      exact h.meets_one (j := .command (.data text)) rfl trivial rfl rfl nofun nofun
        h.awaiting h.owed
  | startup =>
      obtain ⟨rfl, rfl⟩ := Prod.mk.inj (Option.some.inj hmeet)
      exact h.meets_one (j := .command .startup) rfl trivial rfl rfl nofun nofun
        h.awaiting h.owed
  | expiry =>
      obtain ⟨rfl, rfl⟩ := Prod.mk.inj (Option.some.inj hmeet)
      exact h.meets_one (j := .timerExpired .send) rfl trivial rfl rfl nofun nofun
        h.awaiting h.owed
  | tick =>
      obtain ⟨rfl, rfl⟩ := Prod.mk.inj (Option.some.inj hmeet)
      exact ⟨rfl, rfl, nofun, nofun, nofun, rfl, h.awaiting, h.owed, h.drained, [], rfl, rfl⟩
  | arrival count =>
      obtain ⟨rfl, rfl⟩ := Prod.mk.inj (Option.some.inj hmeet)
      exact h.meets_arrival count
  | written =>
      have hawaiting := h.awaiting
      have howed := h.owed
      unfold meet? at hmeet
      cases hevents : t.owed with
      | nil => simp [hevents] at hmeet
      | cons e rest =>
          rw [hevents] at hmeet hawaiting howed
          obtain ⟨rfl, rfl⟩ := Prod.mk.inj (Option.some.inj hmeet)
          exact h.meets_one (j := .confirm e) rfl (howed e List.mem_cons_self) rfl rfl
            nofun nofun (Nat.sub_le_of_le_add hawaiting)
            fun e he => howed e (List.mem_cons_of_mem _ he)

/-- Packets ask for events that may come back to a channel that exchanges data. -/
theorem isAsked_of_mem_replies {stimulus : Stimulus} :
    ∀ e ∈ replies (parcelsOf stimulus.sends), e.isAsked := by
  intro e he
  obtain ⟨parcel, hparcel, hafter⟩ := List.mem_filterMap.mp he
  obtain ⟨⟨m, after?⟩, hsent, hof⟩ := List.mem_filterMap.mp hparcel
  have hpacket : parcel.after? = after? := by
    unfold Message.parcel? at hof
    dsimp only at hof
    split at hof
    · rw [← Option.some.inj hof]
    · cases hof
  rw [hpacket] at hafter
  cases stimulus with
  | data text =>
      obtain ⟨rfl, rfl⟩ := Prod.mk.inj (List.mem_singleton.mp hsent)
      obtain rfl := Option.some.inj hafter
      rfl
  | expiry =>
      obtain ⟨rfl, rfl⟩ := Prod.mk.inj (List.mem_singleton.mp hsent)
      cases hafter
  | _ => cases hsent

/-- The side at which something happens. -/
theorem InTouch.respond (h : t.InTouch) {stimulus : Stimulus} {i : Controller.Input}
    {t' : Terminal} (hmeets : t.Meets i t' stimulus.sends) (now : Nat) :
    (t'.respond now i).1.InTouch ∧ (t.Faultless → (t'.respond now i).1.Faultless) ∧
      payloads (t'.respond now i).1.outputs ++ (t'.respond now i).1.outstanding =
        payloads t.outputs ++ t.outstanding ∧
      (t'.respond now i).2 = parcelsOf stimulus.sends := by
  obtain ⟨cuts, harrivals, hstream⟩ := hmeets.stream
  have hturned := h.controller.turn now hmeets.inputs hmeets.signals hmeets.commands
  have hreceived := received_turn h.controller.going now i
  have hrespond : t'.respond now i =
      (⟨(t.controller.turn now i).1, t'.inbound,
          t'.owed ++ replies (parcels (t.controller.turn now i).2),
          t.outputs ++ (t.controller.turn now i).2⟩,
        parcels (t.controller.turn now i).2) := by
    rw [Terminal.respond, hmeets.controller, hmeets.outputs]
  rw [hrespond]
  generalize t.controller.turn now i = r at hturned hreceived
  have hhanded : parcels r.2 = parcelsOf stimulus.sends := by
    rw [hturned.handed, hmeets.sends]
  rw [← hreceived] at hstream
  have hmessages : messages t.stream =
      cuts.filterMap Cut.message? ++ messages (r.1.received ++ t'.inbound) := by
    rw [messages, hstream]
    exact List.filterMap_append
  refine ⟨⟨hturned.atRest, ?_, ?_, ?_, ?_, ?_⟩, ?_, ?_, hhanded⟩
  · intro e he
    rcases List.mem_append.mp he with hold | hnew
    · exact hmeets.owed e hold
    · rw [hhanded] at hnew
      exact isAsked_of_mem_replies e hnew
  · rw [List.length_append]
    exact Nat.le_trans hturned.awaiting (Nat.add_le_add_right hmeets.awaiting _)
  · rw [hreceived]
    exact hmeets.drained
  · have hclean := h.clean
    rw [Clean, hstream] at hclean
    exact hclean
  · intro m hm
    apply h.incoming
    rw [hmessages]
    exact List.mem_append_right _ hm
  · intro hfaultless
    have hwhole := hfaultless.stream
    refine ⟨⟨?_, fun x hx => hwhole.cuts x ?_⟩, ?_⟩
    · rw [← hwhole.rest, hstream]
      rfl
    · rw [hstream]
      exact List.mem_append_right _ hx
    · intro x hx
      rw [records_append] at hx
      exact (List.mem_append.mp hx).elim (hfaultless.records x)
        (hturned.blameless hfaultless x)
  · have hdelivered := hturned.delivered
    rw [← harrivals] at hdelivered
    rw [payloads_append, List.append_assoc, outstanding, outstanding, hmessages,
      List.filter_append, ← List.append_assoc (payloads r.2), hdelivered]
    simp only [List.append_assoc]
    rfl

/-- A side to which packets are sent. -/
theorem InTouch.convey_one (h : t.InTouch) {m : Message} (hkind : IsExchanged m.kind)
    (hm : m ≠ .shutdown) (after? : Option Event) :
    (t.convey (parcelsOf [(m, after?)])).InTouch ∧
      (m.text ≠ "" → t.Faultless → (t.convey (parcelsOf [(m, after?)])).Faultless) ∧
      (t.convey (parcelsOf [(m, after?)])).outstanding = t.outstanding ++
        (if m.text ≠ "" ∧ (m.encode .utf8).isOk then [m] else []).filter
          Message.isPayload := by
  cases hencode : m.encode .utf8 with
  | error fault =>
      have hnone : t.convey (parcelsOf [(m, after?)]) = t := by
        rw [parcelsOf_of_error hencode, convey, List.flatMap_nil, List.append_nil]
      rw [hnone]
      refine ⟨h, fun _ => id, ?_⟩
      simp [Except.isOk, Except.toBool]
  | ok bytes =>
      obtain ⟨hmessages, hclean, hwhole⟩ := messages_append_encode h.clean hkind hencode
      have hconvey : t.convey (parcelsOf [(m, after?)]) =
          { t with inbound := t.inbound ++ bytes } := by
        rw [parcelsOf_of_ok hencode, convey, List.flatMap_singleton]
      have hstream : stream { t with inbound := t.inbound ++ bytes } = t.stream ++ bytes :=
        (List.append_assoc _ _ _).symm
      rw [hconvey]
      refine ⟨⟨h.controller, h.owed, h.awaiting, h.drained, ?_, ?_⟩, ?_, ?_⟩
      · rw [hstream]
        exact hclean
      · intro m' hm'
        rw [hstream, hmessages] at hm'
        rcases List.mem_append.mp hm' with hold | hnew
        · exact h.incoming m' hold
        · split at hnew
          · cases hnew
          · obtain rfl := List.mem_singleton.mp hnew
            exact hm
      · intro htext hfaultless
        refine ⟨?_, hfaultless.records⟩
        rw [hstream]
        exact hwhole htext hfaultless.stream
      · rw [outstanding, hstream, hmessages, List.filter_append, ← List.append_assoc]
        by_cases htext : m.text = "" <;> simp [htext, outstanding, Except.isOk, Except.toBool]

theorem InTouch.convey (h : t.InTouch) (stimulus : Stimulus) :
    (t.convey (parcelsOf stimulus.sends)).InTouch ∧
      ("" ∉ stimulus.text?.toList → t.Faultless →
        (t.convey (parcelsOf stimulus.sends)).Faultless) ∧
      (t.convey (parcelsOf stimulus.sends)).outputs = t.outputs ∧
      (t.convey (parcelsOf stimulus.sends)).outstanding =
        t.outstanding ++ Line.payloadsOf stimulus.text?.toList := by
  have hnone : t.convey (parcelsOf []) = t := by
    rw [Terminal.convey, parcelsOf, List.filterMap_nil, List.flatMap_nil, List.append_nil]
  cases stimulus with
  | data text =>
      have hm : Message.operational text ≠ .shutdown := by
        simp [Message.operational, Message.shutdown]
      obtain ⟨htouch, hfaultless, houtstanding⟩ :=
        h.convey_one (.inl rfl) hm (some .localData)
      refine ⟨htouch, ?_, rfl, ?_⟩
      · intro hne
        apply hfaultless
        rintro rfl
        exact hne (List.mem_singleton.mpr rfl)
      · rw [Stimulus.sends, houtstanding, Stimulus.text?, Option.toList_some, Line.payloadsOf,
          List.filter_singleton, Line.isDeliverable]
        by_cases htext : text = "" <;>
          cases ((Message.operational text).encode .utf8).isOk <;>
          simp [Message.operational, Message.isPayload, htext]
  | expiry =>
      obtain ⟨htouch, hfaultless, houtstanding⟩ :=
        h.convey_one (m := .heartbeat) (.inr rfl) (by decide) none
      refine ⟨htouch, fun _ => hfaultless (by decide), rfl, ?_⟩
      rw [Stimulus.sends, houtstanding]
      split <;> rfl
  | startup | arrival count | written | tick =>
      rw [Stimulus.sends, hnone]
      exact ⟨h, fun _ => id, rfl, (List.append_nil _).symm⟩

theorem text?_of_meet?_eq_none {stimulus : Stimulus} (h : t.meet? stimulus = none) :
    stimulus.text? = none := by
  cases stimulus with
  | data text => cases h
  | _ => rfl

/-- Nothing is outstanding once all bytes have arrived and all events are back. -/
theorem InTouch.outstanding_eq_nil (h : t.InTouch) (hinbound : t.inbound = [])
    (howed : t.owed = []) : t.outstanding = [] := by
  have hawaiting : t.controller.channel.awaiting = 0 := by
    have hle := h.awaiting
    rw [howed] at hle
    exact Nat.le_zero.mp hle
  have hheld := h.controller.channel.holds.held_eq_nil hawaiting
  have hmessages : messages t.stream = [] := by
    rw [messages, stream, hinbound, List.append_nil, h.drained]
    rfl
  rw [outstanding, heldPayloads, hheld, hmessages]
  rfl

end Terminal

/-! ## Both ends -/

namespace Line

open Controller Terminal

variable {v : Line} {r : Role}

theorem texts_cons (r : Role) (move : Move) (rest : List Move) :
    texts r (move :: rest) = texts r [move] ++ texts r rest := by
  rw [texts, ← List.singleton_append, List.filter_append, List.filterMap_append]
  rfl

theorem texts_of_role_eq {move : Move} (h : move.role = r) :
    texts r [move] = move.stimulus.text?.toList := by
  rw [texts, List.filter_cons_of_pos (by simpa using h)]
  cases hm : move.stimulus.text? <;> simp [hm]

theorem texts_of_role_ne {move : Move} (h : move.role ≠ r) : texts r [move] = [] := by
  rw [texts, List.filter_cons_of_neg (by simpa using h)]
  rfl

theorem payloadsOf_append (l l' : List String) :
    payloadsOf (l ++ l') = payloadsOf l ++ payloadsOf l' := by
  rw [payloadsOf, List.filter_append, List.map_append]
  rfl

theorem next_side (h : ∀ s, (v s).InTouch) (move : Move) (r : Role) :
    (v.next move r.peer).InTouch ∧
      ("" ∉ texts r [move] → (v r.peer).Faultless → (v.next move r.peer).Faultless) ∧
      payloads (v.next move r.peer).outputs ++ (v.next move r.peer).outstanding =
        payloads (v r.peer).outputs ++ (v r.peer).outstanding ++
          payloadsOf (texts r [move]) := by
  unfold next
  cases hmeet : (v move.role).meet? move.stimulus with
  | none =>
      have hnone : texts r [move] = [] := by
        by_cases hrole : move.role = r
        · rw [texts_of_role_eq hrole, text?_of_meet?_eq_none hmeet]
          rfl
        · exact texts_of_role_ne hrole
      rw [hnone]
      exact ⟨h r.peer, fun _ => id, (List.append_nil _).symm⟩
  | some p =>
      obtain ⟨i, t⟩ := p
      have hmeets := (h move.role).meets hmeet
      have hrespond := (h move.role).respond hmeets move.now
      dsimp only
      rcases Conversation.eq_or_eq_peer r move.role with hrole | hrole
      · have hne : r.peer ≠ move.role := by
          rw [hrole]
          exact r.peer_ne
        rw [if_neg hne, hrespond.2.2.2, texts_of_role_eq hrole]
        obtain ⟨htouch, hfaultless, houtputs, houtstanding⟩ :=
          (h r.peer).convey move.stimulus
        refine ⟨htouch, hfaultless, ?_⟩
        rw [houtputs, houtstanding, List.append_assoc]
      · have hne : move.role ≠ r := by
          rw [hrole]
          exact r.peer_ne
        rw [if_pos hrole.symm, texts_of_role_ne hne, ← hrole]
        obtain ⟨htouch, hfaultless, hsame, -⟩ := hrespond
        exact ⟨htouch, fun _ => hfaultless, hsame.trans (List.append_nil _).symm⟩

theorem next_inTouch (h : ∀ s, (v s).InTouch) (move : Move) (s : Role) :
    (v.next move s).InTouch := by
  have hside := (next_side h move s.peer).1
  rwa [s.peer_peer] at hside

theorem run_inTouch (h : ∀ s, (v s).InTouch) (moves : List Move) (s : Role) :
    (v.run moves s).InTouch := by
  induction moves generalizing v with
  | nil => exact h s
  | cons move rest ih => exact ih (next_inTouch h move)

/-- What becomes of the texts given to one side. -/
theorem run_side (h : ∀ s, (v s).InTouch) (moves : List Move) (r : Role) :
    ("" ∉ texts r moves → (v r.peer).Faultless → (v.run moves r.peer).Faultless) ∧
      payloads (v.run moves r.peer).outputs ++ (v.run moves r.peer).outstanding =
        payloads (v r.peer).outputs ++ (v r.peer).outstanding ++
          payloadsOf (texts r moves) := by
  induction moves generalizing v with
  | nil => exact ⟨fun _ => id, (List.append_nil _).symm⟩
  | cons move rest ih =>
      obtain ⟨-, hfaultless, hpayloads⟩ := next_side h move r
      obtain ⟨hrestFaultless, hrestPayloads⟩ := ih (next_inTouch h move)
      rw [texts_cons, payloadsOf_append]
      constructor
      · intro hnone hbefore
        rw [List.mem_append, not_or] at hnone
        exact hrestFaultless hnone.2 (hfaultless hnone.1 hbefore)
      · refine hrestPayloads.trans ?_
        rw [hpayloads, List.append_assoc]

/-- The connection at work makes a side send nothing. -/
theorem next_of_isTransit (h : ∀ s, (v s).InTouch) {s : Role} (now : Nat)
    {stimulus : Stimulus} (htransit : stimulus.isTransit) {i : Controller.Input}
    {t : Terminal} (hmeet : (v s).meet? stimulus = some (i, t)) :
    (v.next ⟨s, now, stimulus⟩ s).inbound = t.inbound ∧
      (v.next ⟨s, now, stimulus⟩ s).owed = t.owed := by
  have hsent := ((h s).respond ((h s).meets hmeet) now).2.2.2
  have hsends : stimulus.sends = [] := by
    cases stimulus <;> first | rfl | cases htransit
  rw [hsends] at hsent
  unfold next
  rw [hmeet]
  dsimp only
  rw [if_pos rfl]
  refine ⟨rfl, ?_⟩
  have hparcels : parcels (t.controller.turn now i).2 = [] := hsent
  rw [respond, hparcels]
  exact List.append_nil _

/-- The events that are owed to a side come back one by one. -/
theorem run_written (h : ∀ s, (v s).InTouch) {s : Role} (hinbound : (v s).inbound = [])
    {n : Nat} (hn : (v s).owed.length = n) :
    (v.run (List.replicate n ⟨s, 0, .written⟩) s).inbound = [] ∧
      (v.run (List.replicate n ⟨s, 0, .written⟩) s).owed = [] := by
  induction n generalizing v with
  | zero => exact ⟨hinbound, List.length_eq_zero_iff.mp hn⟩
  | succ n ih =>
      obtain ⟨e, rest, howed⟩ := List.exists_cons_of_length_eq_add_one hn
      have hmeet : (v s).meet? .written =
          some (.signal (.sent e), { v s with owed := rest }) := by
        rw [meet?, howed]
      have hafter := next_of_isTransit h 0 rfl hmeet
      refine ih (next_inTouch h _) (hafter.1.trans hinbound) ?_
      rw [hafter.2]
      rw [howed] at hn
      exact Nat.succ.inj hn

/-- Whatever is on its way to a side can still get there. -/
theorem exists_run_transit (h : ∀ s, (v s).InTouch) (s : Role) :
    ∃ moves : List Move, (∀ move ∈ moves, move.role = s ∧ move.stimulus.isTransit) ∧
      (v.run moves s).inbound = [] ∧ (v.run moves s).owed = [] := by
  let arrival : Move := ⟨s, 0, .arrival (v s).inbound.length⟩
  have hmeet : (v s).meet? arrival.stimulus = some (_, { v s with
      inbound := (v s).inbound.drop (v s).inbound.length }) := rfl
  have hafter := next_of_isTransit h 0 rfl hmeet
  have hinbound : (v.next arrival s).inbound = [] :=
    hafter.1.trans List.drop_length
  refine ⟨arrival :: List.replicate (v.next arrival s).owed.length ⟨s, 0, .written⟩, ?_,
    run_written (next_inTouch h arrival) hinbound rfl⟩
  intro move hmove
  rcases List.mem_cons.mp hmove with rfl | hrest
  · exact ⟨rfl, rfl⟩
  · rw [List.eq_of_mem_replicate hrest]
    exact ⟨rfl, rfl⟩

theorem texts_of_isTransit {moves : List Move} (h : ∀ move ∈ moves, move.stimulus.isTransit)
    (r : Role) : texts r moves = [] := by
  apply List.filterMap_eq_nil_iff.mpr
  intro move hmove
  have htransit := h move (List.mem_of_mem_filter hmove)
  cases hstimulus : move.stimulus <;> first | rfl | (rw [hstimulus] at htransit; cases htransit)

/-- The texts that are given to one side, as far as they are not empty and fit
into packets, reach the other application in their order behind whatever was
outstanding before.  What has not been delivered is outstanding, nothing is once
all bytes have arrived and all events are back, and the connection alone can
bring this about.  Unless there are empty texts, no header is complained about. -/
theorem texts_delivered (h : ∀ s, (v s).InTouch) (moves : List Move) (r : Role) :
    let t := v.run moves r.peer
    let due := payloads (v r.peer).outputs ++ (v r.peer).outstanding ++
      payloadsOf (texts r moves)
    payloads t.outputs ++ t.outstanding = due ∧
      (t.inbound = [] → t.owed = [] → payloads t.outputs = due) ∧
      (∃ rest : List Move, (∀ move ∈ rest, move.stimulus.isTransit) ∧
        payloads (v.run (moves ++ rest) r.peer).outputs = due) ∧
      ("" ∉ texts r moves → (v r.peer).Faultless →
        ∀ x ∈ records t.outputs, ¬BlamesHeader x.text) := by
  intro t due
  have htouch := run_inTouch h moves
  obtain ⟨hfaultless, hdue⟩ := run_side h moves r
  have hsettled : ∀ {u : Terminal}, u.InTouch → u.inbound = [] → u.owed = [] →
      payloads u.outputs ++ u.outstanding = due → payloads u.outputs = due := by
    intro u hu hinbound howed heq
    rwa [hu.outstanding_eq_nil hinbound howed, List.append_nil] at heq
  refine ⟨hdue, fun hinbound howed => hsettled (htouch r.peer) hinbound howed hdue, ?_, ?_⟩
  · obtain ⟨rest, htransit, hinbound, howed⟩ := exists_run_transit htouch r.peer
    have hrun : v.run (moves ++ rest) = (v.run moves).run rest := List.foldl_append
    have hrest := (run_side htouch rest r).2
    rw [texts_of_isTransit (fun move hmove => (htransit move hmove).2) r] at hrest
    refine ⟨rest, fun move hmove => (htransit move hmove).2, ?_⟩
    rw [hrun]
    refine hsettled (run_inTouch htouch rest r.peer) hinbound howed ?_
    rw [hrest, hdue]
    exact List.append_nil _
  · intro hnone hbefore
    exact (hfaultless hnone hbefore).records

/-- Two sides that have just begun to exchange data. -/
def sample : Line := fun r =>
  { controller :=
      { ofConfig (.sample r) with
        channel := { Channel.ofConfig (.sample r) with state := .dataReady } }
    inbound := []
    owed := []
    outputs := [] }

theorem inTouch_sample (r : Role) : (sample r).InTouch := by
  have hstream : (sample r).stream = [] := rfl
  have hnone : cutAll [] = ([], []) := cutAll_nil
  refine ⟨⟨⟨⟨rfl, fun h => absurd rfl h, List.forall_mem_nil _⟩, rfl, rfl, rfl⟩, rfl⟩,
    List.forall_mem_nil _, Nat.le_refl 0, ?_, ?_, ?_⟩
  · exact congrArg Prod.fst hnone
  · rw [hstream, Clean, hnone]
    exact List.not_mem_nil
  · rw [hstream, messages, hnone]
    exact List.forall_mem_nil _

theorem faultless_sample (r : Role) : (sample r).Faultless := by
  have hstream : (sample r).stream = [] := rfl
  refine ⟨?_, List.forall_mem_nil _⟩
  rw [hstream]
  exact ⟨congrArg Prod.snd cutAll_nil, by rw [cutAll_nil]; exact List.forall_mem_nil _⟩

/-- Two texts and a heartbeat, whose packets arrive in pieces. -/
def sampleMoves : List Move :=
  [⟨.client, 0, .data "Ж"⟩, ⟨.server, 1, .arrival 3⟩, ⟨.client, 2, .expiry⟩,
    ⟨.client, 3, .data "x"⟩, ⟨.server, 4, .arrival 9⟩, ⟨.client, 5, .written⟩,
    ⟨.server, 6, .arrival 20⟩]

theorem texts_delivered_pieces :
    payloads (sample.run sampleMoves .server).outputs =
        [.operational "Ж", .operational "x"] ∧
      ∀ x ∈ records (sample.run sampleMoves .server).outputs, ¬BlamesHeader x.text := by
  obtain ⟨-, hsettled, -, hfaultless⟩ := texts_delivered inTouch_sample sampleMoves .client
  have hinbound : (sample.run sampleMoves .server).inbound = [] := by decide +kernel
  have howed : (sample.run sampleMoves .server).owed = [] := by decide +kernel
  have hdue : payloads (sample .server).outputs ++ (sample .server).outstanding ++
      payloadsOf (texts .client sampleMoves) = [.operational "Ж", .operational "x"] := by
    decide +kernel
  have hnone : "" ∉ texts .client sampleMoves := by decide +kernel
  exact ⟨(hsettled hinbound howed).trans hdue, hfaultless hnone (faultless_sample .server)⟩

/-- An empty text is handed to the transport.  Its packet arrives, but nothing is
delivered, and the record of an invalid header is written instead. -/
theorem empty_text_lost :
    let v := sample.run [⟨.client, 0, .data ""⟩, ⟨.client, 1, .written⟩,
      ⟨.server, 2, .arrival 5⟩]
    (Message.operational "").encode .utf8 = .ok [2, 0, 0, 5, 1] ∧
      parcels (v .client).outputs = [⟨⟨#[2, 0, 0, 5, 1]⟩, some .localData⟩] ∧
      (v .server).inbound = [] ∧ (v .server).owed = [] ∧
      payloads (v .server).outputs = [] ∧
      ∃ x ∈ records (v .server).outputs, BlamesHeader x.text := by
  intro v
  have hrecords : (records (v .server).outputs).map LogRecord.text =
      [(Fault.invalidHeader [2, 0, 0, 5, 1]).message] := by
    decide +kernel
  have hmem : (Fault.invalidHeader [2, 0, 0, 5, 1]).message ∈
      (records (v .server).outputs).map LogRecord.text := by
    rw [hrecords]
    exact List.mem_singleton.mpr rfl
  obtain ⟨x, hx, htext⟩ := List.mem_map.mp hmem
  exact ⟨by decide +kernel, by decide +kernel, by decide +kernel, by decide +kernel,
    by decide +kernel, x, hx, _, htext⟩

end Line

end FlightLink
