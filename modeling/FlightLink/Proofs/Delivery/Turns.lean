import FlightLink.Proofs.Controller.Drive
import FlightLink.Proofs.Controller.Effort
import FlightLink.Proofs.Delivery.Exchange

/-!
# Turns of a controller that exchanges data

In a turn a controller takes an input and carries out all actions that it leads
to.  What is on its way through the controller is accounted for at every point of
a turn: a payload is on hold, in a pending action or delivered, and a packet is in
a pending action, handed to the transport or too long for it.
-/

namespace FlightLink

open Channel Effect

/-- The packet that an order hands over. -/
def Transport.Order.parcel? : Transport.Order → Option Transport.Parcel
  | send p => some p
  | _ => none

/-- What a packet in UTF-8 is handed over as, if it is not too long. -/
def Message.parcel? (m : Message) (after? : Option Event) : Option Transport.Parcel :=
  match m.encode .utf8 with
  | .ok bytes => some ⟨⟨bytes.toArray⟩, after?⟩
  | .error _ => none

namespace Controller

def Output.payload? : Output → Option Message
  | payload m => some m
  | _ => none

def Output.record? : Output → Option LogRecord
  | record r => some r
  | _ => none

/-- The payloads delivered. -/
def payloads (outputs : List Output) : List Message :=
  outputs.filterMap Output.payload?

/-- The records given to the application. -/
def records (outputs : List Output) : List LogRecord :=
  outputs.filterMap Output.record?

/-- The packets handed to the transport. -/
def parcels (outputs : List Output) : List Transport.Parcel :=
  (orders outputs).filterMap Transport.Order.parcel?

/-- The packets that are sent, as far as they are not too long. -/
def parcelsOf (packets : List (Message × Option Event)) : List Transport.Parcel :=
  packets.filterMap fun p => p.1.parcel? p.2

/-- The events that come back once packets are written. -/
def replies (parcels : List Transport.Parcel) : List Event :=
  parcels.filterMap Transport.Parcel.after?

/-- A controller that exchanges data in UTF-8 over a connection that is up. -/
structure InTouch (c : Controller) : Prop where
  channel : c.channel.Exchanging
  charset : c.channel.config.charset = .utf8
  attached : c.transportGone = false
  going : c.ending? = none

/-- A controller in touch that has carried out all actions. -/
structure AtRest (c : Controller) : Prop extends c.InTouch where
  done : c.pending.toList = []

variable {sound : Prop} {c : Controller}

/-! ## Outputs -/

@[simp] theorem payloads_append (l l' : List Output) :
    payloads (l ++ l') = payloads l ++ payloads l' := List.filterMap_append

@[simp] theorem records_append (l l' : List Output) :
    records (l ++ l') = records l ++ records l' := List.filterMap_append

@[simp] theorem parcels_append (l l' : List Output) :
    parcels (l ++ l') = parcels l ++ parcels l' := by
  rw [parcels, orders_append, List.filterMap_append]
  rfl

theorem parcelsOf_append (l l' : List (Message × Option Event)) :
    parcelsOf (l ++ l') = parcelsOf l ++ parcelsOf l' := List.filterMap_append

/-- Whether an output is neither for the transport nor for the application. -/
def Output.IsRemark : Output → Prop
  | note _ | status _ => True
  | order _ | payload _ | record _ => False

theorem payloads_of_isRemark {l : List Output} (h : ∀ o ∈ l, o.IsRemark) :
    payloads l = [] ∧ records l = [] := by
  have hnone : ∀ o ∈ l, o.payload? = none ∧ o.record? = none := by
    intro o ho
    have hremark := h o ho
    cases o <;> first | exact ⟨rfl, rfl⟩ | cases hremark
  exact ⟨List.filterMap_eq_nil_iff.mpr fun o ho => (hnone o ho).1,
    List.filterMap_eq_nil_iff.mpr fun o ho => (hnone o ho).2⟩

theorem isRemark_absorb (c : Controller) (o : Outcome) : ∀ x ∈ (c.absorb o).2, x.IsRemark := by
  intro x hx
  obtain ⟨n, -, rfl⟩ := List.mem_map.mp hx
  trivial

theorem isRemark_takeCutsOnto {done : List Output} (hdone : ∀ o ∈ done, o.IsRemark)
    (c : Controller) (cuts : List Framing.Cut) :
    ∀ o ∈ (takeCutsOnto done c cuts).2, o.IsRemark := by
  induction cuts generalizing done c with
  | nil => exact fun o ho => hdone o (List.mem_reverse.mp ho)
  | cons cut cuts ih =>
      have hcut : ∀ o ∈ (c.takeCut cut).2, o.IsRemark := by
        cases cut with
        | incomplete => exact List.forall_mem_nil _
        | _ => exact isRemark_absorb _ _
      refine ih ?_ _
      intro o ho
      exact (List.mem_append.mp ho).elim (fun h => hcut o (List.mem_reverse.mp h)) (hdone o)

/-- Taking an input is remarked upon, no more. -/
theorem isRemark_take (c : Controller) (i : Input) : ∀ o ∈ (c.take i).2, o.IsRemark := by
  have hnone : ∀ o ∈ ([] : List Output), o.IsRemark := List.forall_mem_nil _
  cases i with
  | signal s =>
      cases s with
      | received bytes => exact isRemark_takeCutsOnto hnone _ _
      | _ => exact isRemark_absorb _ _
  | signalsClosed => exact hnone
  | commandsClosed | tick =>
      intro o ho
      obtain rfl := List.mem_singleton.mp ho
      trivial
  | _ => exact isRemark_absorb _ _

/-- What carrying out an action tells the application. -/
theorem payloads_perform (hattached : c.transportGone = false) (now : Nat) {a : Action}
    (ha : a.IsExchange sound) :
    payloads (c.perform now a).2 = a.delivered?.toList ∧
      (∀ r ∈ records (c.perform now a).2, a = .log r) ∧
      (c.perform now a).1.ending? = c.ending? := by
  have hnone : ∀ (a : Action), ∀ r ∈ ([] : List LogRecord), a = .log r :=
    fun _ _ hr => absurd hr List.not_mem_nil
  cases a with
  | send m after? =>
      rw [perform]
      split
      · rw [order, hattached, if_neg Bool.false_ne_true]
        exact ⟨rfl, hnone _, rfl⟩
      · obtain ⟨hpayloads, hrecords⟩ := payloads_of_isRemark (c.isRemark_absorb _)
        rw [hrecords]
        exact ⟨hpayloads, hnone _, rfl⟩
  | restartTimer kind | stopTimer kind | deliver m => exact ⟨rfl, hnone _, rfl⟩
  | log r =>
      refine ⟨rfl, ?_, rfl⟩
      intro r' hr'
      obtain rfl := List.mem_singleton.mp hr'
      rfl
  | _ => cases ha

/-! ## Turns -/

/-- Where everything is in the middle of a turn: `due` are the payloads that the
application gets sooner or later, and `mail` are the packets for the transport.
No more events are awaited than were owed before the turn and come back for
packets sent since. -/
structure Accounts (sound : Prop) (owed : Nat) (due : List Message)
    (mail : List Transport.Parcel) (c : Controller) (outputs : List Output) : Prop
    extends c.InTouch where
  pending : ∀ a ∈ c.pending.toList, a.IsExchange sound
  delivered : payloads outputs ++ c.pending.toList.filterMap Action.delivered? ++
    c.channel.heldPayloads = due
  handed : parcels outputs ++ parcelsOf (c.pending.toList.filterMap Action.sent?) = mail
  awaiting : c.channel.awaiting ≤ owed + (replies (parcels outputs)).length +
    ((c.pending.toList.filterMap Action.sent?).filterMap Prod.snd).length
  blameless : sound → ∀ r ∈ records outputs, ¬BlamesHeader r.text

theorem isExchange_echoes (c : Controller) (a : Action) :
    ∀ i ∈ c.echoes a, i.IsExchange sound ∧ i.arrivals = [] ∧ i.sends = [] := by
  intro i hi
  unfold echoes at hi
  split at hi
  · split at hi
    · cases hi
    · rcases List.mem_pair.mp hi with rfl | rfl
      · refine ⟨fun _ => ?_, rfl, rfl⟩
        simp only [String.append_assoc]
        exact not_blamesHeader_append (by decide) (by decide) _
      · exact ⟨trivial, rfl, rfl⟩
  · cases hi

section Parcels

variable {m : Message} {after? : Option Event}

theorem parcelsOf_of_ok {bytes : List UInt8} (h : m.encode .utf8 = .ok bytes) :
    parcelsOf [(m, after?)] = [⟨⟨bytes.toArray⟩, after?⟩] := by
  have hparcel : m.parcel? after? = some ⟨⟨bytes.toArray⟩, after?⟩ := by
    rw [Message.parcel?, h]
  exact List.filterMap_cons_some hparcel

theorem parcelsOf_of_error {fault : Fault} (h : m.encode .utf8 = .error fault) :
    parcelsOf [(m, after?)] = [] := by
  have hparcel : m.parcel? after? = none := by
    rw [Message.parcel?, h]
  exact List.filterMap_cons_none hparcel

end Parcels

/-- A packet is handed over unless it is too long. -/
theorem parcels_perform (hattached : c.transportGone = false)
    (hcharset : c.channel.config.charset = .utf8) (now : Nat) (a : Action) :
    parcels (c.perform now a).2 = parcelsOf a.sent?.toList := by
  have horders := (c.follows_perform now a).2.2.2
  rw [parcels, horders, hattached, if_neg Bool.false_ne_true]
  cases a with
  | send m after? =>
      rw [orderOf?, hcharset]
      cases hencode : m.encode .utf8 with
      | ok bytes => exact (parcelsOf_of_ok hencode).symm
      | error fault => exact (parcelsOf_of_error hencode).symm
  | _ => rfl

/-- A packet that is not handed over is not awaited any longer. -/
theorem sparedBy_echoes_le (hcharset : c.channel.config.charset = .utf8) (a : Action)
    {n k : Nat} (hn : n ≤ k + (a.sent?.toList.filterMap Prod.snd).length) :
    sparedBy (c.echoes a) n ≤ k + (replies (parcelsOf a.sent?.toList)).length := by
  cases a with
  | send m after? =>
      have hpacket : (Action.send m after?).sent?.toList = [(m, after?)] := rfl
      rw [echoes, hcharset]
      rw [hpacket] at hn ⊢
      cases hencode : m.encode .utf8 with
      | ok bytes =>
          rw [parcelsOf_of_ok hencode]
          exact hn
      | error fault =>
          rw [parcelsOf_of_error hencode]
          cases after? with
          | none => exact hn
          | some e => exact Nat.sub_le_of_le_add hn
  | _ => exact hn

/-! ### Parts of a turn -/

theorem exchanges_echoes (h : c.channel.Exchanging) (a : Action) :
    (c.channel.stepAll (c.echoes a)).Exchanges sound c.channel [] := by
  have hechoes : ∀ i ∈ c.echoes a, i.IsExchange sound ∧ i.arrivals = [] ∧ i.sends = [] :=
    isExchange_echoes c a
  have hsends : (c.echoes a).flatMap Channel.Input.sends = [] :=
    List.flatMap_eq_nil_iff.mpr fun i hi => (hechoes i hi).2.2
  rw [← hsends]
  exact exchanges_stepAll h fun i hi => (hechoes i hi).1

theorem deliveries_echoes (h : c.channel.HoldsInOrder) (a : Action) :
    deliveries (c.channel.stepAll (c.echoes a)).effects ++
      (c.channel.stepAll (c.echoes a)).channel.heldPayloads = c.channel.heldPayloads := by
  have harrivals : (c.echoes a).flatMap Channel.Input.arrivals = [] :=
    List.flatMap_eq_nil_iff.mpr fun i hi => (c.permits_echoes a i hi).1
  have hdeliveries := deliveries_append_heldPayloads_stepAll h (c.echoes a)
  rw [harrivals] at hdeliveries
  exact hdeliveries.trans (List.append_nil _)

theorem InTouch.perform (h : c.InTouch) (now : Nat) {a : Action} (ha : a.IsExchange sound) :
    (c.perform now a).1.InTouch := by
  obtain ⟨hfollows, -, hgone, -⟩ := c.follows_perform now a
  have hexchange : Outcome.Exchanges sound c.channel [] _ := exchanges_echoes h.channel a
  have hechoes : ∀ i ∈ c.echoes a, i.IsExchange sound :=
    fun i hi => (isExchange_echoes c a i hi).1
  constructor
  · rw [hfollows.channel]
    exact h.channel.stepAll hechoes
  · rw [hfollows.channel, hexchange.config]
    exact h.charset
  · exact hgone.trans h.attached
  · exact (payloads_perform h.attached now ha).2.2.trans h.going

/-- Once an action has been carried out, the event of its packet is owed if it is
awaited. -/
theorem awaiting_perform_le (h : c.InTouch) (now : Nat) {a : Action} {n : Nat}
    (hn : c.channel.awaiting ≤ n + (a.sent?.toList.filterMap Prod.snd).length) :
    (c.perform now a).1.channel.awaiting ≤
      n + (replies (parcels (c.perform now a).2)).length := by
  have hexchange : Outcome.Exchanges True c.channel [] _ := exchanges_echoes h.channel a
  have hasked : (expected (c.channel.stepAll (c.echoes a)).effects).length = 0 := by
    rw [expected, hexchange.packets]
    rfl
  have hcount := awaiting_stepAll_le c.channel (c.echoes a)
  have hspared := sparedBy_echoes_le h.charset a hn
  rw [(c.follows_perform now a).1.channel, parcels_perform h.attached h.charset now a]
  omega

section Accounts

variable {owed now : Nat} {due : List Message} {mail : List Transport.Parcel}
  {outputs : List Output} {r : Result}

theorem Accounts.performNext? (h : Accounts sound owed due mail c outputs)
    (hr : c.performNext? now = some r) :
    Accounts sound owed due mail r.1 (outputs ++ r.2) := by
  obtain ⟨a, rest, hpop, rfl⟩ := exists_perform_of_performNext? hr
  have hpending := Fifo.toList_of_pop? hpop
  have ha : a.IsExchange sound := h.pending a (by rw [hpending]; exact List.mem_cons_self)
  let b : Controller := { c with pending := rest }
  have hb : b.InTouch := ⟨h.channel, h.charset, h.attached, h.going⟩
  have hfollows := (b.follows_perform now a).1
  obtain ⟨hpayloads, hrecords, -⟩ := payloads_perform hb.attached now ha
  have hparcels := parcels_perform hb.attached hb.charset now a
  have hexchange : Outcome.Exchanges sound b.channel [] _ := exchanges_echoes hb.channel a
  have hfirst : ∀ {α : Type} (pick : Action → Option α), c.pending.toList.filterMap pick =
      (pick a).toList ++ rest.toList.filterMap pick := by
    intro α pick
    rw [hpending, List.filterMap_cons]
    cases pick a <;> rfl
  have hsent : (b.perform now a).1.pending.toList.filterMap Action.sent? =
      rest.toList.filterMap Action.sent? := by
    rw [hfollows.pending, List.filterMap_append]
    exact (congrArg _ hexchange.packets).trans (List.append_nil _)
  refine ⟨hb.perform now ha, ?_, ?_, ?_, ?_, ?_⟩
  · intro a' ha'
    rw [hfollows.pending] at ha'
    rcases List.mem_append.mp ha' with hold | hnew
    · exact h.pending a' (by rw [hpending]; exact List.mem_cons_of_mem a hold)
    · exact hexchange.actions a' hnew
  · have hdeliveries := deliveries_echoes hb.channel.holds a
    rw [← h.delivered, payloads_append, hpayloads, hfollows.pending, hfollows.channel,
      List.filterMap_append, hfirst]
    simp only [List.append_assoc]
    exact congrArg (_ ++ ·) (congrArg (_ ++ ·) (congrArg (_ ++ ·) hdeliveries))
  · rw [← h.handed, parcels_append, hparcels, hsent, hfirst, parcelsOf_append,
      List.append_assoc]
  · have hbefore : b.channel.awaiting ≤ owed + (replies (parcels outputs)).length +
        ((c.pending.toList.filterMap Action.sent?).filterMap Prod.snd).length := h.awaiting
    rw [hfirst, List.filterMap_append, List.length_append] at hbefore
    have hafter := awaiting_perform_le hb now (a := a)
      (n := owed + (replies (parcels outputs)).length +
        ((rest.toList.filterMap Action.sent?).filterMap Prod.snd).length) (by omega)
    rw [hsent, parcels_append, replies, List.filterMap_append, List.length_append,
      ← replies, ← replies]
    change (b.perform now a).1.channel.awaiting ≤ owed + ((replies (parcels outputs)).length +
      (replies (parcels (b.perform now a).2)).length) + _
    omega
  · intro hsound r' hr'
    rw [records_append] at hr'
    rcases List.mem_append.mp hr' with hold | hnew
    · exact h.blameless hsound r' hold
    · obtain rfl := hrecords r' hnew
      exact ha hsound

theorem Accounts.execute (h : Accounts sound owed due mail c []) (now : Nat) :
    Accounts sound owed due mail (c.execute now).1 (c.execute now).2 :=
  executeOnto_induction (fun h hr => h.performNext? hr) c.effort h

end Accounts

/-- What a turn has to do with the messages that arrive and the packets that are
sent. -/
structure Turned (sound : Prop) (c : Controller) (l : List Channel.Input) (r : Result) :
    Prop where
  atRest : r.1.AtRest
  delivered : payloads r.2 ++ r.1.channel.heldPayloads =
    c.channel.heldPayloads ++ (l.flatMap Channel.Input.arrivals).filter Message.isPayload
  handed : parcels r.2 = parcelsOf (l.flatMap Channel.Input.sends)
  awaiting : r.1.channel.awaiting ≤
    sparedBy l c.channel.awaiting + (replies (parcels r.2)).length
  blameless : sound → ∀ r' ∈ records r.2, ¬BlamesHeader r'.text

/-- The bytes not yet cut stay as they are while actions are carried out. -/
theorem received_turn (hgoes : c.ending? = none) (now : Nat) (i : Input) :
    (c.turn now i).1.received = (c.take i).1.received := by
  rw [turn_eq hgoes]
  refine executeOnto_induction
    (P := fun c' _ => c'.received = (c.take i).1.received) ?_ (c.take i).1.effort rfl
  intro c' outputs r h hr
  obtain ⟨a, rest, -, rfl⟩ := exists_perform_of_performNext? hr
  exact (follows_perform _ now a).2.1.trans h

/-- What there is to account for once an input has been taken. -/
theorem AtRest.take (h : c.AtRest) {i : Input}
    (hinputs : ∀ j ∈ c.inputs i, j.IsExchange sound) (hi : i ≠ .signalsClosed)
    (hi' : i ≠ .commandsClosed) :
    Accounts sound (sparedBy (c.inputs i) c.channel.awaiting)
      (c.channel.heldPayloads ++
        ((c.inputs i).flatMap Channel.Input.arrivals).filter Message.isPayload)
      (parcelsOf ((c.inputs i).flatMap Channel.Input.sends)) (c.take i).1 [] := by
  have hfollows := (c.follows_take i).1
  have hexchange := exchanges_stepAll h.channel hinputs
  have hpending : (c.take i).1.pending.toList =
      actions (c.channel.stepAll (c.inputs i)).effects := by
    rw [hfollows.pending, h.done, List.nil_append]
  have hsent : (c.take i).1.pending.toList.filterMap Action.sent? =
      (c.inputs i).flatMap Channel.Input.sends := by
    rw [hpending]
    exact hexchange.packets
  refine ⟨⟨?_, ?_, ?_, ?_⟩, ?_, ?_, ?_, ?_, ?_⟩
  · rw [hfollows.channel]
    exact h.channel.stepAll hinputs
  · rw [hfollows.channel, hexchange.config]
    exact h.charset
  · rw [take_transportGone]
    exact h.attached
  · rw [take_ending? c hi hi']
    exact h.going
  · rw [hpending]
    exact hexchange.actions
  · rw [hpending, hfollows.channel]
    exact deliveries_append_heldPayloads_stepAll h.channel.holds _
  · rw [hsent]
    rfl
  · rw [hsent, hfollows.channel, ← hexchange.packets]
    exact awaiting_stepAll_le _ _
  · exact fun _ r hr => absurd hr List.not_mem_nil

theorem AtRest.turn (h : c.AtRest) (now : Nat) {i : Input}
    (hinputs : ∀ j ∈ c.inputs i, j.IsExchange sound) (hi : i ≠ .signalsClosed)
    (hi' : i ≠ .commandsClosed) : Turned sound c (c.inputs i) (c.turn now i) := by
  obtain ⟨hpayloads, hrecords⟩ := payloads_of_isRemark (c.isRemark_take i)
  have hexecuted := (h.take hinputs hi hi').execute now
  have hrest := pending_execute (c.take i).1 now hexecuted.going
  have hturn := turn_eq h.going now i
  have hparcels : parcels (c.turn now i).2 = parcels ((c.take i).1.execute now).2 := by
    rw [hturn, parcels_append, parcels, (c.follows_take i).2]
    rfl
  obtain ⟨htouch, -, hdelivered, hhanded, hawaiting, hblameless⟩ := hexecuted
  rw [hrest, List.filterMap_nil, List.append_nil] at hdelivered
  rw [hrest] at hhanded hawaiting
  refine ⟨?_, ?_, ?_, ?_, ?_⟩
  · rw [hturn]
    exact ⟨htouch, hrest⟩
  · rw [← hdelivered, hturn, payloads_append, hpayloads]
    rfl
  · rw [hparcels, ← hhanded]
    exact (List.append_nil _).symm
  · rw [hparcels, hturn]
    exact hawaiting
  · intro hsound r' hr'
    rw [hturn, records_append, hrecords] at hr'
    exact hblameless hsound r' hr'

end Controller

end FlightLink
