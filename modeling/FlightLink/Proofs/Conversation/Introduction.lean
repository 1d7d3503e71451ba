import FlightLink.Proofs.Channel.Leads
import FlightLink.Proofs.Delivery.Stream

/-!
# Who is taken for the configured peer

A channel introduces itself by one text, its own name and the name of its peer with
a hyphen in between.  The peer compares this text with the one that it expects, and
is not interested in where either name ends.

Names may have hyphens of their own, so the two names cannot always be read off the
text.  A stranger is taken for the peer exactly if its text is the same, although its
name has another number of hyphens than that of the peer.
-/

namespace FlightLink

/-- An entry divides a list in one way only, once it is known how many equal ones come
before it. -/
theorem eq_of_append_cons_of_count_eq {α : Type} [DecidableEq α] {x : α}
    {front front' back back' : List α} (h : front ++ x :: back = front' ++ x :: back')
    (hcount : front.count x = front'.count x) : front = front' ∧ back = back' := by
  induction front generalizing front' with
  | nil =>
      cases front' with
      | nil => exact ⟨rfl, (List.cons.inj h).2⟩
      | cons y rest' =>
          obtain rfl : x = y := (List.cons.inj h).1
          rw [List.count_nil, List.count_cons_self] at hcount
          omega
  | cons y rest ih =>
      cases front' with
      | nil =>
          obtain rfl : y = x := (List.cons.inj h).1
          rw [List.count_nil, List.count_cons_self] at hcount
          omega
      | cons z rest' =>
          obtain ⟨rfl, hrest⟩ := List.cons.inj h
          rw [List.count_cons, List.count_cons, Nat.add_right_cancel_iff] at hcount
          obtain ⟨rfl, rfl⟩ := ih hrest hcount
          exact ⟨rfl, rfl⟩

/-- The number of hyphens in a name. -/
def hyphens (name : String) : Nat := name.toList.count '-'

namespace Message

theorem toList_identification (sender receiver : String) :
    (identification sender receiver).text.toList =
      sender.toList ++ '-' :: receiver.toList := by
  simp only [identification, String.toList_append, List.append_assoc]
  rfl

/-- The names are what is introduced, up to the hyphen that stands between them. -/
theorem identification_eq_iff {sender receiver sender' receiver' : String} :
    sender = sender' ∧ receiver = receiver' ↔
      (identification sender receiver).text = (identification sender' receiver').text ∧
        hyphens sender = hyphens sender' := by
  constructor
  · rintro ⟨rfl, rfl⟩
    exact ⟨rfl, rfl⟩
  · rintro ⟨htext, hcount⟩
    have hjoined := congrArg String.toList htext
    rw [toList_identification, toList_identification] at hjoined
    obtain ⟨hsender, hreceiver⟩ := eq_of_append_cons_of_count_eq hjoined hcount
    exact ⟨String.toList_inj.mp hsender, String.toList_inj.mp hreceiver⟩

end Message

namespace Channel

/-- The log record of an identification. -/
def noticing (c : Channel) (m : Message) : Effect :=
  c.loggedReceipt .info m.kind s!"received {m.text}"

/-- The warning that an identification is not the one expected. -/
def mismatching (c : Channel) (m : Message) : Effect :=
  c.loggedReceipt .warning m.kind
    s!"identification mismatch: received `{m.text}`, expected `{c.peerIdentification.text}`"

/-- An identification is valid, or it is invalid and warned of. -/
theorem dispatch_identification (c : Channel) (sender receiver : String) :
    let m := Message.identification sender receiver
    c.dispatch m =
      if m.text = c.peerIdentification.text then
        Outcome.andThen ⟨c, [c.noticing m]⟩ (·.raise .remoteIdValid)
      else
        Outcome.andThen ⟨c, [c.mismatching m, c.noticing m]⟩ (·.raise .remoteIdInvalid) := by
  intro m
  have hkind : m.kind = .identification := rfl
  have hevent := c.identificationEvent_identification sender receiver
  simp only [dispatch, hkind]
  rw [hevent]
  split <;> rfl

/-- The names of a channel are those that another one is configured for. -/
def IsExpectedBy (a b : Channel) : Prop :=
  a.config.localAtc = b.config.remoteAtc ∧ a.config.remoteAtc = b.config.localAtc

end Channel

namespace Controller

open Channel

/-- The bytes of an identification bring this identification to the channel of the
peer and nothing else. -/
theorem inputs_identification {c : Controller} (hrest : c.received = [])
    (hcharset : c.channel.config.charset = .utf8) {sender receiver : String}
    {bytes : List UInt8}
    (hbytes : (Message.identification sender receiver).encode .utf8 = .ok bytes) :
    c.inputs (.signal (.received ⟨bytes.toArray⟩)) =
      [.receive (.identification sender receiver)] := by
  let m := Message.identification sender receiver
  obtain ⟨rfl, hlength⟩ := Framing.bytes_of_encode hbytes
  have htext : m.text ≠ "" := by
    intro hempty
    have hjoined := Message.toList_identification sender receiver
    rw [show (Message.identification sender receiver).text = "" from hempty] at hjoined
    simp at hjoined
  have hframable : Packet.IsFramable ⟨m.kind, Charset.utf8.encode m.text⟩ :=
    ⟨nofun, Framing.length_encode_pos htext, hlength⟩
  have hcuts := Framing.cutAll_bytes hframable
  simp only [inputs, hrest, hcharset, List.nil_append]
  rw [hcuts, List.flatMap_singleton, Framing.Cut.inputs, Framing.ofPacket_encode]

/-- A channel that is sent the identification of another one takes it for the valid
one exactly if it is the text expected, and otherwise for an invalid one, with a
warning; it takes it for nothing else.  The names are those expected exactly if the
identification is valid and the names of the senders have equally many hyphens. -/
theorem identified_by_text {a : Channel} {c : Controller} {bytes : List UInt8}
    (ha : a.config.charset = .utf8) (hc : c.channel.config.charset = .utf8)
    (hbytes : a.ownIdentification.encode a.config.charset = .ok bytes)
    (hrest : c.received = []) :
    let b := c.channel
    let m := a.ownIdentification
    let isValid := m.text = b.peerIdentification.text
    c.inputs (.signal (.received ⟨bytes.toArray⟩)) = [.receive m] ∧
    (isValid → b.dispatch m =
      Outcome.andThen ⟨b, [b.noticing m]⟩ (·.raise .remoteIdValid)) ∧
    (¬isValid → b.dispatch m =
      Outcome.andThen ⟨b, [b.mismatching m, b.noticing m]⟩ (·.raise .remoteIdInvalid)) ∧
    (b.messageEvent? m = some .remoteIdValid ↔ isValid) ∧
    (b.messageEvent? m = some .remoteIdInvalid ↔ ¬isValid) ∧
    (a.IsExpectedBy b ↔
      isValid ∧ hyphens a.config.localAtc = hyphens b.config.remoteAtc) := by
  intro b m isValid
  rw [ha] at hbytes
  have hdispatch := b.dispatch_identification a.config.localAtc a.config.remoteAtc
  have hevent : b.messageEvent? m =
      some (if m.text = b.peerIdentification.text then .remoteIdValid
        else .remoteIdInvalid) :=
    congrArg some
      (b.identificationEvent_identification a.config.localAtc a.config.remoteAtc)
  refine ⟨inputs_identification hrest hc hbytes, ?_, ?_, ?_, ?_,
    Message.identification_eq_iff⟩
  · intro hvalid
    exact hdispatch.trans (if_pos hvalid)
  · intro hinvalid
    exact hdispatch.trans (if_neg hinvalid)
  · rw [hevent]
    split
    · next hvalid => exact iff_of_true rfl hvalid
    · next hinvalid => exact iff_of_false nofun hinvalid
  · rw [hevent]
    split
    · next hvalid => exact iff_of_false nofun (not_not_intro hvalid)
    · next hinvalid => exact iff_of_true rfl hinvalid

/-- The client and the server of the sample expect each other. -/
theorem identified_by_text_sample :
    let a := Channel.ofConfig (.sample .client)
    let c := Controller.ofConfig (.sample .server)
    ∃ bytes, a.ownIdentification.encode a.config.charset = .ok bytes ∧
      c.inputs (.signal (.received ⟨bytes.toArray⟩)) = [.receive a.ownIdentification] ∧
      c.channel.messageEvent? a.ownIdentification = some .remoteIdValid := by
  intro a c
  have hfits : a.ownIdentification.encode a.config.charset =
      .ok [2, 0, 0, 14, 3, 65, 65, 65, 65, 45, 66, 66, 66, 66] := by decide +kernel
  obtain ⟨hinputs, -, -, hevent, -, -⟩ := identified_by_text rfl rfl hfits (c := c) rfl
  exact ⟨_, hfits, hinputs, hevent.mpr rfl⟩

/-- A stranger is taken for the peer if its name goes on where that of the peer has
come to its end. -/
theorem stranger_identified :
    let A := { Config.sample .client with localAtc := "AAAA-BB", remoteAtc := "CC" }
    let B := { Config.sample .server with localAtc := "BB-CC", remoteAtc := "AAAA" }
    let a := Channel.ofConfig A
    let b := Channel.ofConfig B
    (∃ s t : Settings, s.check = .ok A ∧ t.check = .ok B) ∧
      A.charset = .utf8 ∧ B.charset = .utf8 ∧
      (b.ownIdentification.encode .utf8).isOk = true ∧
      (∃ bytes, a.ownIdentification.encode .utf8 = .ok bytes ∧
        (Controller.ofConfig B).inputs (.signal (.received ⟨bytes.toArray⟩)) =
          [.receive a.ownIdentification]) ∧
      b.dispatch a.ownIdentification =
        Outcome.andThen ⟨b, [b.noticing a.ownIdentification]⟩ (·.raise .remoteIdValid) ∧
      ¬a.IsExpectedBy b := by
  intro A B a b
  have hfits : a.ownIdentification.encode .utf8 =
      .ok [2, 0, 0, 15, 3, 65, 65, 65, 65, 45, 66, 66, 45, 67, 67] := by decide +kernel
  refine ⟨⟨{ Settings.sample .client with localAtc := "AAAA-BB", remoteAtc := "CC" },
    { Settings.sample .server with localAtc := "BB-CC", remoteAtc := "AAAA" }, ?_, ?_⟩,
    rfl, rfl, by decide +kernel, ⟨_, hfits, inputs_identification rfl rfl hfits⟩, ?_, ?_⟩
  · decide +kernel
  · decide +kernel
  · have hdispatch := b.dispatch_identification A.localAtc A.remoteAtc
    exact hdispatch.trans (if_pos (by decide +kernel))
  · rintro ⟨hlocal, -⟩
    revert hlocal
    decide

end Controller

end FlightLink
