import FlightLink.Proofs.Controller.Drive
import FlightLink.Proofs.Delivery.Exchange
import FlightLink.Proofs.Framing.Recovery
import FlightLink.Proofs.Text.Utf8

/-!
# Messages in a stream

A message in UTF-8 that is written at the end of a stream is found there, unless
it has no text.  The header of a packet without a body is refused, although such a
packet is written.  Its bytes are discarded one by one then, and they are no
obstacle to what is written after them.
-/

namespace FlightLink.Framing

open Packet

def Cut.message? : Cut → Option Message
  | packet p => some (.ofPacket .utf8 p)
  | invalidHeader _ | incomplete => none

/-- The messages in a stream. -/
def messages (stream : List UInt8) : List Message :=
  (cutAll stream).1.filterMap Cut.message?

/-- The bytes that are left over look like the start of no header. -/
def Clean (stream : List UInt8) : Prop :=
  version ∉ (cutAll stream).2

/-- The stream consists of packets. -/
structure Whole (stream : List UInt8) : Prop where
  rest : (cutAll stream).2 = []
  cuts : ∀ x ∈ (cutAll stream).1, ∃ p, x = .packet p

/-- The kinds of the packets that are sent in the course of an exchange. -/
def IsExchanged (kind : Kind) : Prop :=
  kind = .operational ∨ kind = .system

/-- A header of such a kind can be told from garbage, and garbage from a header. -/
theorem IsExchanged.ne_unknown {kind : Kind} (h : IsExchanged kind) :
    kind ≠ .unknown ∧ version ∉ [0, 0, 5, kind.code] := by
  rcases h with rfl | rfl <;> decide

theorem arrivals_inputs (cuts : List Cut) :
    (cuts.flatMap (Cut.inputs .utf8)).flatMap Channel.Input.arrivals =
      cuts.filterMap Cut.message? := by
  induction cuts with
  | nil => rfl
  | cons x cuts ih =>
      rw [List.flatMap_cons, List.flatMap_append, ih, List.filterMap_cons]
      cases x <;> rfl

/-- What has been cut needs no further cut. -/
theorem cutAll_rest (stream : List UInt8) : (cutAll (cutAll stream).2).1 = [] := by
  have hagain := congrArg Prod.fst (cutAll_append_cutAll stream [])
  rw [List.append_nil, List.append_nil] at hagain
  exact List.append_cancel_left (hagain.symm.trans (List.append_nil _).symm)

theorem ofPacket_encode (m : Message) :
    Message.ofPacket .utf8 ⟨m.kind, Charset.utf8.encode m.text⟩ = m := by
  obtain ⟨kind, text⟩ := m
  have htext : Charset.utf8.decode (Charset.utf8.encode text) = text := by
    rw [Charset.decode, Charset.encode, Text.Utf8.decode_encode, String.ofList_toList]
  rw [Message.ofPacket, htext]

theorem length_encode_pos {text : String} (h : text ≠ "") :
    0 < (Charset.utf8.encode text).length := by
  rw [List.length_pos_iff, Charset.encode, Ne, Text.Utf8.encode_eq_nil_iff,
    String.toList_eq_nil_iff]
  exact h

/-- Bytes at the end of a stream are cut behind those that are left over. -/
theorem cutAll_append_of_clean {stream bytes : List UInt8} (h : Clean stream)
    (hbytes : headerLength ≤ bytes.length + 1) :
    cutAll (stream ++ bytes) =
      precede ((cutAll stream).1 ++ complaints (cutAll stream).2 bytes) (cutAll bytes) := by
  rw [cutAll_append_cutAll, cutAll_garbage_append h hbytes, precede_append]

theorem cutAll_bytes {p : Packet} (h : p.IsFramable) : cutAll p.bytes = ([.packet p], []) := by
  have hcut := cut_bytes_append h []
  rw [List.append_nil] at hcut
  rw [cutAll_of_cut (by simp [hcut]), hcut, cutAll_nil]
  rfl

/-- A packet without a body is refused. -/
theorem cutAll_bytes_of_body_eq_nil (kind : Kind) :
    cutAll (Packet.bytes ⟨kind, []⟩) =
      ([.invalidHeader [2, 0, 0, 5, kind.code]], [0, 0, 5, kind.code]) := by
  have hcut : cut (Packet.bytes ⟨kind, []⟩) =
      (.invalidHeader [2, 0, 0, 5, kind.code], [0, 0, 5, kind.code]) := by
    cases kind <;> rfl
  rw [cutAll_of_cut (by simp [hcut]), hcut]
  simp [cutAll, cutOnto.eq_def, cut, precede]

theorem bytes_of_encode {m : Message} {bytes : List UInt8} (h : m.encode .utf8 = .ok bytes) :
    bytes = Packet.bytes ⟨m.kind, Charset.utf8.encode m.text⟩ ∧
      headerLength + (Charset.utf8.encode m.text).length < lengthLimit := by
  rw [Message.encode, Packet.encode] at h
  split at h
  · next hlength => exact ⟨(Except.ok.inj h).symm, hlength⟩
  · cases h

/-- What becomes of a message at the end of a stream. -/
theorem messages_append_encode {stream bytes : List UInt8} (h : Clean stream) {m : Message}
    (hkind : IsExchanged m.kind) (hbytes : m.encode .utf8 = .ok bytes) :
    messages (stream ++ bytes) = messages stream ++ (if m.text = "" then [] else [m]) ∧
      Clean (stream ++ bytes) ∧ (m.text ≠ "" → Whole stream → Whole (stream ++ bytes)) := by
  obtain ⟨rfl, hlength⟩ := bytes_of_encode hbytes
  have hlong : headerLength ≤
      (Packet.bytes ⟨m.kind, Charset.utf8.encode m.text⟩).length + 1 := by
    rw [length_bytes]
    omega
  have hcuts := cutAll_append_of_clean h hlong
  have hgarbage : ∀ garbage rest, (complaints garbage rest).filterMap Cut.message? = [] := by
    intro garbage rest
    induction garbage with
    | nil => rfl
    | cons b garbage ih => exact ih
  by_cases htext : m.text = ""
  · have hempty : Charset.utf8.encode m.text = [] := by
      rw [htext]
      rfl
    rw [hempty, cutAll_bytes_of_body_eq_nil] at hcuts
    rw [hempty, if_pos htext, messages, Clean, hcuts]
    refine ⟨?_, hkind.ne_unknown.2, fun hne => absurd htext hne⟩
    simp [precede, messages, hgarbage, Cut.message?]
  · have hframable : Packet.IsFramable ⟨m.kind, Charset.utf8.encode m.text⟩ :=
      ⟨hkind.ne_unknown.1, length_encode_pos htext, hlength⟩
    rw [cutAll_bytes hframable] at hcuts
    rw [if_neg htext, messages, Clean, hcuts]
    refine ⟨?_, List.not_mem_nil, ?_⟩
    · simp [precede, messages, hgarbage, Cut.message?, ofPacket_encode]
    · intro _ hwhole
      rw [hwhole.rest] at hcuts
      refine ⟨by rw [hcuts]; rfl, ?_⟩
      intro x hx
      rw [hcuts] at hx
      rcases List.mem_append.mp hx with hold | hnew
      · rw [complaints, List.append_nil] at hold
        exact hwhole.cuts x hold
      · exact ⟨_, List.mem_singleton.mp hnew⟩

end FlightLink.Framing
