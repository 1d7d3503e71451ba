import FlightLink.Proofs.Framing.Chunking
import Mathlib.Tactic.Common

/-!
# Packets behind garbage

A stream is made of packets with garbage before them.  No byte of the garbage
looks like the start of a header, so each of them is discarded on its own, and
the header of the packet behind them is found where it begins.  The borders of
chunks have no influence on that.
-/

namespace FlightLink

namespace Packet

/-- A packet that a header can announce. -/
structure IsFramable (p : Packet) : Prop where
  kind : p.kind ≠ .unknown
  body : 0 < p.body.length
  length : headerLength + p.body.length < lengthLimit

/-- A header and a body one after the other. -/
def bytes (p : Packet) : List UInt8 :=
  (Header.mk version reserved (headerLength + p.body.length) p.kind).encode ++ p.body

theorem encode_eq_ok {p : Packet} (h : headerLength + p.body.length < lengthLimit) :
    p.encode = .ok p.bytes :=
  if_pos h

theorem length_bytes (p : Packet) : p.bytes.length = headerLength + p.body.length := by
  rw [bytes, List.length_append]
  rfl

theorem Kind.ofCode_code (k : Kind) : ofCode k.code = k := by
  cases k <;> rfl

/-- A length that two bytes can hold is read as it was written. -/
theorem Header.decode_encode {n : Nat} (hn : n < 65536) (k : Kind) :
    Header.decode Packet.version Packet.reserved (n / 256).toUInt8 (n % 256).toUInt8 k.code =
      ⟨Packet.version, Packet.reserved, n, k⟩ := by
  have hhigh : (n / 256).toUInt8.toNat = n / 256 :=
    UInt8.toNat_ofNat_of_lt' (by simp only [UInt8.size]; omega)
  have hlow : (n % 256).toUInt8.toNat = n % 256 :=
    UInt8.toNat_ofNat_of_lt' (by simp only [UInt8.size]; omega)
  rw [Header.decode, hhigh, hlow, Kind.ofCode_code, Nat.div_add_mod']

end Packet

namespace Framing

open Packet

/-- The packet at the front of a stream is taken whole. -/
theorem cut_bytes_append {p : Packet} (h : p.IsFramable) (rest : List UInt8) :
    cut (p.bytes ++ rest) = (.packet p, rest) := by
  have hlength := h.length
  have hsmall : headerLength + p.body.length < 65536 :=
    Nat.lt_trans hlength (by decide)
  have hheader := Header.decode_encode hsmall p.kind
  have hvalid : (Header.mk version reserved (headerLength + p.body.length) p.kind).isValid := by
    have hbody := h.body
    have hkind := h.kind
    simp only [Header.isValid, beq_self_eq_true, Bool.and_eq_true, decide_eq_true_eq, bne_iff_ne]
    exact ⟨⟨⟨⟨trivial, trivial⟩, hkind⟩, by omega⟩, hlength⟩
  have hbodyLength :
      (Header.mk version reserved (headerLength + p.body.length) p.kind).bodyLength =
        p.body.length :=
    Nat.add_sub_cancel_left _ _
  have hlong : ¬(p.body ++ rest).length < p.body.length := by
    rw [List.length_append]
    omega
  rw [bytes, Header.encode]
  simp only [List.cons_append, List.nil_append, cut_header, hheader]
  rw [if_pos hvalid, hbodyLength, if_neg hlong, List.take_left, List.drop_left]

/-- A byte that opens no header is discarded once a whole header could have
been read. -/
theorem cut_of_ne_version {b : UInt8} (hb : b ≠ version) {rest : List UInt8}
    (hrest : headerLength ≤ rest.length + 1) :
    cut (b :: rest) = (.invalidHeader ((b :: rest).take headerLength), rest) := by
  match rest, hrest with
  | reserved :: high :: low :: code :: rest, _ =>
      have hinvalid : (Header.decode b reserved high low code).isValid = false := by
        simp [Header.isValid, Header.decode, hb]
      rw [cut_header, hinvalid]
      rfl

/-- The complaints about bytes in front of others: one for each of them, with
the header that it seemed to open. -/
def complaints : List UInt8 → List UInt8 → List Cut
  | [], _ => []
  | b :: garbage, rest =>
    .invalidHeader ((b :: garbage ++ rest).take headerLength) :: complaints garbage rest

theorem complaints_append (garbage : List UInt8) {rest more : List UInt8}
    (hrest : headerLength ≤ rest.length + 1) :
    complaints garbage (rest ++ more) = complaints garbage rest := by
  induction garbage with
  | nil => rfl
  | cons b garbage ih =>
      have hlong : headerLength ≤ (b :: garbage ++ rest).length := by
        rw [List.length_append, List.length_cons]
        omega
      rw [complaints, complaints, ih, ← List.append_assoc,
        List.take_append_of_le_length hlong]

/-- Garbage is discarded byte by byte. -/
theorem cutAll_garbage_append {garbage : List UInt8} (hclean : version ∉ garbage)
    {rest : List UInt8} (hrest : headerLength ≤ rest.length + 1) :
    cutAll (garbage ++ rest) = precede (complaints garbage rest) (cutAll rest) := by
  induction garbage with
  | nil => rfl
  | cons b garbage ih =>
      obtain ⟨hb, hgarbage⟩ := not_or.mp (mt List.mem_cons.mpr hclean)
      have hlong : headerLength ≤ (garbage ++ rest).length + 1 := by
        rw [List.length_append]
        omega
      have hcut := cut_of_ne_version (Ne.symm hb) hlong
      rw [List.cons_append, cutAll_of_cut (by simp [hcut]), hcut, ih hgarbage,
        ← precede_append]
      rfl

/-- A packet and the garbage before it. -/
structure Segment where
  garbage : List UInt8
  packet : Packet
  clean : version ∉ garbage
  framable : packet.IsFramable

namespace Segment

def encode (s : Segment) : Except Fault (List UInt8) :=
  s.packet.encode.map (s.garbage ++ ·)

/-- What a segment is cut into. -/
def cuts (s : Segment) : List Cut :=
  complaints s.garbage s.packet.bytes ++ [.packet s.packet]

theorem encode_eq_ok (s : Segment) : s.encode = .ok (s.garbage ++ s.packet.bytes) := by
  rw [encode, Packet.encode_eq_ok s.framable.length]
  rfl

/-- A segment at the front of a stream is cut as if nothing came after it. -/
theorem cutAll_append (s : Segment) (rest : List UInt8) :
    cutAll (s.garbage ++ s.packet.bytes ++ rest) = precede s.cuts (cutAll rest) := by
  have hlong : headerLength ≤ s.packet.bytes.length + 1 := by
    rw [length_bytes]
    omega
  have hlonger : headerLength ≤ (s.packet.bytes ++ rest).length + 1 := by
    rw [List.length_append]
    omega
  have hcut := cut_bytes_append s.framable rest
  rw [List.append_assoc, cutAll_garbage_append s.clean hlonger,
    complaints_append s.garbage hlong, cutAll_of_cut (by simp [hcut]), hcut,
    ← precede_append]
  rfl

end Segment

theorem mapM_encode_eq_ok (segments : List Segment) :
    segments.mapM Segment.encode =
      .ok (segments.map fun s => s.garbage ++ s.packet.bytes) := by
  induction segments with
  | nil => rfl
  | cons s segments ih =>
      rw [List.mapM_cons, s.encode_eq_ok, ih]
      rfl

theorem cutAll_segments (segments : List Segment) :
    cutAll (segments.flatMap fun s => s.garbage ++ s.packet.bytes) =
      (segments.flatMap Segment.cuts, []) := by
  induction segments with
  | nil => simp [cutAll, cutOnto.eq_def, cut]
  | cons s segments ih =>
      rw [List.flatMap_cons, List.flatMap_cons, s.cutAll_append, ih]
      rfl

/-- Segments can be encoded.  In whatever chunks their bytes arrive, and
however often a cut is tried in between, every packet is found behind one
complaint for each byte of the garbage before it, and no byte is left. -/
theorem feed_segments (segments : List Segment) :
    ∃ stream,
      (segments.mapM Segment.encode).map List.flatten = .ok stream ∧
        ∀ deliveries : List Delivery,
          deliveries.flatMap Delivery.chunk = stream →
            feed [] deliveries = (segments.flatMap Segment.cuts, []) := by
  refine ⟨segments.flatMap fun s => s.garbage ++ s.packet.bytes, ?_, ?_⟩
  · rw [mapM_encode_eq_ok]
    rfl
  · intro deliveries hstream
    rw [feed_of_flatMap hstream]
    exact cutAll_segments segments

theorem feed_segments_straddling :
    feed [] [⟨[7], 3⟩, ⟨[9, 2, 0], 1⟩, ⟨[0, 6, 1], 0⟩, ⟨[65], 2⟩] =
      ([.invalidHeader [7, 9, 2, 0, 0], .invalidHeader [9, 2, 0, 0, 6],
        .packet ⟨.operational, [65]⟩], []) := by
  have hpacket : Packet.IsFramable ⟨.operational, [65]⟩ :=
    ⟨by decide, by decide, by decide⟩
  obtain ⟨stream, hstream, hfeed⟩ :=
    feed_segments [⟨[7, 9], ⟨.operational, [65]⟩, by decide, hpacket⟩]
  have hbytes : Packet.bytes ⟨.operational, [65]⟩ = [2, 0, 0, 6, 1, 65] := by
    decide
  rw [mapM_encode_eq_ok] at hstream
  obtain rfl := Except.ok.inj hstream
  rw [hfeed _ (by simp [hbytes])]
  simp [Segment.cuts, complaints, hbytes, headerLength]

end Framing

end FlightLink
