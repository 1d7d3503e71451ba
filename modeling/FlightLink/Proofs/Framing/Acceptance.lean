import FlightLink.Proofs.Framing.Recovery
import Mathlib.Data.List.Induction

/-!
# What is cut is what has been encoded

A header is valid if and only if it opens the encoding of some packet that has
a known kind and a body.  So a packet is cut exactly where its encoding stands
whole at the front of the buffer, a byte is discarded exactly if the five bytes
at the front open no encoding, and in all other cases more bytes are needed.

No byte gets lost on the way.  Whatever chunks are put into a buffer and however
often a cut is asked for, the packets encoded again, the bytes discarded and
the rest of the buffer are together what has been put in.
-/

namespace FlightLink

namespace Packet

/-- The bytes are the encoding of the packet, which has a known kind and a
body. -/
structure Encodes (p : Packet) (bytes : List UInt8) : Prop where
  kind : p.kind ≠ .unknown
  body : p.body ≠ []
  encode : p.encode = .ok bytes

theorem IsFramable.encodes {p : Packet} (h : p.IsFramable) : p.Encodes p.bytes :=
  ⟨h.kind, List.ne_nil_of_length_pos h.body, encode_eq_ok h.length⟩

theorem Encodes.isFramable {p : Packet} {bytes : List UInt8}
    (h : p.Encodes bytes) : p.IsFramable ∧ bytes = p.bytes := by
  have hlength : headerLength + p.body.length < lengthLimit := by
    by_contra hlong
    have hfault : p.encode = .error (.payloadTooLong p.body.length) :=
      if_neg hlong
    rw [h.encode] at hfault
    cases hfault
  refine ⟨⟨h.kind, List.length_pos_of_ne_nil h.body, hlength⟩, ?_⟩
  have hbytes := h.encode
  rw [encode_eq_ok hlength] at hbytes
  exact (Except.ok.inj hbytes).symm

/-! ## Headers -/

theorem Kind.code_ofCode {code : UInt8} (h : ofCode code ≠ .unknown) :
    (ofCode code).code = code := by
  unfold ofCode at h ⊢
  split_ifs at h ⊢ with h₁ h₂ h₃ h₄ h₅
  · exact h₁.symm
  · exact h₂.symm
  · exact h₃.symm
  · exact h₄.symm
  · exact h₅.symm
  · exact absurd rfl h

namespace Header

theorem isValid_iff {h : Header} :
    h.isValid ↔ h.version = Packet.version ∧ h.reserved = Packet.reserved ∧
      h.kind ≠ .unknown ∧ headerLength < h.length ∧ h.length < lengthLimit := by
  simp only [isValid, Bool.and_eq_true, beq_iff_eq, bne_iff_ne, decide_eq_true_eq,
    and_assoc]

/-- A valid header is written as it was read. -/
theorem encode_decode {version reserved high low code : UInt8}
    (h : (decode version reserved high low code).kind ≠ .unknown) :
    (decode version reserved high low code).encode =
      [version, reserved, high, low, code] := by
  have hlow : low.toNat < 256 := low.toNat_lt
  have hhigh : (high.toNat * 256 + low.toNat) / 256 = high.toNat := by omega
  have hrest : (high.toNat * 256 + low.toNat) % 256 = low.toNat := by omega
  rw [encode, decode, hhigh, hrest, Kind.code_ofCode h]
  simp

/-- The packet that a valid header announces, once its body has arrived. -/
theorem isFramable_of_isValid {h : Header} (hvalid : h.isValid)
    {body : List UInt8} (hbody : body.length = h.bodyLength) :
    (Packet.mk h.kind body).IsFramable ∧
      (Packet.mk h.kind body).bytes = h.encode ++ body := by
  obtain ⟨hversion, hreserved, hkind, hlong, hshort⟩ := isValid_iff.mp hvalid
  have hlength : headerLength + body.length = h.length := by
    rw [hbody, bodyLength]
    omega
  refine ⟨⟨hkind, ?_, ?_⟩, ?_⟩
  · show 0 < body.length
    omega
  · show headerLength + body.length < lengthLimit
    omega
  · rw [bytes, hlength, ← hversion, ← hreserved]

end Header

end Packet

namespace Framing

open Packet

/-! ## Single cuts -/

/-- The encoding of some packet begins with the bytes. -/
def BeginsEncoding (front : List UInt8) : Prop :=
  ∃ p : Packet, ∃ bytes, p.Encodes bytes ∧ front <+: bytes

/-- A header is valid exactly if the encoding of some packet begins with it. -/
theorem isValid_decode_iff {version reserved high low code : UInt8} :
    (Header.decode version reserved high low code).isValid ↔
      BeginsEncoding [version, reserved, high, low, code] := by
  constructor
  · intro hvalid
    let header := Header.decode version reserved high low code
    let body : List UInt8 := List.replicate header.bodyLength 0
    have hbody : body.length = header.bodyLength := List.length_replicate
    obtain ⟨hframable, hbytes⟩ := Header.isFramable_of_isValid hvalid hbody
    have hencode := Header.encode_decode (Header.isValid_iff.mp hvalid).2.2.1
    refine ⟨⟨header.kind, body⟩, _, hframable.encodes, body, ?_⟩
    rw [hbytes, hencode]
  · rintro ⟨p, bytes, hp, more, rfl⟩
    obtain ⟨hframable, hbytes⟩ := hp.isFramable
    have hcut := cut_bytes_append hframable []
    rw [List.append_nil, ← hbytes] at hcut
    by_contra hinvalid
    simp only [List.cons_append, cut_header, if_neg hinvalid] at hcut
    cases hcut

/-- All that a cut can do. -/
theorem cut_cases (received : List UInt8) :
    (∃ p : Packet, ∃ bytes rest, p.Encodes bytes ∧ received = bytes ++ rest ∧
      cut received = (.packet p, rest)) ∨
    (headerLength ≤ received.length ∧
      ¬BeginsEncoding (received.take headerLength) ∧
      cut received = (.invalidHeader (received.take headerLength), received.tail)) ∨
    ((headerLength ≤ received.length →
        BeginsEncoding (received.take headerLength)) ∧
      cut received = (.incomplete, received)) := by
  match received with
  | [] | [_] | [_, _] | [_, _, _] | [_, _, _, _] =>
      exact .inr (.inr ⟨fun hlong => absurd hlong (by simp [headerLength]), rfl⟩)
  | version :: reserved :: high :: low :: code :: rest =>
      rw [cut_header]
      by_cases hvalid : (Header.decode version reserved high low code).isValid
      · rw [if_pos hvalid]
        by_cases hshort :
            rest.length < (Header.decode version reserved high low code).bodyLength
        · rw [if_pos hshort]
          exact .inr (.inr ⟨fun _ => isValid_decode_iff.mp hvalid, rfl⟩)
        · rw [if_neg hshort]
          left
          obtain ⟨hframable, hbytes⟩ := Header.isFramable_of_isValid hvalid
            (List.length_take_of_le (Nat.le_of_not_lt hshort))
          have hencode := Header.encode_decode (Header.isValid_iff.mp hvalid).2.2.1
          refine ⟨_, _, _, hframable.encodes, ?_, rfl⟩
          rw [hbytes, hencode, List.append_assoc, List.take_append_drop]
          rfl
      · rw [if_neg hvalid]
        right
        left
        refine ⟨?_, fun hbegins => hvalid (isValid_decode_iff.mpr hbegins), rfl⟩
        exact Nat.le_add_left _ _

/-- A packet is cut exactly where its encoding stands at the front. -/
theorem cut_eq_packet_iff {received rest : List UInt8} {p : Packet} :
    cut received = (.packet p, rest) ↔
      ∃ bytes, p.Encodes bytes ∧ received = bytes ++ rest := by
  constructor
  · intro hcut
    obtain ⟨q, bytes, rest', hq, hreceived, hpacket⟩ | ⟨-, -, hinvalid⟩ | ⟨-, hmore⟩ :=
      cut_cases received
    · rw [hpacket] at hcut
      cases hcut
      exact ⟨bytes, hq, hreceived⟩
    · rw [hinvalid] at hcut
      cases hcut
    · rw [hmore] at hcut
      cases hcut
  · rintro ⟨bytes, hp, rfl⟩
    obtain ⟨hframable, rfl⟩ := hp.isFramable
    exact cut_bytes_append hframable rest

/-- A whole encoding at the front begins with the header there. -/
theorem beginsEncoding_take {p : Packet} {bytes : List UInt8} (hp : p.Encodes bytes)
    (rest : List UInt8) : BeginsEncoding ((bytes ++ rest).take headerLength) := by
  obtain ⟨hframable, hbytes⟩ := hp.isFramable
  have hlong : headerLength ≤ bytes.length := by
    rw [hbytes, length_bytes]
    exact Nat.le_add_right _ _
  rw [List.take_append_of_le_length hlong]
  exact ⟨p, bytes, hp, List.take_prefix _ _⟩

/-- A byte is discarded exactly if the five bytes at the front begin no
encoding. -/
theorem cut_eq_invalidHeader_iff {received rest raw : List UInt8} :
    cut received = (.invalidHeader raw, rest) ↔
      headerLength ≤ received.length ∧ raw = received.take headerLength ∧
        ¬BeginsEncoding raw ∧ rest = received.tail := by
  constructor
  · intro hcut
    obtain ⟨q, bytes, rest', -, -, hpacket⟩ | ⟨hlong, hnone, hinvalid⟩ | ⟨-, hmore⟩ :=
      cut_cases received
    · rw [hpacket] at hcut
      cases hcut
    · rw [hinvalid] at hcut
      cases hcut
      exact ⟨hlong, rfl, hnone, rfl⟩
    · rw [hmore] at hcut
      cases hcut
  · rintro ⟨hlong, rfl, hnone, rfl⟩
    obtain ⟨q, bytes, rest', hq, rfl, -⟩ | ⟨-, -, hinvalid⟩ | ⟨hbegins, -⟩ :=
      cut_cases received
    · exact absurd (beginsEncoding_take hq rest') hnone
    · exact hinvalid
    · exact absurd (hbegins hlong) hnone

/-- In all other cases more bytes are needed, and nothing changes. -/
theorem cut_eq_incomplete_iff {received rest : List UInt8} :
    cut received = (.incomplete, rest) ↔
      (∀ p : Packet, ∀ bytes, p.Encodes bytes → ¬bytes <+: received) ∧
        (headerLength ≤ received.length →
          BeginsEncoding (received.take headerLength)) ∧
        rest = received := by
  constructor
  · intro hcut
    have hnone : ∀ p : Packet, ∀ bytes, p.Encodes bytes → ¬bytes <+: received := by
      rintro p bytes hp ⟨more, rfl⟩
      rw [cut_eq_packet_iff.mpr ⟨bytes, hp, rfl⟩] at hcut
      cases hcut
    obtain ⟨q, bytes, rest', -, -, hpacket⟩ | ⟨-, -, hinvalid⟩ | ⟨hbegins, hmore⟩ :=
      cut_cases received
    · rw [hpacket] at hcut
      cases hcut
    · rw [hinvalid] at hcut
      cases hcut
    · rw [hmore] at hcut
      cases hcut
      exact ⟨hnone, hbegins, rfl⟩
  · rintro ⟨hnone, hbegins, rfl⟩
    obtain ⟨q, bytes, rest', hq, rfl, -⟩ | ⟨hlong, hnot, -⟩ | ⟨-, hmore⟩ :=
      cut_cases rest
    · exact absurd (List.prefix_append bytes rest') (hnone q bytes hq)
    · exact absurd (hbegins hlong) hnot
    · exact hmore

/-! ## Runs -/

/-- What a cut has taken from the front: the packet as it is encoded, or the
byte discarded. -/
def Cut.taken : Cut → Except Fault (List UInt8)
  | packet p => p.encode
  | invalidHeader header => .ok (header.take 1)
  | incomplete => .ok []

/-- What a cut has taken and what it leaves were there before. -/
theorem cut_taken (received : List UInt8) :
    ∃ bytes, (cut received).1.taken = .ok bytes ∧
      received = bytes ++ (cut received).2 := by
  obtain ⟨q, bytes, rest, hq, hreceived, hpacket⟩ | ⟨hlong, -, hinvalid⟩ | ⟨-, hmore⟩ :=
    cut_cases received
  · rw [hpacket]
    exact ⟨bytes, hq.encode, hreceived⟩
  · rw [hinvalid]
    match received, hlong with
    | b :: rest, _ => exact ⟨[b], rfl, rfl⟩
  · rw [hmore]
    exact ⟨[], rfl, rfl⟩

/-- What can be asked of a buffer. -/
inductive Call where
  /-- Put further bytes at the end. -/
  | extend (chunk : List UInt8)
  /-- Cut once at the front. -/
  | next

/-- The bytes that a call puts into the buffer. -/
def Call.chunk : Call → List UInt8
  | extend chunk => chunk
  | next => []

/-- The cuts that have been made so far, and the buffer, after one more call. -/
def answer (found : List Cut × List UInt8) : Call → List Cut × List UInt8
  | .extend chunk => (found.1, found.2 ++ chunk)
  | .next => (found.1 ++ [(cut found.2).1], (cut found.2).2)

/-- The cuts that are made by calls on an empty buffer, and what remains in
it. -/
def answers (calls : List Call) : List Cut × List UInt8 :=
  calls.foldl answer ([], [])

theorem answers_concat (calls : List Call) (call : Call) :
    answers (calls ++ [call]) = answer (answers calls) call := by
  rw [answers, List.foldl_append]
  rfl

/-- What has been taken and what remains is what has been put in. -/
theorem answers_taken (calls : List Call) :
    ∃ pieces, (answers calls).1.mapM Cut.taken = .ok pieces ∧
      calls.flatMap Call.chunk = pieces.flatten ++ (answers calls).2 := by
  induction calls using List.reverseRecOn with
  | nil => exact ⟨[], rfl, rfl⟩
  | append_singleton calls call ih =>
      obtain ⟨pieces, hpieces, hbytes⟩ := ih
      rw [answers_concat, List.flatMap_append, List.flatMap_singleton, hbytes]
      cases call with
      | extend chunk => exact ⟨pieces, hpieces, List.append_assoc _ _ _⟩
      | next =>
          obtain ⟨bytes, htaken, hfront⟩ := cut_taken (answers calls).2
          refine ⟨pieces ++ [bytes], ?_, ?_⟩
          · rw [answer, List.mapM_append, hpieces, List.mapM_cons, htaken]
            rfl
          · rw [answer, Call.chunk, List.append_nil, List.flatten_concat,
              List.append_assoc, ← hfront]

/-- The cutter takes exactly the packets that are encoded.  A packet comes out
if and only if its encoding stands at the front, and a complaint about a header
if and only if five bytes are there that begin no encoding; otherwise nothing
happens.  Over any calls, all that has been put in is made up of the packets
encoded again, the bytes discarded, and the rest. -/
theorem cut_encodings (received : List UInt8) (calls : List Call) :
    (∀ p rest, cut received = (.packet p, rest) ↔
      ∃ bytes, p.Encodes bytes ∧ received = bytes ++ rest) ∧
    (∀ raw rest, cut received = (.invalidHeader raw, rest) ↔
      headerLength ≤ received.length ∧ raw = received.take headerLength ∧
        ¬BeginsEncoding raw ∧ rest = received.tail) ∧
    (∀ rest, cut received = (.incomplete, rest) ↔
      (∀ p : Packet, ∀ bytes, p.Encodes bytes → ¬bytes <+: received) ∧
        (headerLength ≤ received.length →
          BeginsEncoding (received.take headerLength)) ∧
        rest = received) ∧
    ∃ pieces, (answers calls).1.mapM Cut.taken = .ok pieces ∧
      calls.flatMap Call.chunk = pieces.flatten ++ (answers calls).2 :=
  ⟨fun _ _ => cut_eq_packet_iff, fun _ _ => cut_eq_invalidHeader_iff,
    fun _ => cut_eq_incomplete_iff, answers_taken calls⟩

end Framing

end FlightLink
