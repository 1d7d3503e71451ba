import FlightLink.Proofs.Controller.Oversize
import FlightLink.Proofs.Framing.Acceptance

/-!
# What a controller keeps of a stream

Bytes are cut again and again until more of them are needed.  Every other cut takes a packet
or discards a byte, so this comes to an end.  More bytes are needed only if there is no whole
header, or if a valid header announces more than has arrived; as no valid header announces a
packet of `lengthLimit` bytes, fewer than that are left over.

A controller cuts whenever bytes arrive and keeps what is left over.  It never keeps as many
bytes as `lengthLimit`, whatever arrives and however it is divided into chunks.
-/

namespace FlightLink

namespace Framing

open Packet

/-- Cutting again and again until a cut asks for more bytes: the cuts that took something
before that, and what they leave. -/
inductive Exhausts : List UInt8 → List Cut → List UInt8 → Prop where
  | incomplete {received : List UInt8} (h : (cut received).1 = .incomplete) :
      Exhausts received [] (cut received).2
  | next {received rest : List UInt8} {cuts : List Cut}
      (h : (cut received).1 ≠ .incomplete) (hrest : Exhausts (cut received).2 cuts rest) :
      Exhausts received ((cut received).1 :: cuts) rest

variable {received rest : List UInt8} {cuts : List Cut}

/-- Whatever is cut, more bytes are needed in the end. -/
theorem exhausts_cutAll (received : List UInt8) :
    Exhausts received (cutAll received).1 (cutAll received).2 := by
  induction hn : received.length using Nat.strongRecOn generalizing received with
  | ind n ih =>
      by_cases h : (cut received).1 = .incomplete
      · have hend := Exhausts.incomplete h
        rw [cut_eq_of_incomplete h] at hend
        rwa [cutAll_of_incomplete h]
      · rw [cutAll_of_cut h]
        apply Exhausts.next h
        -- A cut that takes something leaves fewer bytes.
        exact ih _ (hn ▸ length_cut_lt h) _ rfl

/-- There is but one way in which the cuts can go. -/
theorem Exhausts.cutAll_eq (h : Exhausts received cuts rest) :
    cutAll received = (cuts, rest) := by
  induction h with
  | incomplete h => rw [cutAll_of_incomplete h, cut_eq_of_incomplete h]
  | next h _ ih =>
      rw [cutAll_of_cut h, ih]
      rfl

/-- Every cut but the last one takes at least a byte. -/
theorem Exhausts.length_add_length_le (h : Exhausts received cuts rest) :
    cuts.length + rest.length ≤ received.length := by
  induction h with
  | incomplete h =>
      rw [cut_eq_of_incomplete h]
      exact Nat.le_of_eq (Nat.zero_add _)
  | next h _ ih =>
      have hlt := length_cut_lt h
      rw [List.length_cons]
      omega

/-- More bytes are needed only for a packet that a header can announce. -/
theorem length_lt_of_incomplete (h : (cut received).1 = .incomplete) :
    received.length + 1 < lengthLimit := by
  match received with
  | [] | [_] | [_, _] | [_, _, _] | [_, _, _, _] =>
      simp only [List.length_cons, List.length_nil, lengthLimit]
      decide
  | version :: reserved :: high :: low :: code :: rest =>
      rw [cut_header] at h
      generalize Header.decode version reserved high low code = header at h
      by_cases hvalid : header.isValid
      · by_cases hshort : rest.length < header.bodyLength
        · obtain ⟨-, -, -, hlong, hlimit⟩ := Header.isValid_iff.mp hvalid
          calc
            (version :: reserved :: high :: low :: code :: rest).length + 1
                = headerLength + (rest.length + 1) := Nat.add_comm (rest.length + 1) 5
            _ ≤ headerLength + header.bodyLength := Nat.add_le_add_left hshort _
            _ = header.length := Nat.add_sub_of_le (Nat.le_of_lt hlong)
            _ < lengthLimit := hlimit
        · simp [hvalid, hshort] at h
      · simp [hvalid] at h

/-- The longest packet that a header can announce is not whole without its last byte. -/
theorem Exhausts.length_rest_lt (h : Exhausts received cuts rest) :
    rest.length + 1 < lengthLimit := by
  induction h with
  | incomplete h =>
      rw [cut_eq_of_incomplete h]
      exact length_lt_of_incomplete h
  | next _ _ ih => exact ih

end Framing

namespace Controller

open Framing

variable {config : Config} {c : Controller}

/-- What is kept when an input is taken is what was kept before, or what cutting leaves, or
nothing. -/
theorem length_received_take_lt (h : c.received.length < Packet.lengthLimit) (i : Input) :
    (c.take i).1.received.length < Packet.lengthLimit := by
  rw [take_received]
  split
  · decide
  · exact Nat.lt_of_succ_lt (exhausts_cutAll _).length_rest_lt
  · exact h

/-- At no time are as many bytes kept as the limit of a packet's length. -/
theorem Reachable.length_received_lt (h : Reachable config c) :
    c.received.length < Packet.lengthLimit := by
  induction h with
  | ofConfig => exact Nat.zero_lt_succ _
  | take h i ih => exact length_received_take_lt ih i
  | perform h hr ih =>
      obtain ⟨a, rest, -, rfl⟩ := exists_perform_of_performNext? hr
      rw [(follows_perform _ _ a).2.1]
      exact ih
  | elapse h clock now ih => exact ih
  | nextExpiry h ih => exact ih
  | attach h gone ih => exact ih

/-- What a controller keeps once bytes have arrived is what cutting leaves of all it has. -/
theorem exists_exhausts_turn (hgoing : c.ending? = none) (now : Nat) (bytes : ByteArray) :
    ∃ cuts, Exhausts (c.received ++ bytes.data.toList) cuts
      (c.turn now (.signal (.received bytes))).1.received := by
  rw [received_turn hgoing, take_received]
  exact ⟨_, exhausts_cutAll _⟩

/-- Cutting ends, whatever has been received: there are at most as many cuts that take
something as there are bytes, and at most 65528 bytes are left over.  So a controller never
keeps as many bytes as the limit of a packet's length, whatever arrives. -/
theorem Reachable.backlog_bounded (h : Reachable config c) (hgoing : c.ending? = none)
    (received : List UInt8) (now : Nat) (bytes : ByteArray) :
    (∃ cuts rest, Exhausts received cuts rest ∧ cuts.length ≤ received.length ∧
      rest.length ≤ 65528) ∧
    c.received.length < Packet.lengthLimit ∧
    ∃ cuts, Exhausts (c.received ++ bytes.data.toList) cuts
        (c.turn now (.signal (.received bytes))).1.received ∧
      cuts.length ≤ c.received.length + bytes.size ∧
      (c.turn now (.signal (.received bytes))).1.received.length < Packet.lengthLimit := by
  refine ⟨?_, h.length_received_lt, ?_⟩
  · have hends := exhausts_cutAll received
    refine ⟨_, _, hends, ?_, ?_⟩
    · exact Nat.le_of_add_right_le hends.length_add_length_le
    · exact Nat.le_of_lt_succ (Nat.lt_of_succ_lt_succ hends.length_rest_lt)
  · obtain ⟨cuts, hends⟩ := exists_exhausts_turn hgoing now bytes
    refine ⟨cuts, hends, ?_, (h.turn now _).length_received_lt⟩
    have hle := hends.length_add_length_le
    rw [List.length_append, Array.length_toList] at hle
    exact Nat.le_of_add_right_le hle

/-- A connected controller to which a stray byte and the start of a header have come. -/
def strayed : Controller :=
  [.start, .signal (.connected true), .signal (.received ⟨#[9, 2, 0]⟩)].foldl
    (fun c i => (c.turn 0 i).1) (ofConfig (.sample .client))

/-- The rest of a header that announces the longest packet, and all of its body but one byte. -/
def nearlyAll : ByteArray :=
  ⟨(255 :: 249 :: 1 :: List.replicate 65523 65 : List UInt8).toArray⟩

theorem exists_nearlyAll_eq :
    ∃ body : List UInt8, nearlyAll.data.toList = 255 :: 249 :: 1 :: body ∧
      body.length = 65523 :=
  ⟨_, List.toList_toArray, List.length_replicate⟩

/-- The stray byte is discarded, and the bound is reached. -/
theorem backlog_bounded_strayed :
    Reachable (.sample .client) strayed ∧ strayed.ending? = none ∧
      strayed.received = [9, 2, 0] ∧
      Exhausts (strayed.received ++ nearlyAll.data.toList)
        [.invalidHeader [9, 2, 0, 255, 249]]
        (strayed.turn 1 (.signal (.received nearlyAll))).1.received ∧
      (strayed.turn 1 (.signal (.received nearlyAll))).1.received.length = 65528 := by
  have hreachable : Reachable (.sample .client) strayed := Reachable.ofConfig.turns _
  have hgoing : strayed.ending? = none := by decide +kernel
  have hkept : strayed.received = [9, 2, 0] := by decide +kernel
  obtain ⟨body, hbytes, hlength⟩ := exists_nearlyAll_eq
  have hall : strayed.received ++ nearlyAll.data.toList =
      9 :: 2 :: 0 :: 255 :: 249 :: 1 :: body := by
    rw [hkept, hbytes]
    rfl
  have hfirst : cut (9 :: 2 :: 0 :: 255 :: 249 :: 1 :: body) =
      (.invalidHeader [9, 2, 0, 255, 249], 2 :: 0 :: 255 :: 249 :: 1 :: body) :=
    cut_of_ne_version (by decide) (Nat.le_add_left _ _)
  have hlast : (cut (2 :: 0 :: 255 :: 249 :: 1 :: body)).1 = .incomplete := by
    have hvalid : (Packet.Header.decode 2 0 255 249 1).isValid := by decide
    have hshort : body.length < (Packet.Header.decode 2 0 255 249 1).bodyLength := by
      rw [hlength]
      decide
    rw [cut_header, if_pos hvalid, if_pos hshort]
  obtain ⟨-, -, cuts, hends, -, -⟩ :=
    hreachable.backlog_bounded hgoing (strayed.received ++ nearlyAll.data.toList) 1 nearlyAll
  have hcuts := hends.cutAll_eq
  rw [hall, cutAll_of_cut (by simp [hfirst]), hfirst, cutAll_of_incomplete hlast] at hcuts
  obtain ⟨rfl, hrest⟩ := Prod.mk.inj hcuts
  refine ⟨hreachable, hgoing, hkept, hends, ?_⟩
  rw [← hrest]
  simp only [List.length_cons, hlength]

end Controller

end FlightLink
