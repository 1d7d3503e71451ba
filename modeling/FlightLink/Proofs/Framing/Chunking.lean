import FlightLink.Packet.Framing
import Mathlib.Data.List.Basic

/-!
# Chunks of a byte stream

A stream arrives in chunks, and after each of them a cut may be tried any
number of times before the next one arrives.  Headers, bodies and the search
for the next header after an invalid one may straddle the borders of chunks.
The cuts found on the way and the bytes that remain depend on the stream only.

The argument rests on one fact about `cut`: a cut that consumes something is
decided by the bytes that it has seen, so bytes that arrive later do not change
it.
-/

namespace FlightLink.Framing

/-! ## Single cuts -/

/-- A cut is decided by the header and the number of bytes behind it. -/
theorem cut_header (version reserved high low code : UInt8)
    (rest : List UInt8) :
    let header := Packet.Header.decode version reserved high low code
    let received := version :: reserved :: high :: low :: code :: rest
    cut received =
      if header.isValid then
        if rest.length < header.bodyLength then (.incomplete, received)
        else (.packet ⟨header.kind, rest.take header.bodyLength⟩,
          rest.drop header.bodyLength)
      else (.invalidHeader [version, reserved, high, low, code],
        received.tail) := by
  have hlen : ∀ n : Nat, (rest.take n).length < n ↔ rest.length < n := by
    intro n
    simp only [List.length_take]
    omega
  simp only [cut, hlen]

/-- More bytes do not change a cut that has been made. -/
theorem cut_append {received : List UInt8}
    (h : (cut received).1 ≠ .incomplete) (more : List UInt8) :
    cut (received ++ more) = ((cut received).1, (cut received).2 ++ more) := by
  match received with
  | [] | [_] | [_, _] | [_, _, _] | [_, _, _, _] => simp [cut] at h
  | version :: reserved :: high :: low :: code :: rest =>
      simp only [List.cons_append, cut_header] at h ⊢
      generalize
        Packet.Header.decode version reserved high low code = header at h ⊢
      by_cases hvalid : header.isValid
      · by_cases hshort : rest.length < header.bodyLength
        · simp [hvalid, hshort] at h
        · have hbody : header.bodyLength ≤ rest.length := by omega
          have hlong : ¬(rest ++ more).length < header.bodyLength := by
            rw [List.length_append]
            omega
          rw [if_pos hvalid, if_pos hvalid, if_neg hshort, if_neg hlong,
            List.take_append_of_le_length hbody,
            List.drop_append_of_le_length hbody]
      · simp [hvalid]

/-- A cut that asks for more bytes leaves everything as it is. -/
theorem cut_eq_of_incomplete {received : List UInt8}
    (h : (cut received).1 = .incomplete) :
    cut received = (.incomplete, received) := by
  match received with
  | [] | [_] | [_, _] | [_, _, _] | [_, _, _, _] => rfl
  | version :: reserved :: high :: low :: code :: rest =>
      rw [cut_header] at h ⊢
      generalize
        Packet.Header.decode version reserved high low code = header at h ⊢
      by_cases hvalid : header.isValid
      · by_cases hshort : rest.length < header.bodyLength
        · rw [if_pos hvalid, if_pos hshort]
        · simp [hvalid, hshort] at h
      · simp [hvalid] at h

/-! ## Cutting until more bytes are needed -/

/-- The cuts found before some others, whose remaining bytes count. -/
def precede (cuts : List Cut) (later : List Cut × List UInt8) :
    List Cut × List UInt8 :=
  (cuts ++ later.1, later.2)

@[simp] theorem precede_nil (later : List Cut × List UInt8) :
    precede [] later = later := rfl

theorem precede_append (earlier cuts : List Cut)
    (later : List Cut × List UInt8) :
    precede (earlier ++ cuts) later = precede earlier (precede cuts later) := by
  simp [precede]

theorem cutOnto_eq (done : List Cut) (received : List UInt8) :
    cutOnto done received = precede done.reverse (cutAll received) := by
  induction hn : received.length using Nat.strongRecOn
    generalizing done received with
  | ind n ih =>
      have hstep : ∀ {x : Cut} {rest : List UInt8},
          cut received = (x, rest) → x ≠ .incomplete →
            cutOnto (x :: done) rest =
              precede done.reverse (cutOnto [x] rest) := by
        intro x rest hx hne
        have hlt : rest.length < n := by
          have hlen : (cut received).2.length < received.length :=
            length_cut_lt (by rwa [hx])
          rwa [hx, hn] at hlen
        rw [ih _ hlt _ _ rfl, ih _ hlt _ _ rfl, ← precede_append]
        simp
      rw [cutAll, cutOnto.eq_def, cutOnto.eq_def]
      split
      · simp [precede]
      · next hx => exact hstep hx (by simp)
      · next hx => exact hstep hx (by simp)

theorem cutAll_nil : cutAll [] = ([], []) := by
  simp [cutAll, cutOnto.eq_def, cut]

/-- The first cut of a stream comes before all others. -/
theorem cutAll_of_cut {received : List UInt8}
    (h : (cut received).1 ≠ .incomplete) :
    cutAll received =
      precede [(cut received).1] (cutAll (cut received).2) := by
  rw [cutAll, cutOnto.eq_def]
  split
  · next hx => simp [hx] at h
  · next hx => rw [cutOnto_eq, hx]; rfl
  · next hx => rw [cutOnto_eq, hx]; rfl

/-- Without a first cut nothing is cut, and nothing changes. -/
theorem cutAll_of_incomplete {received : List UInt8}
    (h : (cut received).1 = .incomplete) : cutAll received = ([], received) := by
  rw [cutAll, cutOnto.eq_def]
  split
  · next hx => simpa [cut_eq_of_incomplete h, eq_comm] using hx
  · next hx => simp [hx] at h
  · next hx => simp [hx] at h

/-- The cuts of a stream come before those of the bytes that arrive later. -/
theorem cutAll_append_cutAll (received more : List UInt8) :
    cutAll (received ++ more) =
      precede (cutAll received).1 (cutAll ((cutAll received).2 ++ more)) := by
  induction hn : received.length using Nat.strongRecOn generalizing received with
  | ind n ih =>
      by_cases h : (cut received).1 = .incomplete
      · rw [cutAll_of_incomplete h, precede_nil]
      · have happend := cut_append h more
        have hlt : (cut received).2.length < n := hn ▸ length_cut_lt h
        rw [cutAll_of_cut h, cutAll_of_cut (by rwa [happend]), happend,
          ih _ hlt _ rfl, ← precede_append]
        rfl

/-! ## Chunks -/

/-- Bytes that arrive together, and how often a cut is tried before the next
bytes arrive. -/
structure Delivery where
  chunk : List UInt8
  tries : Nat

/-- Tries a number of cuts; those that only ask for more bytes are not
listed. -/
def cutTimes : Nat → List UInt8 → List Cut × List UInt8
  | 0, received => ([], received)
  | n + 1, received =>
    match cut received with
    | (.incomplete, rest) => cutTimes n rest
    | (x, rest) => precede [x] (cutTimes n rest)

/-- Takes deliveries one after the other and cuts at the end until more bytes
are needed. -/
def feed (received : List UInt8) : List Delivery → List Cut × List UInt8
  | [] => cutAll received
  | d :: rest =>
    let found := cutTimes d.tries (received ++ d.chunk)
    precede found.1 (feed found.2 rest)

/-- Cuts tried early are those that come first once more bytes have arrived. -/
theorem cutAll_append (n : Nat) (received more : List UInt8) :
    cutAll (received ++ more) =
      precede (cutTimes n received).1
        (cutAll ((cutTimes n received).2 ++ more)) := by
  induction n generalizing received with
  | zero => rfl
  | succ n ih =>
      by_cases h : (cut received).1 = .incomplete
      · have hcut := cut_eq_of_incomplete h
        have htimes : cutTimes (n + 1) received = cutTimes n received := by
          simp [cutTimes, hcut]
        rw [htimes]
        exact ih received
      · have htimes : cutTimes (n + 1) received =
            precede [(cut received).1] (cutTimes n (cut received).2) := by
          rw [cutTimes]
          split
          · next hx => simp [hx] at h
          · next hx => simp [hx]
        have happend := cut_append h more
        calc
          cutAll (received ++ more) =
              precede [(cut received).1]
                (cutAll ((cut received).2 ++ more)) := by
            rw [cutAll_of_cut (by rwa [happend]), happend]
          _ = precede [(cut received).1]
                (precede (cutTimes n (cut received).2).1
                  (cutAll ((cutTimes n (cut received).2).2 ++ more))) := by
            rw [ih]
          _ = precede (cutTimes (n + 1) received).1
                (cutAll ((cutTimes (n + 1) received).2 ++ more)) := by
            rw [← precede_append, htimes]
            rfl

/-- Whatever deliveries make up a stream, they are cut as the stream is. -/
theorem feed_of_flatMap {received stream : List UInt8} {deliveries : List Delivery}
    (h : received ++ deliveries.flatMap Delivery.chunk = stream) :
    feed received deliveries = cutAll stream := by
  induction deliveries generalizing received stream with
  | nil => rw [← h, List.flatMap_nil, List.append_nil, feed]
  | cons d rest ih =>
      rw [List.flatMap_cons, ← List.append_assoc] at h
      rw [← h, cutAll_append d.tries (received ++ d.chunk), feed, ih rfl]

/-- However a stream is cut into chunks and however often a cut is tried in
between, the cuts found and the bytes that remain are those of the whole
stream. -/
theorem feed_eq_cutAll (received : List UInt8) (deliveries : List Delivery) :
    feed received deliveries =
      cutAll (received ++ deliveries.flatMap Delivery.chunk) :=
  feed_of_flatMap rfl

end FlightLink.Framing
