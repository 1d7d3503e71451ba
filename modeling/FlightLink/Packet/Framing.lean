import FlightLink.Packet

/-!
# Cutting a byte stream into packets

Bytes are received in chunks of any size.  `Framing.cut` takes the next packet from the front of
what has been received, or discards one byte if no header starts there, or asks for more bytes.
`Framing.cutAll` repeats this until more bytes are needed.
-/

namespace FlightLink.Framing

/-- What the front of the received bytes turned out to be. -/
inductive Cut where
  /-- A complete packet, which has been taken. -/
  | packet (p : Packet)
  /-- No header starts here; one byte has been discarded. -/
  | invalidHeader (header : List UInt8)
  /-- More bytes are needed. -/
  | incomplete
  deriving DecidableEq, Repr

/-- Cuts once at the front of the received bytes; the second part is what remains of them. -/
def cut (received : List UInt8) : Cut × List UInt8 :=
  match received with
  | version :: reserved :: high :: low :: code :: rest =>
    let header := Packet.Header.decode version reserved high low code
    if header.isValid then
      let body := rest.take header.bodyLength
      if body.length < header.bodyLength then (.incomplete, received)
      else (.packet ⟨header.kind, body⟩, rest.drop header.bodyLength)
    else (.invalidHeader [version, reserved, high, low, code], received.tail)
  | _ => (.incomplete, received)

/-- Every cut that does not ask for more bytes consumes some. -/
theorem length_cut_lt {received : List UInt8} (h : (cut received).1 ≠ .incomplete) :
    (cut received).2.length < received.length := by
  unfold cut at h ⊢
  split
  · rename_i version reserved high low code rest
    dsimp only at h ⊢
    split
    · split
      · simp_all
      · simp only [List.length_drop, List.length_cons]
        omega
    · simp
  · simp at h

/-- Cuts until more bytes are needed; `done` holds the cuts so far, last one first. -/
def cutOnto (done : List Cut) (received : List UInt8) : List Cut × List UInt8 :=
  match _h : cut received with
  | (.incomplete, rest) => (done.reverse, rest)
  | (.packet p, rest) => cutOnto (.packet p :: done) rest
  | (.invalidHeader header, rest) => cutOnto (.invalidHeader header :: done) rest
termination_by received.length
decreasing_by
  all_goals
    have : (cut received).2.length < received.length := length_cut_lt (by simp [_h])
    simpa [_h] using this

/-- Cuts until more bytes are needed. -/
def cutAll (received : List UInt8) : List Cut × List UInt8 :=
  cutOnto [] received

end FlightLink.Framing
