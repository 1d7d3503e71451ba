import FlightLink.Proofs.Channel.Connection
import FlightLink.Proofs.Channel.Identification
import FlightLink.Proofs.Controller.Drive
import FlightLink.Proofs.Framing.Chunking

/-!
# Nobody gets past the identification

A controller is watched from its start: whether it has been told of a
connection, and since the latest start of one, the bytes received and the deeds
of its channel.  The transport reports a start only while there is no
connection; in between it reports what has been received, the admission of a
client, and the packets that have been written.  Commands, expiries and failures
to write can come at any time.

Whenever the channel has passed the identification, the log shows that the peer
has identified itself on this very connection.  Nothing that an earlier
connection has left behind can stand in for that: its end takes the channel back
to `State.idle` and lets go of the messages on hold.
-/

namespace FlightLink.Controller

open Channel Effect

/-- Whether a message has been framed from bytes. -/
def Framed (stream : List UInt8) (m : Message) : Prop :=
  ∃ charset p, .packet p ∈ (Framing.cutAll stream).1 ∧ m = .ofPacket charset p

theorem Framed.append {stream : List UInt8} {m : Message} (h : Framed stream m)
    (more : List UInt8) : Framed (stream ++ more) m := by
  obtain ⟨charset, p, hp, rfl⟩ := h
  refine ⟨charset, p, ?_, rfl⟩
  rw [Framing.cutAll_append_cutAll]
  exact List.mem_append_left _ hp

/-- What arrives with bytes is framed from the whole stream. -/
theorem framed_of_mem_arrivals {c : Controller} {stream : List UInt8}
    (hreceived : c.received = (Framing.cutAll stream).2) (bytes : ByteArray) :
    ∀ m ∈ (c.inputs (.signal (.received bytes))).flatMap Channel.Input.arrivals,
      Framed (stream ++ bytes.data.toList) m := by
  intro m hm
  obtain ⟨i, hi, hm⟩ := List.mem_flatMap.mp hm
  obtain ⟨cut, hcut, hi⟩ := List.mem_flatMap.mp hi
  cases cut with
  | packet p =>
      obtain rfl := List.mem_singleton.mp hi
      obtain rfl := List.mem_singleton.mp hm
      refine ⟨c.channel.config.charset, p, ?_, rfl⟩
      rw [Framing.cutAll_append_cutAll, ← hreceived]
      exact List.mem_append_right _ hcut
  | invalidHeader header =>
      obtain rfl := List.mem_singleton.mp hi
      cases hm
  | incomplete => cases hi

/-- A controller and the history of its latest connection. -/
structure Watched where
  controller : Controller
  /-- Whether a connection has been reported, and its end has not. -/
  connected : Bool
  /-- The events that packets have asked for so far. -/
  asked : List Event
  /-- The bytes received since the latest start of a connection. -/
  stream : List UInt8
  /-- The deeds of the channel since then, the latest one first. -/
  log : List Deed

namespace Watched

/-- A new controller. -/
def ofConfig (config : Config) : Watched :=
  ⟨.ofConfig config, false, [], [], []⟩

/-- The channel with its deeds. -/
def chronicle (x : Watched) : Chronicle :=
  ⟨x.controller.channel, x.log⟩

/-- Goes on with a controller whose channel has taken in something. -/
def follow (x : Watched) (c : Controller) (l : List Channel.Input) : Watched :=
  { x with
    controller := c
    asked := x.asked ++ expected (x.controller.channel.stepAll l).effects
    log := (x.chronicle.run l).log }

/-- Writes down what is reported of the connection. -/
def note (x : Watched) : Input → Watched
  | .signal (.connected true) =>
    { x with connected := true, stream := [], log := [] }
  | .signal (.connected false) => { x with connected := false }
  | .signal (.received bytes) => { x with stream := x.stream ++ bytes.data.toList }
  | _ => x

/-- Takes an input. -/
def take (x : Watched) (i : Input) : Watched :=
  (x.note i).follow (x.controller.take i).1 (x.controller.inputs i)

/-- Carries out the next action. -/
def perform? (x : Watched) (now : Nat) : Option Watched :=
  if x.controller.ending?.isSome then none
  else
    x.controller.pending.pop?.map fun (a, rest) =>
      let c := { x.controller with pending := rest }
      { x with controller := c }.follow (c.perform now a).1 (c.echoes a)

/-- The inputs that may come. -/
def Admits (x : Watched) : Input → Prop
  | .signal (.connected true) => x.connected = false
  | .signal (.received _) => x.connected = true
  | .signal (.raised e) => x.connected = true ∧ e = .remoteSetup
  | .signal (.sent e) => e ∈ x.asked
  | _ => True

/-- What a new controller can become. -/
inductive Reachable (config : Config) : Watched → Prop where
  | init : Reachable config (ofConfig config)
  | take {x : Watched} (h : Reachable config x) {i : Input} (hi : x.Admits i) :
      Reachable config (x.take i)
  | perform {x y : Watched} (h : Reachable config x) {now : Nat}
      (hy : x.perform? now = some y) : Reachable config y

variable {r : Role} {x : Watched}

/-- Carrying out an action is what the controller does. -/
theorem map_perform? (x : Watched) (now : Nat) :
    (x.perform? now).map controller =
      (x.controller.performNext? now).map Prod.fst := by
  unfold perform? performNext?
  split
  · rfl
  · cases x.controller.pending.pop? with
    | none => rfl
    | some p => rfl

/-! ## What a run keeps -/

/-- What holds of the channel and its deeds, whether there is a connection or
not. -/
structure Recorded (r : Role) (x : Watched) : Prop where
  holds : x.controller.channel.HoldsInOrder
  fits : x.controller.channel.Fits r
  asked : ∀ e ∈ x.asked, e.isAsked
  gate : x.chronicle.Gate r
  knows : x.chronicle.Knows (Framed x.stream)

/-- The watched controller is in order. -/
structure Checked (r : Role) (x : Watched) : Prop extends Recorded r x where
  detached : x.connected = false → x.controller.channel.Detached
  received : x.connected = true →
    x.controller.received = (Framing.cutAll x.stream).2

/-- Inputs that do not claim to be what the peer has sent. -/
def Ordinary (i : Channel.Input) : Prop :=
  ∀ c, Chronicle.Permits (fun e => e ≠ .remoteIdValid ∧ e ≠ .remoteAccept)
    (fun _ => True) c i

theorem Recorded.follow (h : x.Recorded r) {c : Controller}
    {l : List Channel.Input} (hc : x.controller.Follows l c)
    (hl : ∀ i ∈ l, Ordinary i)
    (harrivals : ∀ m ∈ l.flatMap Channel.Input.arrivals, Framed x.stream m) :
    (x.follow c l).Recorded r := by
  have hrun := x.chronicle.run_faithful h.holds l
  have hchannel : (x.follow c l).chronicle = x.chronicle.run l := by
    obtain ⟨hchannel, -⟩ := hrun
    have hc := hc.channel
    cases hx : x.chronicle.run l
    rw [hx] at hchannel
    simp only [chronicle, Watched.follow] at hc hchannel hx ⊢
    rw [hx, hc, hchannel]
  obtain ⟨hregular, hfits⟩ := h.fits.stepAll h.holds l
  obtain ⟨-, hqueued⟩ :=
    Chronicle.run_faithful (x := ⟨x.controller.channel, []⟩) h.holds l
  constructor
  · have hholds := holdsInOrder_stepAll h.holds l
    rwa [← hc.channel] at hholds
  · rwa [← hc.channel] at hfits
  · intro e he
    rcases List.mem_append.mp he with hold | hnew
    · exact h.asked e hold
    · refine hregular.asked e ?_
      rw [hqueued]
      exact hnew
  · rw [hchannel]
    exact Chronicle.Gate.lasting.run_of_forall h.gate h.holds
      fun i hi y _ => hl i hi y.channel
  · rw [hchannel]
    exact h.knows.run h.holds harrivals

/-- The start of a connection finds nothing of an earlier one. -/
theorem Checked.note (h : x.Checked r) {i : Input} (hi : x.Admits i) :
    (x.note i).Recorded r := by
  have hrecorded := h.toRecorded
  cases i with
  | signal s =>
      cases s with
      | connected up =>
          cases up with
          | false => exact ⟨h.holds, h.fits, h.asked, h.gate, h.knows⟩
          | true =>
              obtain ⟨hstate, hawaiting⟩ := h.detached hi
              have hheld := h.holds.held_eq_nil hawaiting
              refine ⟨h.holds, h.fits, h.asked, ⟨h.fits.role, ?_, ?_, trivial⟩, nofun, ?_⟩
              · intro _ hpending
                simp only [chronicle, Watched.note] at hpending
                rcases hstate with hstate | hstate <;> rw [hstate] at hpending <;>
                  cases hpending
              · intro hidentified
                simp only [chronicle, Watched.note] at hidentified
                rcases hstate with hstate | hstate <;> rw [hstate] at hidentified <;>
                  cases hidentified
              · simp [chronicle, Watched.note, hheld]
      | received bytes =>
          refine ⟨h.holds, h.fits, h.asked, h.gate, ?_, ?_⟩
          · intro m config hm
            exact (h.knows.dispatched hm).append _
          · intro m hm
            exact (h.knows.held m hm).append _
      | _ => exact hrecorded
  | _ => exact hrecorded

/-- Inputs that are admitted claim nothing. -/
theorem Checked.ordinary_of_mem_inputs (h : x.Checked r) {i : Input} (hi : x.Admits i) :
    ∀ j ∈ x.controller.inputs i, Ordinary j := by
  intro j hj c
  cases i with
  | signal s =>
      cases s with
      | received bytes =>
          obtain ⟨cut, -, hj⟩ := List.mem_flatMap.mp hj
          cases cut with
          | incomplete => cases hj
          | _ => obtain rfl := List.mem_singleton.mp hj; trivial
      | connected up =>
          obtain rfl := List.mem_singleton.mp hj
          cases up <;> simp [Chronicle.Permits]
      | sent e =>
          obtain rfl := List.mem_singleton.mp hj
          have hasked := h.asked e hi
          cases e <;> simp_all [Chronicle.Permits, Event.isAsked]
      | raised e =>
          obtain rfl := List.mem_singleton.mp hj
          obtain ⟨-, rfl⟩ := hi
          simp [Chronicle.Permits]
      | unsent after? | log severity text =>
          obtain rfl := List.mem_singleton.mp hj
          trivial
  | expired kind =>
      obtain rfl := List.mem_singleton.mp hj
      cases kind <;> simp [Chronicle.Permits, TimerKind.event?]
  | start | command y =>
      obtain rfl := List.mem_singleton.mp hj
      trivial
  | signalsClosed | commandsClosed | tick => cases hj

theorem note_controller (x : Watched) (i : Input) :
    (x.note i).controller = x.controller := by
  unfold Watched.note
  split <;> rfl

/-- Without a connection, nothing comes that could set one up. -/
theorem Checked.detached_take (h : x.Checked r) {i : Input} (hi : x.Admits i)
    (hdown : (x.take i).connected = false) :
    (x.take i).controller.channel.Detached := by
  have hfollows := (x.controller.follows_take i).1.channel
  have hstill : x.connected = false → (∀ j ∈ x.controller.inputs i, j.IsQuiet) →
      (x.take i).controller.channel.Detached := by
    intro hbefore hquiet
    have hdetached := (h.detached hbefore).stepAll h.holds hquiet
    exact hfollows ▸ hdetached
  cases i with
  | signal s =>
      cases s with
      | connected up =>
          cases up with
          | true => cases hdown
          | false => exact h.fits.detached_of_connectionLost
      | raised e =>
          have hup : x.connected = true := hi.1
          have hdown : x.connected = false := hdown
          simp [hup] at hdown
      | _ => exact hstill hdown (x.controller.isQuiet_inputs (by simp) (by simp))
  | _ => exact hstill hdown (x.controller.isQuiet_inputs (by simp) (by simp))

/-- The bytes kept are those of the stream that have not been cut. -/
theorem Checked.received_take (h : x.Checked r) {i : Input} (hi : x.Admits i)
    (hup : (x.take i).connected = true) :
    (x.take i).controller.received = (Framing.cutAll (x.take i).stream).2 := by
  refine (x.controller.take_received i).trans ?_
  cases i with
  | signal s =>
      cases s with
      | connected up =>
          cases up with
          | true => exact (congrArg Prod.snd Framing.cutAll_nil).symm
          | false => cases hup
      | received bytes =>
          have hcut := Framing.cutAll_append_cutAll x.stream bytes.data.toList
          rw [← h.received hi] at hcut
          exact (congrArg Prod.snd hcut).symm
      | _ => exact h.received hup
  | _ => exact h.received hup

theorem Checked.take (h : x.Checked r) {i : Input} (hi : x.Admits i) :
    (x.take i).Checked r := by
  have harrivals : ∀ m ∈ (x.controller.inputs i).flatMap Channel.Input.arrivals,
      Framed (x.note i).stream m := by
    cases i with
    | signal s =>
        cases s with
        | received bytes => exact framed_of_mem_arrivals (h.received hi) bytes
        | _ => simp [inputs, Channel.Input.arrivals]
    | _ => simp [inputs, Channel.Input.arrivals]
  have hfollows := (x.controller.follows_take i).1
  rw [← x.note_controller i] at hfollows
  have hrecorded : (x.take i).Recorded r :=
    (h.note hi).follow (by rwa [x.note_controller] at hfollows ⊢)
      (h.ordinary_of_mem_inputs hi) harrivals
  exact ⟨hrecorded, h.detached_take hi, h.received_take hi⟩

theorem Checked.perform (h : x.Checked r) {y : Watched} {now : Nat}
    (hy : x.perform? now = some y) : y.Checked r := by
  unfold perform? at hy
  split at hy
  · cases hy
  obtain ⟨⟨a, rest⟩, hpop, rfl⟩ := Option.map_eq_some_iff.mp hy
  let x₀ : Watched := { x with controller := { x.controller with pending := rest } }
  have hbefore : x₀.Checked r :=
    ⟨⟨h.holds, h.fits, h.asked, h.gate, h.knows⟩, h.detached, h.received⟩
  obtain ⟨hfollows, hreceived, -⟩ := x₀.controller.follows_perform now a
  have hechoes := x₀.controller.permits_echoes a
  have hrecorded := hbefore.toRecorded.follow hfollows
    (fun i hi c => (hechoes i hi).2 _ _ c)
    (by
      intro m hm
      obtain ⟨i, hi, hm⟩ := List.mem_flatMap.mp hm
      rw [(hechoes i hi).1] at hm
      cases hm)
  refine ⟨hrecorded, ?_, ?_⟩
  · intro hdown
    have hdetached := (hbefore.detached hdown).stepAll h.holds
      fun i hi c _ => (hechoes i hi).2 _ _ c
    exact hfollows.channel ▸ hdetached
  · intro hup
    exact hreceived.trans (h.received hup)

theorem Reachable.checked {config : Config} (h : Reachable config x) :
    x.Checked config.role := by
  induction h with
  | init =>
      refine ⟨⟨holdsInOrder_ofConfig config, fits_ofConfig config, nofun, ?_, ?_⟩,
        fun _ => detached_ofConfig config, nofun⟩
      · exact ⟨rfl, nofun, nofun, trivial⟩
      · exact ⟨nofun, nofun⟩
  | take _ hi ih => exact ih.take hi
  | perform _ hy ih => exact ih.perform hy

/-! ## Turns -/

/-- A controller that carries out its actions is still one that is watched. -/
theorem Reachable.executeOnto {config : Config} (h : Reachable config x)
    (now effort : Nat) (done : List Output) :
    ∃ y, Reachable config y ∧
      y.controller = (Controller.executeOnto now effort done x.controller).1 := by
  induction effort generalizing x done with
  | zero => exact ⟨x, h, rfl⟩
  | succ effort ih =>
      have hperform := x.map_perform? now
      unfold Controller.executeOnto
      cases hnext : x.controller.performNext? now with
      | none => exact ⟨x, h, rfl⟩
      | some p =>
          obtain ⟨c, outputs⟩ := p
          rw [hnext] at hperform
          obtain ⟨y, hy, rfl⟩ := Option.map_eq_some_iff.mp hperform
          exact ih (h.perform hy) (outputs.reverse ++ done)

/-- The turns of a controller consist of what it is watched at. -/
theorem Reachable.turn {config : Config} (h : Reachable config x) {i : Input}
    (hi : x.Admits i) (now : Nat) :
    ∃ y, Reachable config y ∧ y.controller = (x.controller.turn now i).1 := by
  unfold Controller.turn
  split
  · exact ⟨x, h, rfl⟩
  · exact (h.take hi).executeOnto now _ []

/-- Whenever the channel has passed the identification, there is a connection,
and since its start the channel has acted on the identification that its
configuration expected, on a server followed by an acceptance.  Before any
system message was queued this had happened as well, and data was queued in
`State.dataReady` only.  Every message acted on has been framed from the bytes
received since the start of the connection. -/
theorem Reachable.identified_first {config : Config} (h : Reachable config x) :
    (x.controller.channel.state.isIdentified →
      x.connected = true ∧ Identified config.role x.log) ∧
    (∀ m after? s earlier, .queued m after? s :: earlier <:+ x.log →
      (m.kind = .system → Identified config.role earlier) ∧
        (m.kind = .operational → s = .dataReady)) ∧
    ∀ m settings, .dispatched m settings ∈ x.log → Framed x.stream m := by
  have hchecked := h.checked
  refine ⟨?_, ?_, fun m settings hm => hchecked.knows.dispatched hm⟩
  · intro hidentified
    refine ⟨?_, hchecked.gate.identified hidentified⟩
    by_contra hdown
    have hdetached := hchecked.detached (Bool.eq_false_iff.mpr hdown)
    rcases hdetached.state with hstate | hstate <;> rw [hstate] at hidentified <;>
      cases hidentified
  · rintro m after? s earlier ⟨later, hlog⟩
    have hguarded : Guarded config.role (later ++ .queued m after? s :: earlier) := by
      rw [hlog]
      exact hchecked.gate.guarded
    obtain ⟨hsystem, hoperational, -⟩ := hguarded.of_append
    exact ⟨hsystem, hoperational⟩

/-- A client that has been identified by a packet of its peer. -/
theorem identified_first_client :
    ∃ x, Reachable (.sample .client) x ∧ x.controller.channel.state = .ready ∧
      x.connected = true ∧ Identified .client x.log := by
  let greeting : List UInt8 :=
    [2, 0, 0, 14, 3, 66, 66, 66, 66, 45, 65, 65, 65, 65]
  let x₁ := (ofConfig (.sample .client)).take (.signal (.connected true))
  let x₂ := x₁.take (.signal (.sent .remoteSetup))
  let x₃ := x₂.take (.signal (.received ⟨greeting.toArray⟩))
  have hdown : (ofConfig (.sample .client)).Admits (.signal (.connected true)) := rfl
  have hasked : x₁.Admits (.signal (.sent .remoteSetup)) := by
    have hmem : .remoteSetup ∈ x₁.asked := by decide +kernel
    exact hmem
  have hconnected : x₂.Admits (.signal (.received ⟨greeting.toArray⟩)) := by
    have hup : x₂.connected = true := by decide +kernel
    exact hup
  have h : Reachable (.sample .client) x₃ :=
    ((Reachable.init.take hdown).take hasked).take hconnected
  have hstate : x₃.controller.channel.state = .ready := by decide +kernel
  have hfirst := h.identified_first.1 (by rw [hstate]; rfl)
  exact ⟨x₃, h, hstate, hfirst.1, hfirst.2⟩

end Watched

end FlightLink.Controller
