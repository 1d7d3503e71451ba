import FlightLink.Controller
import FlightLink.Proofs.Channel.Connection

/-!
# Controllers drive their channels

Whatever a controller does amounts to inputs of its channel, whose actions join
the end of the queue.  Taking an input gives no order; carrying out an action
gives at most one, and reports to the channel only if a message does not fit
into a packet.
-/

namespace FlightLink

open Channel Effect

/-- What a channel takes in when bytes are cut. -/
def Framing.Cut.inputs (charset : Charset) : Cut → List Channel.Input
  | packet p => [.receive (.ofPacket charset p)]
  | invalidHeader header => [.log .error (Fault.invalidHeader header).message]
  | incomplete => []

namespace Controller

/-- The order of an output. -/
def Output.order? : Output → Option Transport.Order
  | order o => some o
  | _ => none

/-- The orders given. -/
def orders (outputs : List Output) : List Transport.Order :=
  outputs.filterMap Output.order?

/-- What the channel takes in when the controller takes an input. -/
def inputs (c : Controller) : Input → List Channel.Input
  | .start => [.start]
  | .signal (.connected up) => [.connectionChanged up]
  | .signal (.received bytes) =>
    (Framing.cutAll (c.received ++ bytes.data.toList)).1.flatMap
      (Framing.Cut.inputs c.channel.config.charset)
  | .signal (.sent e) => [.confirm e]
  | .signal (.unsent after?) => [.unsent after?]
  | .signal (.raised e) => [.raise e]
  | .signal (.log severity text) => [.log severity text]
  | .expired kind => [.timerExpired kind]
  | .command command => [.command command]
  | .signalsClosed | .commandsClosed | .tick => []

/-- What the channel takes in when an action is carried out. -/
def echoes (c : Controller) : Action → List Channel.Input
  | .send m after? =>
    match m.encode c.channel.config.charset with
    | .ok _ => []
    | .error fault =>
      [.log .error s!"cannot send {m.describe}: {fault.message}", .unsent after?]
  | _ => []

/-- The order that an action amounts to. -/
def orderOf? (c : Controller) : Action → Option Transport.Order
  | .send m after? =>
    match m.encode c.channel.config.charset with
    | .ok bytes => some (.send ⟨⟨bytes.toArray⟩, after?⟩)
    | .error _ => none
  | .reconnect => some .reconnect
  | .disconnect => some .disconnect
  | .halt => some .halt
  | .reconfigure => some (.reconfigure c.channel.config.endpoint)
  | _ => none

/-- The controller after its channel has taken in something. -/
structure Follows (c : Controller) (l : List Channel.Input) (c' : Controller) :
    Prop where
  channel : c'.channel = (c.channel.stepAll l).channel
  pending :
    c'.pending.toList = c.pending.toList ++ actions (c.channel.stepAll l).effects

@[simp] theorem orders_append (l l' : List Output) :
    orders (l ++ l') = orders l ++ orders l' := List.filterMap_append

@[simp] theorem orders_notes (l : List Note) : orders (l.map .note) = [] := by
  induction l with
  | nil => rfl
  | cons n l ih => exact ih

@[simp] theorem orders_absorb (c : Controller) (o : Outcome) :
    orders (c.absorb o).2 = [] := orders_notes _

theorem Follows.refl (c : Controller) : c.Follows [] c :=
  ⟨rfl, (List.append_nil _).symm⟩

theorem Follows.trans {c c' c'' : Controller} {l l' : List Channel.Input}
    (h : c.Follows l c') (h' : c'.Follows l' c'') : c.Follows (l ++ l') c'' := by
  constructor
  · rw [h'.channel, h.channel, stepAll_append, andThen_channel]
  · rw [h'.pending, h.pending, h.channel, stepAll_append, andThen_effects,
      actions_append, List.append_assoc]

theorem follows_absorb {c : Controller} {o : Outcome} {l : List Channel.Input}
    (h : o = c.channel.stepAll l) : c.Follows l (c.absorb o).1 := by
  subst h
  exact ⟨rfl, Fifo.toList_append _ _⟩

/-- One step of the channel. -/
theorem follows_step (c : Controller) (i : Channel.Input) :
    c.Follows [i] (c.absorb (c.channel.step i)).1 :=
  follows_absorb (by simp [stepAll, Outcome.andThen])

/-! ## Taking inputs -/

theorem receive_config (c : Channel) (m : Message) :
    (c.receive m).channel.config = c.config := by
  unfold receive
  split
  · rfl
  · rw [dispatch_channel]
    cases c.messageEvent? m <;> simp

theorem follows_takeCut (c : Controller) (cut : Framing.Cut) :
    c.Follows (cut.inputs c.channel.config.charset) (c.takeCut cut).1 := by
  cases cut with
  | packet p => exact c.follows_step _
  | invalidHeader header => exact c.follows_step _
  | incomplete => exact .refl c

theorem takeCut_config (c : Controller) (cut : Framing.Cut) :
    (c.takeCut cut).1.channel.config = c.channel.config := by
  cases cut with
  | packet p => exact receive_config _ _
  | invalidHeader header => rfl
  | incomplete => rfl

theorem follows_takeCutsOnto (done : List Output) (c : Controller)
    (cuts : List Framing.Cut) :
    c.Follows (cuts.flatMap (Framing.Cut.inputs c.channel.config.charset))
      (takeCutsOnto done c cuts).1 := by
  induction cuts generalizing done c with
  | nil => exact .refl c
  | cons cut cuts ih =>
      have hrest := ih ((c.takeCut cut).2.reverse ++ done) (c.takeCut cut).1
      rw [takeCut_config] at hrest
      exact (c.follows_takeCut cut).trans hrest

theorem orders_takeCutsOnto {done : List Output} (hdone : orders done = [])
    (c : Controller) (cuts : List Framing.Cut) :
    orders (takeCutsOnto done c cuts).2 = [] := by
  have hreverse : ∀ {l : List Output}, orders l = [] → orders l.reverse = [] := by
    intro l hl
    rw [orders, List.filterMap_reverse, ← orders, hl]
    rfl
  induction cuts generalizing done c with
  | nil => exact hreverse hdone
  | cons cut cuts ih =>
      have hcut : orders (c.takeCut cut).2 = [] := by
        cases cut with
        | packet p => exact orders_absorb _ _
        | invalidHeader header => exact orders_absorb _ _
        | incomplete => rfl
      have hstep : orders ((c.takeCut cut).2.reverse ++ done) = [] := by
        rw [orders_append, hreverse hcut, hdone]
        rfl
      exact ih hstep _

/-- Taking an input drives the channel and gives no order. -/
theorem follows_take (c : Controller) (i : Input) :
    c.Follows (c.inputs i) (c.take i).1 ∧ orders (c.take i).2 = [] := by
  cases i with
  | start => exact ⟨c.follows_step .start, orders_absorb _ _⟩
  | expired kind => exact ⟨c.follows_step (.timerExpired kind), orders_absorb _ _⟩
  | command y => exact ⟨c.follows_step (.command y), orders_absorb _ _⟩
  | signalsClosed | commandsClosed | tick =>
      exact ⟨⟨rfl, (List.append_nil _).symm⟩, rfl⟩
  | signal s =>
      cases s with
      | connected up =>
          have hstep := c.follows_step (.connectionChanged up)
          exact ⟨⟨hstep.channel, hstep.pending⟩,
            orders_absorb _ _⟩
      | received bytes =>
          let p := Framing.cutAll (c.received ++ bytes.data.toList)
          let rest : Controller := { c with received := p.2 }
          have hfollows := follows_takeCutsOnto [] rest p.1
          have hnone : orders ([] : List Output) = [] := rfl
          have horders := orders_takeCutsOnto hnone rest p.1
          exact ⟨⟨hfollows.channel, hfollows.pending⟩, horders⟩
      | sent e => exact ⟨c.follows_step (.confirm e), orders_absorb _ _⟩
      | unsent after? => exact ⟨c.follows_step (.unsent after?), orders_absorb _ _⟩
      | raised e => exact ⟨c.follows_step (.raise e), orders_absorb _ _⟩
      | log severity text =>
          exact ⟨c.follows_step (.log severity text), orders_absorb _ _⟩

/-- Handing cuts to the channel concerns the channel and the pending actions
only. -/
theorem exists_takeCutsOnto_eq (done : List Output) (c : Controller)
    (cuts : List Framing.Cut) :
    ∃ channel pending, (takeCutsOnto done c cuts).1 = { c with channel, pending } := by
  induction cuts generalizing done c with
  | nil => exact ⟨c.channel, c.pending, rfl⟩
  | cons cut cuts ih =>
      obtain ⟨channel, pending, hrest⟩ :=
        ih ((c.takeCut cut).2.reverse ++ done) (c.takeCut cut).1
      refine ⟨channel, pending, hrest.trans ?_⟩
      cases cut <;> rfl

theorem exists_take_received_eq (c : Controller) (bytes : ByteArray) :
    ∃ channel pending, (c.take (.signal (.received bytes))).1 =
      { c with
        channel, pending
        received := (Framing.cutAll (c.received ++ bytes.data.toList)).2 } :=
  exists_takeCutsOnto_eq _ _ _

theorem take_received (c : Controller) (i : Input) :
    (c.take i).1.received =
      match i with
      | .signal (.connected _) => []
      | .signal (.received bytes) =>
        (Framing.cutAll (c.received ++ bytes.data.toList)).2
      | _ => c.received := by
  cases i with
  | signal s =>
      cases s with
      | received bytes =>
          obtain ⟨channel, pending, htake⟩ := c.exists_take_received_eq bytes
          rw [htake]
      | _ => rfl
  | _ => rfl

theorem take_transportGone (c : Controller) (i : Input) :
    (c.take i).1.transportGone = c.transportGone := by
  cases i with
  | signal s =>
      cases s with
      | received bytes =>
          obtain ⟨channel, pending, htake⟩ := c.exists_take_received_eq bytes
          rw [htake]
      | _ => rfl
  | _ => rfl

theorem take_timers (c : Controller) (i : Input) : (c.take i).1.timers = c.timers := by
  cases i with
  | signal s =>
      cases s with
      | received bytes =>
          obtain ⟨channel, pending, htake⟩ := c.exists_take_received_eq bytes
          rw [htake]
      | _ => rfl
  | _ => rfl

/-- Only the end of a queue ends the run when an input is taken. -/
theorem take_ending? (c : Controller) {i : Input} (hsignals : i ≠ .signalsClosed)
    (hcommands : i ≠ .commandsClosed) : (c.take i).1.ending? = c.ending? := by
  cases i with
  | signal s =>
      cases s with
      | received bytes =>
          obtain ⟨channel, pending, htake⟩ := c.exists_take_received_eq bytes
          rw [htake]
      | _ => rfl
  | signalsClosed => exact absurd rfl hsignals
  | commandsClosed => exact absurd rfl hcommands
  | _ => rfl

/-! ## Carrying out actions -/

/-- Carrying out an action gives the order that it amounts to, unless the
transport is gone. -/
theorem follows_perform (c : Controller) (now : Nat) (a : Action) :
    c.Follows (c.echoes a) (c.perform now a).1 ∧
      (c.perform now a).1.received = c.received ∧
      (c.perform now a).1.transportGone = c.transportGone ∧
      orders (c.perform now a).2 =
        if c.transportGone then [] else (c.orderOf? a).toList := by
  have horder : ∀ (c : Controller) o, c.Follows [] (c.order o).1 ∧
      (c.order o).1.received = c.received ∧
      (c.order o).1.transportGone = c.transportGone ∧
      orders (c.order o).2 = if c.transportGone then [] else [o] := by
    intro c o
    unfold order
    split
    · exact ⟨⟨rfl, (List.append_nil _).symm⟩, rfl, rfl, rfl⟩
    · exact ⟨.refl c, rfl, rfl, rfl⟩
  cases a with
  | send m after? =>
      simp only [perform, echoes, orderOf?]
      cases m.encode c.channel.config.charset with
      | ok bytes => exact horder c _
      | error fault =>
          refine ⟨follows_absorb ?_, rfl, rfl, ?_⟩
          · simp [stepAll, Outcome.andThen, Channel.step]
          · rw [orders_absorb]
            simp
  | restartTimer kind | stopTimer kind | deliver m | log r =>
      refine ⟨⟨rfl, (List.append_nil _).symm⟩, rfl, rfl, ?_⟩
      simp [orderOf?, perform, orders, Output.order?]
  | reconnect | disconnect | halt => exact horder c _
  | reconfigure =>
      obtain ⟨hfollows, hreceived, hgone, horders⟩ :=
        horder { c with timers := c.timers.reconfigure c.channel.config }
          (.reconfigure c.channel.config.endpoint)
      refine ⟨?_, ?_, ?_, ?_⟩ <;> simp only [perform]
      · split <;> exact ⟨hfollows.channel, hfollows.pending⟩
      · split <;> exact hreceived
      · split <;> exact hgone
      · split
        · exact horders
        · rw [orders_append, horders]
          simp [orderOf?, orders, Output.order?]

/-- The next action is the first one that is pending. -/
theorem exists_perform_of_performNext? {c : Controller} {now : Nat} {r : Result}
    (h : c.performNext? now = some r) :
    ∃ a rest, c.pending.pop? = some (a, rest) ∧
      r = { c with pending := rest }.perform now a := by
  unfold performNext? at h
  split at h
  · cases h
  · split at h
    · cases h
    · next a rest hpop => exact ⟨a, rest, hpop, (Option.some.inj h).symm⟩

/-- Carrying out the next action. -/
theorem follows_performNext? {c : Controller} {now : Nat} {r : Result}
    (h : c.performNext? now = some r) :
    ∃ a rest, c.pending.pop? = some (a, rest) ∧
      Follows { c with pending := rest } (c.echoes a) r.1 ∧
      r.1.transportGone = c.transportGone ∧
      orders r.2 = if c.transportGone then [] else (c.orderOf? a).toList := by
  obtain ⟨a, rest, hpop, rfl⟩ := exists_perform_of_performNext? h
  obtain ⟨hfollows, -, hgone, horders⟩ := follows_perform { c with pending := rest } now a
  exact ⟨a, rest, hpop, hfollows, hgone, horders⟩

/-- What carrying out an action keeps, of the controller and its outputs so far,
carrying out all of them keeps. -/
theorem executeOnto_induction {P : Controller → List Output → Prop} {now : Nat}
    (hstep : ∀ {c outputs r}, P c outputs → c.performNext? now = some r →
      P r.1 (outputs ++ r.2))
    (effort : Nat) {done : List Output} {c : Controller} (h : P c done.reverse) :
    P (executeOnto now effort done c).1 (executeOnto now effort done c).2 := by
  induction effort generalizing c done with
  | zero => exact h
  | succ effort ih =>
      rw [executeOnto]
      cases hnext : c.performNext? now with
      | none => exact h
      | some r =>
          apply ih
          rw [List.reverse_append, List.reverse_reverse]
          exact hstep h hnext

theorem turn_eq {c : Controller} (hgoes : c.ending? = none) (now : Nat) (i : Input) :
    c.turn now i =
      (((c.take i).1.execute now).1,
        (c.take i).2 ++ ((c.take i).1.execute now).2) := by
  rw [turn, hgoes]
  rfl

/-! ## Without a connection -/

theorem isQuiet_inputs (c : Controller) {i : Input}
    (hconnected : ∀ up, i ≠ .signal (.connected up))
    (hraised : ∀ e, i ≠ .signal (.raised e)) : ∀ j ∈ c.inputs i, j.IsQuiet := by
  intro j hj channel hdetached
  cases i with
  | signal s =>
      cases s with
      | connected up => exact absurd rfl (hconnected up)
      | raised e => exact absurd rfl (hraised e)
      | received bytes =>
          obtain ⟨cut, -, hj⟩ := List.mem_flatMap.mp hj
          cases cut with
          | incomplete => cases hj
          | _ => obtain rfl := List.mem_singleton.mp hj; trivial
      | sent e =>
          obtain rfl := List.mem_singleton.mp hj
          intro hawait
          exact absurd hdetached.awaiting (Nat.ne_of_gt hawait)
      | unsent after? | log severity text =>
          obtain rfl := List.mem_singleton.mp hj
          trivial
  | expired kind =>
      obtain rfl := List.mem_singleton.mp hj
      cases kind <;> simp [Chronicle.Permits, TimerKind.event?]
  | start | command y =>
      obtain rfl := List.mem_singleton.mp hj
      trivial
  | signalsClosed | commandsClosed | tick => cases hj

/-- Carrying out an action brings no message and no event. -/
theorem permits_echoes (c : Controller) (a : Action) :
    ∀ i ∈ c.echoes a, i.arrivals = [] ∧ ∀ E C c, Chronicle.Permits E C c i := by
  intro i hi
  unfold echoes at hi
  split at hi
  · split at hi
    · cases hi
    · rcases List.mem_pair.mp hi with rfl | rfl <;> exact ⟨rfl, fun _ _ _ => trivial⟩
  · cases hi

end Controller

end FlightLink
