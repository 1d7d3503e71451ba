import FlightLink.Proofs.Timer.Expiries
import FlightLink.Proofs.Upkeep.Turns

/-!
# Two controllers on a clock

Two controllers with a connection that stays up are followed through everything that
can happen to them while the applications send data and nothing else.  Bytes arrive
in chunks of any size, the events of packets come back, and queued expiries are taken
up to the first that counts, in any order.  The clock advances once all this has been
done at both ends, and not past a deadline.

The conversation that the controllers lead, together with the arms of their timers,
is followed at the same time.
-/

namespace FlightLink

open Framing Channel Effect

/-- Both ends of a connection at a time. -/
structure Upkeep where
  clock : Clock
  line : Line
  now : Nat

/-- Everything has been delivered to an end, and no expiry that counts is queued. -/
def Terminal.IsQuiet (t : Terminal) : Prop :=
  t.inbound = [] ∧ t.owed = [] ∧ t.controller.timers.hasExpired = false

/-- An end that has gone through its queued expiries up to the first that counts. -/
def Terminal.sifted (t : Terminal) : Terminal :=
  let e := t.controller.nextExpiry
  { t with controller := e.2.1, outputs := t.outputs ++ e.2.2 }

instance Role.decidableForall {P : Role → Prop} [DecidablePred P] : Decidable (∀ r, P r) :=
  decidable_of_iff (P .client ∧ P .server)
    ⟨fun h r => Role.casesOn r h.1 h.2, fun h => ⟨h .client, h .server⟩⟩

namespace Upkeep

/-- What can happen. -/
inductive Move where
  | meet (r : Role) (stimulus : Terminal.Stimulus)
  /-- A side goes through its queued expiries up to the first that counts. -/
  | expiry (r : Role)
  | pass (duration : Nat)

/-- A side goes through its queued expiries, and acts on the first that counts. -/
def expire (x : Upkeep) (r : Role) : Upkeep :=
  let t := (x.line r).sifted
  match (x.line r).controller.nextExpiry.1 with
  | none => { x with line := Function.update x.line r t }
  | some kind => { x with line := x.line.answer r t x.now (.expired kind) }

/-- Time passes at both ends. -/
def pass (x : Upkeep) (duration : Nat) : Upkeep where
  clock := x.clock
  line r :=
    let c := (x.line r).controller
    { x.line r with
      controller := { c with timers := c.timers.elapse x.clock (x.now + duration) } }
  now := x.now + duration

def next (x : Upkeep) : Move → Upkeep
  | .meet r stimulus => { x with line := x.line.next ⟨r, x.now, stimulus⟩ }
  | .expiry r => x.expire r
  | .pass duration => x.pass duration

/-- Whether a stimulus is data with a text, the connection at work, or the publication
of the status. -/
def IsOrdinary : Terminal.Stimulus → Prop
  | .data text => text ≠ ""
  | .arrival _ | .written | .tick => True
  | .startup | .expiry => False

/-- Whether a move is possible: time passes when both ends are quiet, up to the next
deadline. -/
def Admits (x : Upkeep) : Move → Prop
  | .meet _ stimulus => IsOrdinary stimulus
  | .expiry _ => True
  | .pass duration => ∀ r, (x.line r).IsQuiet ∧
      ∀ n ∈ (x.line r).controller.timers.nextDeadline? x.clock, x.now + duration ≤ n

def run (x : Upkeep) (moves : List Move) : Upkeep :=
  moves.foldl next x

/-- Whether moves are possible one after the other. -/
def Permits (x : Upkeep) : List Move → Prop
  | [] => True
  | move :: rest => x.Admits move ∧ (x.next move).Permits rest

instance (stimulus : Terminal.Stimulus) : Decidable (IsOrdinary stimulus) :=
  match stimulus with
  | .data text => inferInstanceAs (Decidable (text ≠ ""))
  | .arrival _ | .written | .tick => isTrue trivial
  | .startup | .expiry => isFalse id

instance (t : Terminal) : Decidable t.IsQuiet :=
  inferInstanceAs (Decidable (_ ∧ _ ∧ _))

instance (x : Upkeep) (move : Move) : Decidable (x.Admits move) :=
  match move with
  | .meet _ stimulus => inferInstanceAs (Decidable (IsOrdinary stimulus))
  | .expiry _ => isTrue trivial
  | .pass _ => inferInstanceAs (Decidable (∀ _, _ ∧ ∀ n ∈ _, _))

instance decidablePermits (x : Upkeep) : (moves : List Move) → Decidable (x.Permits moves)
  | [] => isTrue trivial
  | move :: rest =>
    have := decidablePermits (x.next move) rest
    inferInstanceAs (Decidable (x.Admits move ∧ (x.next move).Permits rest))

/-- A conversation with arms shows what two controllers do. -/
structure Shows (config : Role → Config) (x : Upkeep) (w : Vigil) : Prop where
  now : w.now = x.now
  conversation : w.conversation = x.line.conversation
  orderly : ∀ r, (x.line r).Orderly
  tracks : ∀ r, (x.line r).controller.timers.Tracks x.clock (config r) x.now (w.arm? r)

/-- What is known of two controllers whose connection was made at `start`. -/
def Kept (config : Role → Config) (start : Nat) (x : Upkeep) : Prop :=
  ∃ w : Vigil, x.Shows config w ∧ w.Sound x.clock config start

variable {config : Role → Config} {start : Nat} {x : Upkeep} {w : Vigil} {r : Role}

@[simp] theorem clock_next (x : Upkeep) (move : Move) : (x.next move).clock = x.clock := by
  cases move with
  | expiry r =>
      rw [next, expire]
      split <;> rfl
  | meet | pass => rfl

@[simp] theorem clock_run (x : Upkeep) (moves : List Move) : (x.run moves).clock = x.clock := by
  induction moves generalizing x with
  | nil => rfl
  | cons move rest ih => exact (ih (x.next move)).trans (x.clock_next move)

/-- Only the timers change, and time may pass. -/
theorem Shows.of_timers (h : x.Shows config w) {y : Upkeep}
    (hsame : ∀ r, ∃ b outputs, y.line r = { x.line r with
      controller := { (x.line r).controller with timers := b }
      outputs } ∧ b.Tracks y.clock (config r) y.now (w.arm? r)) :
    y.Shows config { w with now := y.now } := by
  refine ⟨rfl, ?_, ?_, ?_⟩
  · rw [h.conversation]
    funext r
    obtain ⟨b, outputs, hline, -⟩ := hsame r
    rw [Line.conversation, Line.conversation, hline]
    rfl
  · intro r
    obtain ⟨b, outputs, hline, -⟩ := hsame r
    obtain ⟨hsettled, hdrained, hwhole⟩ := h.orderly r
    rw [hline]
    exact ⟨hsettled.with_timers b, hdrained, hwhole⟩
  · intro r
    obtain ⟨b, outputs, hline, htracks⟩ := hsame r
    rw [hline]
    exact htracks

theorem Shows.quiescent (h : x.Shows config w) (hquiet : ∀ r, (x.line r).IsQuiet) :
    w.conversation.Quiescent := by
  intro r
  obtain ⟨hinbound, howed, -⟩ := hquiet r
  have hmessages : messages (x.line r).stream = [] := by
    rw [Framing.messages, Terminal.stream, hinbound, List.append_nil, (h.orderly r).drained]
    rfl
  rw [h.conversation]
  exact ⟨hmessages, howed⟩

/-! ## One turn -/

/-- A turn of a controller is a step of the conversation, which the packets of the
channel get through. -/
theorem Shows.answer (h : x.Shows config w) {t : Terminal} {i : Controller.Input}
    {arm? : TimerKind → Option Arm}
    (htracks : t.controller.timers.Tracks x.clock (config r) x.now arm?)
    (hconfig : (t.controller.channel.stepAll (t.controller.inputs i)).channel.config =
      config r)
    (htaking : x.line.Taking r t i
      (t.controller.channel.stepAll (t.controller.inputs i)).channel
      (packets (t.controller.channel.stepAll (t.controller.inputs i)).effects)) :
    { x with line := x.line.answer r t x.now i }.Shows config
      (w.act r arm?
        ⟨t.controller.channel, messages ((t.controller.take i).1.received ++ t.inbound),
          t.owed⟩
        (t.controller.channel.stepAll (t.controller.inputs i))) := by
  obtain ⟨horderly, hself, hpeer, htimers, hsame⟩ := htaking.answer h.orderly x.now
  refine ⟨h.now, ?_, horderly, ?_⟩
  · apply Conversation.ext_of_side r
    · rw [Vigil.conversation_act_self, hself]
      rfl
    · rw [Vigil.conversation_act_peer, hpeer, h.conversation]
      rfl
  · intro s
    rcases Conversation.eq_or_eq_peer r s with rfl | rfl
    · have hactions := htracks.foldl_carryOut
        (actions (t.controller.channel.stepAll (t.controller.inputs i)).effects)
      rw [Vigil.arm?_act_self, hconfig, h.now, htimers, hconfig]
      exact hactions
    · rw [Vigil.arm?_act_of_ne r.peer_ne, hsame]
      exact h.tracks r.peer

/-- If all packets can be framed, nothing is lost in a turn. -/
theorem taking_of_posted {v : Line} {t : Terminal} {i : Controller.Input}
    (hsignals : i ≠ .signalsClosed) (hcommands : i ≠ .commandsClosed)
    (hsettled : t.controller.Settled) (hholds : t.controller.channel.HoldsInOrder)
    (hcharset : (t.controller.channel.stepAll
      (t.controller.inputs i)).channel.config.charset = .utf8)
    (hposted : ∀ p ∈ packets (t.controller.channel.stepAll (t.controller.inputs i)).effects,
      p.1.IsPosted)
    (hdrained : (cutAll (t.controller.take i).1.received).1 = [])
    (hwhole : Whole ((t.controller.take i).1.received ++ t.inbound)) :
    v.Taking r t i (t.controller.channel.stepAll (t.controller.inputs i)).channel
      (packets (t.controller.channel.stepAll (t.controller.inputs i)).effects) where
  signals := hsignals
  commands := hcommands
  settled := hsettled
  holds := holdsInOrder_stepAll hholds _
  charset := hcharset
  channel := by rw [lost_eq_zero hposted]; rfl
  posted := hposted
  sent := rfl
  drained := hdrained
  whole := hwhole

/-- An input that brings no bytes.  Before it, the timers of the side may have changed
and events may have been taken from it. -/
theorem Shows.answer_one (h : x.Shows config w) {arm? : TimerKind → Option Arm}
    {b : TimerBank} {owed : List Event} {outputs : List Controller.Output}
    {i : Controller.Input} {j : Channel.Input}
    (hholds : (x.line r).controller.channel.HoldsInOrder)
    (hconfig : ((x.line r).controller.channel.step j).channel.config = config r)
    (htracks : b.Tracks x.clock (config r) x.now arm?)
    (hinputs : ∀ c : Controller, c.inputs i = [j])
    (hreceived : ({ (x.line r).controller with timers := b }.take i).1.received =
      (x.line r).controller.received)
    (hsignals : i ≠ .signalsClosed) (hcommands : i ≠ .commandsClosed)
    (hcharset : (config r).charset = .utf8)
    (hposted : ∀ p ∈ packets ((x.line r).controller.channel.step j).effects,
      p.1.IsPosted) :
    let t : Terminal := { x.line r with
      controller := { (x.line r).controller with timers := b }
      owed, outputs }
    { x with line := x.line.answer r t x.now i }.Shows config
      (w.act r arm? { w.conversation r with owed }
        ((w.conversation r).channel.step j)) := by
  intro t
  have hparty : w.conversation r = x.line.conversation r := by
    rw [h.conversation]
  have hall : t.controller.channel.stepAll (t.controller.inputs i) =
      (x.line r).controller.channel.step j := by
    rw [hinputs, stepAll_singleton]
  have hstream : (t.controller.take i).1.received ++ t.inbound = (x.line r).stream := by
    rw [hreceived]
    rfl
  obtain ⟨hsettled, hdrained, hwhole⟩ := h.orderly r
  rw [← hreceived] at hdrained
  rw [← hstream] at hwhole
  rw [← hall] at hconfig hposted
  rw [← hconfig] at hcharset
  have hafter := h.answer htracks hconfig
    (taking_of_posted hsignals hcommands (hsettled.with_timers b) hholds hcharset hposted
      hdrained hwhole)
  rw [hstream, hall] at hafter
  rw [hparty]
  exact hafter

/-- An input that brings no bytes, before which nothing else happens. -/
theorem Shows.answer_input (h : x.Shows config w) {i : Controller.Input} {j : Channel.Input}
    (hholds : (w.conversation r).channel.HoldsInOrder)
    (hconfig : ((w.conversation r).channel.step j).channel.config = config r)
    (hinputs : ∀ c : Controller, c.inputs i = [j])
    (hreceived : ((x.line r).controller.take i).1.received = (x.line r).controller.received)
    (hsignals : i ≠ .signalsClosed) (hcommands : i ≠ .commandsClosed)
    (hcharset : (config r).charset = .utf8)
    (hposted : ∀ p ∈ packets ((w.conversation r).channel.step j).effects, p.1.IsPosted) :
    { x with line := x.line.answer r (x.line r) x.now i }.Shows config
      (w.next r (w.arm? r) (w.conversation r) j) := by
  have hparty : w.conversation r = x.line.conversation r := by
    rw [h.conversation]
  rw [hparty] at hholds hconfig hposted
  have howed : w.conversation r = { w.conversation r with owed := (x.line r).owed } := by
    rw [hparty]
    rfl
  have hafter : { x with line := x.line.answer r (x.line r) x.now i }.Shows config
      (w.act r (w.arm? r) { w.conversation r with owed := (x.line r).owed }
        ((w.conversation r).channel.step j)) :=
    h.answer_one hholds hconfig (h.tracks r) hinputs hreceived hsignals hcommands hcharset
      hposted
  rw [← howed] at hafter
  exact hafter

section Sides

variable (hx : x.Shows config w) (hw : w.Sound x.clock config start)

include hx hw

theorem Shows.config_eq (r : Role) : (x.line r).controller.channel.config = config r := by
  have hconfigured := hw.configured r
  rw [hx.conversation] at hconfigured
  exact hconfigured

theorem Shows.holds (r : Role) : (x.line r).controller.channel.HoldsInOrder := by
  have hholds := hw.holds r
  rw [hx.conversation] at hholds
  exact hholds

theorem Shows.charset (r : Role) : (config r).charset = .utf8 := by
  rw [← hx.config_eq hw r]
  exact (hx.orderly r).controller.charset

/-- What is known remains true if the input is a step on the clock. -/
theorem Shows.kept_answer (hmatched : Matched x.clock config) {arm? : TimerKind → Option Arm}
    {b : TimerBank} {owed : List Event} {outputs : List Controller.Output}
    {i : Controller.Input} {j : Channel.Input}
    (hstep : w.Step r arm? { w.conversation r with owed } j)
    (htracks : b.Tracks x.clock (config r) x.now arm?)
    (hinputs : ∀ c : Controller, c.inputs i = [j])
    (hreceived : ∀ c : Controller, (c.take i).1.received = c.received)
    (hsignals : i ≠ .signalsClosed) (hcommands : i ≠ .commandsClosed)
    (hposted : ∀ p ∈ packets ((x.line r).controller.channel.step j).effects,
      p.1.IsPosted) :
    let t : Terminal := { x.line r with
      controller := { (x.line r).controller with timers := b }
      owed, outputs }
    { x with line := x.line.answer r t x.now i }.Kept config start := by
  have hconfig := (hstep.config_eq hw.holds).trans (hw.configured r)
  rw [hx.conversation] at hconfig
  exact ⟨_, hx.answer_one (hx.holds hw r) hconfig htracks hinputs (hreceived _) hsignals
    hcommands (hx.charset hw r) hposted, hw.next hmatched hstep⟩

/-- A text that is too long is lost, and nothing else happens. -/
theorem Shows.answer_unsent {text : String} {fault : Fault}
    (hstate : (x.line r).controller.channel.state = .dataReady)
    (hencode : (Message.operational text).encode .utf8 = .error fault) :
    { x with line := x.line.answer r (x.line r) x.now (.command (.data text)) }.Shows
      config w := by
  let t := x.line r
  let c := t.controller.channel
  let o := c.send (.operational text) (some .localData)
  have hsettled := (hx.orderly r).controller
  have hall : c.stepAll (t.controller.inputs (.command (.data text))) = o :=
    (c.stepAll_singleton _).trans (if_pos hstate)
  have hpackets : packets o.effects = [(.operational text, some .localData)] :=
    collect_sending c _ _
  have htimings : timings o.effects = [] := collect_sending c _ _
  have hlost : lost (actions o.effects) = 1 := c.lost_sending hencode .localData
  have hawaited : awaited o.effects = 1 := by
    rw [awaited_eq_length_expected, expected, hpackets]
    rfl
  have htaking : x.line.Taking r t (.command (.data text)) c [] := by
    refine ⟨by simp, by simp, hsettled, hx.holds hw r, hsettled.charset, ?_, by simp, ?_,
      (hx.orderly r).drained, (hx.orderly r).whole⟩
    · rw [hall, hlost, ← hawaited]
      rfl
    · rw [hall, hpackets, Controller.parcelsOf_of_error hencode]
      rfl
  obtain ⟨horderly, hself, hpeer, htimers, hsame⟩ := htaking.answer hx.orderly x.now
  rw [hall, hx.config_eq hw r] at htimers
  refine ⟨hx.now, ?_, horderly, ?_⟩
  · rw [hx.conversation]
    apply Conversation.ext_of_side r
    · rw [hself, List.filterMap_nil, List.append_nil]
      rfl
    · rw [hpeer, List.map_nil, List.append_nil]
  · intro s
    rcases Conversation.eq_or_eq_peer r s with rfl | rfl
    · have hactions := (hx.tracks s).foldl_carryOut (actions o.effects)
      have hnone : (actions o.effects).filterMap Action.timing? = [] := htimings
      rw [hnone] at hactions
      rw [htimers]
      exact hactions
    · rw [hsame]
      exact hx.tracks r.peer

/-- What a side sends apart from data can be framed if its identification can. -/
theorem Shows.isPosted (hposted : ∀ r, (Vigil.identification config r).IsPosted) (r : Role)
    {l : List Channel.Input} (hl : ∀ i ∈ l, ∀ y, i ≠ .command y) :
    ∀ p ∈ packets ((x.line r).controller.channel.stepAll l).effects, p.1.IsPosted := by
  have hown : (x.line r).controller.channel.ownIdentification.IsPosted := by
    rw [ownIdentification, hx.config_eq hw r]
    exact hposted r
  intro p hp
  exact ((utters_stepAll (hx.holds hw r) hl).2 p hp).isPosted hown

/-- The publication of the status concerns nobody here. -/
theorem Shows.answer_tick (r : Role) :
    { x with line := x.line.answer r (x.line r) x.now .tick }.Shows config w := by
  have hsettled := (hx.orderly r).controller
  have htaking : x.line.Taking r (x.line r) .tick _ _ :=
    taking_of_posted nofun nofun hsettled (hx.holds hw r) hsettled.charset nofun
      (hx.orderly r).drained (hx.orderly r).whole
  have hafter := hx.answer (i := .tick) (hx.tracks r) (hx.config_eq hw r) htaking
  have hsame := w.act_of_no_effects r
  rw [hx.conversation] at hsame
  rw [← hsame]
  exact hafter

/-- Bytes arrive, and the messages that are complete with them are taken in. -/
theorem Shows.kept_arrival (hmatched : Matched x.clock config)
    (hposted : ∀ r, (Vigil.identification config r).IsPosted) (r : Role) (count : Nat) :
    let t := { x.line r with inbound := (x.line r).inbound.drop count }
    let i := .signal (.received ⟨((x.line r).inbound.take count).toArray⟩)
    { x with line := x.line.answer r t x.now i }.Kept config start := by
  intro t i
  let c := (x.line r).controller
  let first := c.received ++ (x.line r).inbound.take count
  let l := (cutAll first).1.filterMap Cut.message?
  have hsettled := (hx.orderly r).controller
  have hstream : first ++ (x.line r).inbound.drop count = (x.line r).stream := by
    rw [List.append_assoc, List.take_append_drop]
    rfl
  have hwhole := (hx.orderly r).whole
  rw [← hstream] at hwhole
  obtain ⟨hmessages, hrest, hpackets⟩ := hwhole.split
  have hinputs : t.controller.inputs i = l.map .receive := by
    have hcuts : t.controller.inputs i =
        (cutAll first).1.flatMap (Cut.inputs c.channel.config.charset) := rfl
    rw [hcuts, hsettled.charset]
    exact inputs_of_packets hpackets
  have hreceived : (t.controller.take i).1.received = (cutAll first).2 :=
    t.controller.take_received i
  have hparty : w.conversation r = x.line.conversation r := by
    rw [hx.conversation]
  have hinbox : (w.conversation r).inbox =
      l ++ messages ((cutAll first).2 ++ (x.line r).inbound.drop count) := by
    rw [hparty, ← hmessages, hstream]
    rfl
  have hsound := hw.deliverAll hmatched hinbox
  -- The turn takes in these messages.
  have hformal : ∀ j ∈ l.map Channel.Input.receive, ∀ y, j ≠ .command y := by simp
  have hconfig := (utters_stepAll (hx.holds hw r) hformal).1.trans (hx.config_eq hw r)
  have hsent := hx.isPosted hw hposted r hformal
  have hdrained := cutAll_rest first
  have hcharset := hx.charset hw r
  rw [hparty] at hsound
  rw [← hinputs] at hsound hconfig hsent
  rw [← hreceived] at hsound hdrained hrest
  rw [← hconfig] at hcharset
  have htaking : x.line.Taking r t i _ _ :=
    taking_of_posted nofun nofun hsettled (hx.holds hw r) hcharset hsent hdrained hrest
  exact ⟨_, hx.answer (hx.tracks r) hconfig htaking, hsound⟩

end Sides

/-! ## Any number of moves -/

namespace Kept

variable (hmatched : Matched x.clock config)
  (hposted : ∀ r, (Vigil.identification config r).IsPosted)

include hmatched

/-- A side is given data. -/
theorem data (h : x.Kept config start) (r : Role) {text : String} (htext : text ≠ "") :
    { x with line := x.line.answer r (x.line r) x.now (.command (.data text)) }.Kept
      config start := by
  obtain ⟨w, hx, hw⟩ := h
  let c := (x.line r).controller.channel
  have hkept : (∀ p ∈ packets (c.step (.command (.data text))).effects, p.1.IsPosted) →
      { x with line := x.line.answer r (x.line r) x.now (.command (.data text)) }.Kept
        config start := by
    have howed : (w.conversation r).owed = (x.line r).owed := by
      rw [hx.conversation]
      rfl
    have hstep : w.Step r (w.arm? r) { w.conversation r with owed := (x.line r).owed }
        (.command (.data text)) := by
      rw [← howed]
      exact .data text
    exact hx.kept_answer hw hmatched hstep (hx.tracks r) (fun _ => rfl) (fun _ => rfl)
      nofun nofun
  by_cases hstate : c.state = .dataReady
  · have hobey : c.step (.command (.data text)) =
        c.send (.operational text) (some .localData) := if_pos hstate
    have hpackets : packets (c.send (.operational text) (some .localData)).effects =
        [(.operational text, some .localData)] := collect_sending c _ _
    cases hencode : (Message.operational text).encode .utf8 with
    | error fault => exact ⟨w, hx.answer_unsent hw hstate hencode, hw⟩
    | ok bytes =>
        apply hkept
        intro p hp
        rw [hobey, hpackets] at hp
        obtain rfl := List.mem_singleton.mp hp
        exact ⟨nofun, htext, bytes, hencode⟩
  · apply hkept
    have hobey : c.step (.command (.data text)) = ⟨c, _⟩ := if_neg hstate
    intro p hp
    rw [hobey] at hp
    simp at hp

include hposted

/-- A side takes a stimulus. -/
theorem meet (h : x.Kept config start) (r : Role) {stimulus : Terminal.Stimulus}
    (hordinary : IsOrdinary stimulus) : (x.next (.meet r stimulus)).Kept config start := by
  cases stimulus with
  | data text => exact h.data hmatched r hordinary
  | arrival count =>
      obtain ⟨w, hx, hw⟩ := h
      exact hx.kept_arrival hw hmatched hposted r count
  | written =>
      obtain ⟨w, hx, hw⟩ := h
      cases howed : (x.line r).owed with
      | nil =>
          have hnext : x.next (.meet r .written) = x := by
            have hnone : (x.line r).meet? .written = none := by
              rw [Terminal.meet?, howed]
            rw [next, Line.next_eq, hnone]
          rw [hnext]
          exact ⟨w, hx, hw⟩
      | cons e rest =>
          let t := { x.line r with owed := rest }
          have hnext : x.next (.meet r .written) =
              { x with line := x.line.answer r t x.now (.signal (.sent e)) } := by
            have hsome : (x.line r).meet? .written =
                some (.signal (.sent e), t) := by
              rw [Terminal.meet?, howed]
            rw [next, Line.next_eq, hsome]
          have hstep : w.Step r (w.arm? r) { w.conversation r with owed := rest }
              (.confirm e) := by
            apply Vigil.Step.confirm
            rw [hx.conversation]
            exact howed
          have hsent := hx.isPosted hw hposted r (l := [.confirm e]) (by simp)
          rw [stepAll_singleton] at hsent
          rw [hnext]
          exact hx.kept_answer hw hmatched hstep (hx.tracks r) (fun _ => rfl)
            (fun _ => rfl) (by simp) (by simp) hsent
  | tick =>
      obtain ⟨w, hx, hw⟩ := h
      exact ⟨w, hx.answer_tick hw r, hw⟩
  | startup | expiry => cases hordinary

/-- A side goes through its queued expiries, and finds that of its send timer if any. -/
theorem expire (h : x.Kept config start) (r : Role) : (x.expire r).Kept config start := by
  obtain ⟨w, hx, hw⟩ := h
  obtain ⟨kind, a, hkind, ha, hdue, htracks⟩ | ⟨hkind, -, htracks⟩ := (hx.tracks r).expired
  · rw [← hx.now] at hdue
    obtain rfl := hw.eq_send_of_due hmatched ha hdue
    have hexpire : x.expire r =
        { x with line := x.line.answer r (x.line r).sifted x.now (.expired .send) } := by
      rw [Upkeep.expire, Controller.nextExpiry, hkind]
    have howed : (w.conversation r).owed = (x.line r).owed := by
      rw [hx.conversation]
      rfl
    have hstep : w.Step r (Function.update (w.arm? r) .send none)
        { w.conversation r with owed := (x.line r).owed } (.timerExpired .send) := by
      rw [← howed]
      exact .expire ha
    have hsent := hx.isPosted hw hposted r (l := [.timerExpired .send]) (by simp)
    rw [stepAll_singleton] at hsent
    rw [hexpire]
    exact hx.kept_answer hw hmatched hstep htracks (fun _ => rfl) (fun _ => rfl)
      nofun nofun hsent
  · have hexpire : x.expire r =
        { x with line := Function.update x.line r (x.line r).sifted } := by
      rw [Upkeep.expire, Controller.nextExpiry, hkind]
    rw [hexpire]
    have hsame : w = { w with now := x.now } := by
      rw [← hx.now]
    rw [hsame] at hw
    refine ⟨_, hx.of_timers ?_, hw⟩
    intro s
    rcases Conversation.eq_or_eq_peer r s with rfl | rfl
    · exact ⟨_, _, Function.update_self .., htracks⟩
    · exact ⟨_, _, Function.update_of_ne r.peer_ne .., hx.tracks r.peer⟩

omit hposted in
/-- Time passes at both ends. -/
theorem pass (h : x.Kept config start) {duration : Nat}
    (hadmits : x.Admits (.pass duration)) : (x.pass duration).Kept config start := by
  obtain ⟨w, hx, hw⟩ := h
  have hquiescent := hx.quiescent fun r => (hadmits r).1
  have hprompt : ∀ r kind a,
      w.arm? r kind = some a → w.now + duration ≤ a.deadline x.clock := by
    intro r kind a ha
    obtain ⟨n, hn, hle⟩ := (hx.tracks r).exists_nextDeadline? (hadmits r).1.2.2 ha
    rw [hx.now]
    exact Nat.le_trans ((hadmits r).2 n hn) hle
  have hpassed := hw.pass hmatched hquiescent hprompt
  rw [hx.now] at hpassed
  refine ⟨_, hx.of_timers ?_, hpassed⟩
  intro r
  exact ⟨_, _, rfl, (hx.tracks r).elapse (Nat.le_add_right _ _)⟩

theorem next (h : x.Kept config start) {move : Move} (hadmits : x.Admits move) :
    (x.next move).Kept config start := by
  cases move with
  | meet r stimulus => exact h.meet hmatched hposted r hadmits
  | expiry r => exact h.expire hmatched hposted r
  | pass duration => exact h.pass hmatched hadmits

/-- What is known of two controllers remains true over any moves. -/
theorem run (h : x.Kept config start) {moves : List Move} (hpermits : x.Permits moves) :
    (x.run moves).Kept config start := by
  induction moves generalizing x with
  | nil => exact h
  | cons move rest ih =>
      obtain ⟨hadmits, hrest⟩ := hpermits
      have hnext := h.next hmatched hposted hadmits
      rw [← x.clock_next move] at hmatched
      exact ih hmatched hnext hrest

end Kept

/-- Only the send timers of two controllers ever expire, and both exchange data once
time has passed. -/
theorem Kept.expiry_and_state (hmatched : Matched x.clock config) (h : x.Kept config start)
    (r : Role) :
    (∀ kind, (x.line r).controller.timers.Awaits kind → kind = .send) ∧
      (start < x.now → (x.line r).controller.channel.state = .dataReady) := by
  obtain ⟨w, hx, hw⟩ := h
  refine ⟨?_, ?_⟩
  · intro kind hawaits
    obtain ⟨a, ha, hdue⟩ := hawaits.exists_arm (hx.tracks r)
    rw [← hx.now] at hdue
    exact hw.eq_send_of_due hmatched ha hdue
  · intro hlater
    rw [← hx.now] at hlater
    have hstate := (hw.phase.resolve_left fun h => hlater.ne' h.1).state r
    rw [hx.conversation] at hstate
    exact hstate

end Upkeep

end FlightLink
