import FlightLink.Proofs.Controller.Completion
import Mathlib.Algebra.Order.BigOperators.Group.List

/-!
# Data that do not fit into a packet

Data of the application are counted and queued before it shows that they do not fit
into a packet.  Giving up their event then takes the count back to where it was.  This
would let go of the messages on hold if nothing else were awaited.  But then nothing is
on hold: messages are held only while an event is awaited, in every state that a
controller gets into.  So all that remains of such data are records.
-/

namespace FlightLink

open Channel Effect

namespace Charset

theorem length_encodeChar_pos (c : Char) : 1 ≤ (Text.Utf8.encodeChar c).length := by
  unfold Text.Utf8.encodeChar
  dsimp only
  split_ifs <;> simp

theorem length_reference_pos (c : Char) : 1 ≤ (reference c).length := by
  rw [reference, Text.Utf8.encode]
  exact Nat.le_trans (length_encodeChar_pos _) (List.length_append ▸ Nat.le_add_right _ _)

/-- A character takes at least one byte. -/
theorem length_le_length_encode (charset : Charset) (text : String) :
    text.toList.length ≤ (charset.encode text).length := by
  have hmany : ∀ f : Char → List UInt8, (∀ c, 1 ≤ (f c).length) →
      text.toList.length ≤ (text.toList.flatMap f).length := by
    intro f hf
    rw [List.length_flatMap]
    have hsum := List.length_le_sum_of_one_le (text.toList.map fun c => (f c).length) ?_
    · rwa [List.length_map] at hsum
    intro n hn
    obtain ⟨c, -, rfl⟩ := List.mem_map.mp hn
    exact hf c
  cases charset with
  | utf8 => exact hmany _ length_encodeChar_pos
  | windows1251 =>
      refine hmany _ fun c => ?_
      split
      · exact Nat.le_refl 1
      · exact length_reference_pos c

end Charset

/-- A message whose packet would be too long has no encoding. -/
theorem Message.encode_eq_error {m : Message} {charset : Charset}
    (hlong : Packet.lengthLimit ≤ Packet.headerLength + (charset.encode m.text).length) :
    m.encode charset = .error (.payloadTooLong (charset.encode m.text).length) :=
  if_neg (Nat.not_lt.mpr hlong)

namespace Channel

/-- The records about a message that does not fit into a packet, and about its event. -/
def failures (c : Channel) (m : Message) (e : Event) : List LogRecord :=
  let fault := Fault.payloadTooLong (c.config.charset.encode m.text).length
  [.plain c.config.id .error s!"cannot send {m.describe}: {fault.message}",
    .plain c.config.id .warning s!"packet not sent, {e.name} not raised"]

/-- The records about data that do not fit into a packet.  Outside of `DATA_READY` it is
the state that is recorded, not the size. -/
def refusals (c : Channel) (text : String) : List LogRecord :=
  if c.state = .dataReady then
    (LogRecord.plain c.config.id .info s!"sending {text}").about .operational .outgoing ::
      c.failures (.operational text) .localData
  else
    [.plain c.config.id .warning s!"dropping outbound data in {c.state.name}: {text}"]

theorem logged_eq_action (c : Channel) {severity : Severity} (text : String)
    (hseverity : severity ≠ .debug) :
    c.logged severity text = .action (.log (.plain c.config.id severity text)) :=
  if_neg fun h => hseverity h.1

/-- Giving up an event that has just been counted leaves no trace but a record. -/
theorem HoldsInOrder.unsent_eq {c : Channel} (h : c.HoldsInOrder) (e : Event) :
    Channel.unsent { c with awaiting := c.awaiting + 1 } (some e) =
      ⟨c, [c.logged .warning s!"packet not sent, {e.name} not raised"]⟩ := by
  rw [Channel.unsent, if_pos (Nat.succ_pos c.awaiting)]
  change Outcome.andThen ⟨c, [c.logged .warning _]⟩ replay = _
  rw [Outcome.andThen, h.replay_eq]
  rfl

end Channel

namespace Controller

variable {config : Config} {c : Controller} {now : Nat}

/-- The states that a controller gets into, those between two actions included.  Time
goes on whenever it likes, and the transport may go away. -/
inductive Reachable (config : Config) : Controller → Prop where
  | ofConfig : Reachable config (.ofConfig config)
  | take {c : Controller} (h : Reachable config c) (i : Input) :
      Reachable config (c.take i).1
  | perform {c : Controller} (h : Reachable config c) {now : Nat} {r : Result}
      (hr : c.performNext? now = some r) : Reachable config r.1
  | elapse {c : Controller} (h : Reachable config c) (clock : Clock) (now : Nat) :
      Reachable config { c with timers := c.timers.elapse clock now }
  | nextExpiry {c : Controller} (h : Reachable config c) :
      Reachable config c.nextExpiry.2.1
  | attach {c : Controller} (h : Reachable config c) (gone : Bool) :
      Reachable config { c with transportGone := gone }

theorem Reachable.holdsInOrder (h : Reachable config c) : c.channel.HoldsInOrder := by
  induction h with
  | ofConfig => exact holdsInOrder_ofConfig config
  | take h i ih =>
      rw [(follows_take _ i).1.channel]
      exact holdsInOrder_stepAll ih _
  | perform h hr ih =>
      obtain ⟨a, rest, -, hfollows, -⟩ := follows_performNext? hr
      rw [hfollows.channel]
      exact holdsInOrder_stepAll ih _
  | elapse h clock now ih => exact ih
  | nextExpiry h ih => exact ih
  | attach h gone ih => exact ih

/-! ## Records -/

/-- What comes out when records are logged. -/
def logging (l : List LogRecord) : List Output :=
  l.flatMap fun r => [.note r.note, .record r]

@[simp] theorem orders_logging (l : List LogRecord) : orders (logging l) = [] := by
  induction l with
  | nil => rfl
  | cons r l ih => exact ih

@[simp] theorem payloads_logging (l : List LogRecord) : payloads (logging l) = [] := by
  induction l with
  | nil => rfl
  | cons r l ih => exact ih

/-- Carrying out records comes to no more than logging them. -/
theorem execute_of_records (now : Nat) (hgoing : c.ending? = none) {l : List LogRecord}
    (hpending : c.pending.toList = l.map .log) :
    ∃ rest : Fifo Action, rest.toList = [] ∧
      c.execute now = ({ c with pending := rest }, logging l) := by
  induction l generalizing c with
  | nil =>
      exact ⟨c.pending, hpending, execute_of_performNext?_eq_none (performNext?_eq_none now hpending)⟩
  | cons r l ih =>
      obtain ⟨q, hq, hr⟩ := exists_performNext? now hgoing hpending
      obtain ⟨rest, hrest, hexecute⟩ := ih (c := { c with pending := q }) hgoing hq
      refine ⟨rest, hrest, ?_⟩
      rw [execute_of_performNext? hr]
      simp only [perform]
      rw [hexecute]
      rfl

/-! ## Data -/

/-- A packet that is too long is given up, and so is its event. -/
theorem perform_of_oversized {d : Controller} {m : Message} (e : Event)
    (hholds : c.channel.HoldsInOrder)
    (hchannel : d.channel = { c.channel with awaiting := c.channel.awaiting + 1 })
    (hlong : Packet.lengthLimit ≤
      Packet.headerLength + (c.channel.config.charset.encode m.text).length) :
    d.perform now (.send m (some e)) =
      ({ d with
          channel := c.channel
          pending := d.pending.append ((c.channel.failures m e).map .log) }, []) := by
  have hcharset : d.channel.config.charset = c.channel.config.charset := by rw [hchannel]
  rw [perform, hcharset, Message.encode_eq_error hlong]
  dsimp only
  rw [Outcome.andThen, hchannel, hholds.unsent_eq]
  rw [logged_eq_action _ _ (by decide), logged_eq_action _ _ (by decide)]
  rfl

/-- In `DATA_READY` the data are counted, queued and given up. -/
theorem turn_of_oversized_in_dataReady (hholds : c.channel.HoldsInOrder)
    (hdone : c.pending.toList = []) (hgoing : c.ending? = none) {text : String}
    (hlong : Packet.lengthLimit ≤
      Packet.headerLength + (c.channel.config.charset.encode text).length)
    (hready : c.channel.state = .dataReady) :
    ∃ rest : Fifo Action, rest.toList = [] ∧ c.turn now (.command (.data text)) =
      ({ c with pending := rest }, logging (c.channel.refusals text)) := by
  let m := Message.operational text
  let queued : LogRecord :=
    (LogRecord.plain c.channel.config.id .info s!"sending {text}").about
      .operational .outgoing
  let counted : Controller :=
    { c with
      channel := { c.channel with awaiting := c.channel.awaiting + 1 }
      pending := c.pending.append [.log queued, .send m (some .localData)] }
  have htake : c.take (.command (.data text)) = (counted, []) := by
    simp only [take]
    rw [obey, if_pos hready]
    rfl
  have hpending : counted.pending.toList = [.log queued, .send m (some .localData)] := by
    rw [Fifo.toList_append, hdone, List.nil_append]
  obtain ⟨q, hq, hlog⟩ := exists_performNext? (c := counted) now hgoing hpending
  obtain ⟨q', hq', hsend⟩ :=
    exists_performNext? (c := { counted with pending := q }) now hgoing hq
  rw [perform_of_oversized (c := c) (m := m) _ hholds rfl hlong] at hsend
  -- The count is where it was, and what is left are the records of the failure.
  let givenUp : Controller :=
    { c with pending := q'.append ((c.channel.failures m .localData).map .log) }
  obtain ⟨rest, hrest, hexecute⟩ := execute_of_records (c := givenUp) now hgoing
    (by rw [Fifo.toList_append, hq', List.nil_append])
  have hrefusals : c.channel.refusals text = queued :: c.channel.failures m .localData := by
    rw [refusals, if_pos hready]
  have hfailed : Controller.execute { counted with pending := q } now =
      ((givenUp.execute now).1, (givenUp.execute now).2) := execute_of_performNext? hsend
  have hlogged : counted.execute now =
      ((Controller.execute { counted with pending := q } now).1,
        logging [queued] ++ (Controller.execute { counted with pending := q } now).2) :=
    execute_of_performNext? hlog
  refine ⟨rest, hrest, ?_⟩
  rw [turn_eq hgoing, htake, hrefusals, hlogged, hfailed, hexecute]
  rfl

/-- In any other state the data are dropped at once. -/
theorem turn_of_data_elsewhere (hdone : c.pending.toList = []) (hgoing : c.ending? = none)
    (text : String) (hready : c.channel.state ≠ .dataReady) :
    ∃ rest : Fifo Action, rest.toList = [] ∧ c.turn now (.command (.data text)) =
      ({ c with pending := rest }, logging (c.channel.refusals text)) := by
  have htake : c.take (.command (.data text)) =
      ({ c with pending := c.pending.append ((c.channel.refusals text).map .log) }, []) := by
    simp only [take]
    rw [obey, if_neg hready, refusals, if_neg hready, logged_eq_action _ _ (by decide)]
    rfl
  obtain ⟨rest, hrest, hexecute⟩ := execute_of_records
    (c := { c with pending := c.pending.append ((c.channel.refusals text).map .log) })
    now hgoing (by rw [Fifo.toList_append, hdone, List.nil_append])
  exact ⟨rest, hrest, by rw [turn_eq hgoing, htake, hexecute]; rfl⟩

theorem severity_refusals (c : Channel) (text : String) :
    (c.refusals text).map LogRecord.severity =
      if c.state = .dataReady then [.info, .error, .warning] else [.warning] := by
  unfold refusals
  split <;> rfl

/-- Data that do not fit into a packet leave nothing behind but records.  One of them
is an error in `DATA_READY`, and the only one is a warning elsewhere. -/
theorem Reachable.turn_of_oversized (h : Reachable config c)
    (hdone : c.pending.toList = []) (hgoing : c.ending? = none) (now : Nat) {text : String}
    (hlong : Packet.lengthLimit ≤
      Packet.headerLength + (c.channel.config.charset.encode text).length) :
    ∃ rest : Fifo Action, rest.toList = [] ∧ ∃ l : List LogRecord,
      c.turn now (.command (.data text)) = ({ c with pending := rest }, logging l) ∧
      orders (logging l) = [] ∧ payloads (logging l) = [] ∧
      l.map LogRecord.severity =
        if c.channel.state = .dataReady then [.info, .error, .warning] else [.warning] := by
  have hturn : ∃ rest : Fifo Action, rest.toList = [] ∧ c.turn now (.command (.data text)) =
      ({ c with pending := rest }, logging (c.channel.refusals text)) := by
    by_cases hready : c.channel.state = .dataReady
    · exact turn_of_oversized_in_dataReady h.holdsInOrder hdone hgoing hlong hready
    · exact turn_of_data_elsewhere hdone hgoing text hready
  obtain ⟨rest, hrest, hturn⟩ := hturn
  exact ⟨rest, hrest, _, hturn, orders_logging _, payloads_logging _, severity_refusals _ _⟩

theorem Reachable.execute (h : Reachable config c) (now : Nat) :
    Reachable config (c.execute now).1 :=
  executeOnto_induction (P := fun c _ => Reachable config c) (fun h hr => h.perform hr)
    c.effort h

theorem Reachable.turn (h : Reachable config c) (now : Nat) (i : Input) :
    Reachable config (c.turn now i).1 := by
  unfold Controller.turn
  split
  · exact h
  · exact (h.take i).execute now

theorem Reachable.turns (h : Reachable config c) (inputs : List Input) :
    Reachable config (inputs.foldl (fun c i => (c.turn 0 i).1) c) := by
  induction inputs generalizing c with
  | nil => exact h
  | cons i rest ih => exact ih (h.turn 0 i)

/-- A client that awaits the event of some data and holds a heartbeat. -/
def occupied : Controller :=
  [.start, .signal (.connected true), .signal (.sent .remoteSetup),
    .signal (.raised .remoteIdValid), .signal (.sent .localStartup),
    .signal (.raised .remoteStartup), .command (.data "x"),
    .signal (.received ⟨#[2, 0, 0, 7, 4, 48, 51]⟩)].foldl
      (fun c i => (c.turn 0 i).1) (ofConfig (.sample .client))

theorem turn_of_oversized_occupied :
    let text := String.ofList (List.replicate 65525 'x')
    Reachable (.sample .client) occupied ∧ occupied.pending.toList = [] ∧
      occupied.channel.awaiting = 1 ∧ occupied.channel.held = #[.heartbeat] ∧
      ∃ rest : Fifo Action, rest.toList = [] ∧ ∃ l : List LogRecord,
        occupied.turn 1 (.command (.data text)) =
          ({ occupied with pending := rest }, logging l) ∧
        orders (logging l) = [] ∧ payloads (logging l) = [] ∧
        l.map LogRecord.severity = [.info, .error, .warning] := by
  intro text
  have hreachable : Reachable (.sample .client) occupied := Reachable.ofConfig.turns _
  have hdone : occupied.pending.toList = [] := by decide +kernel
  have hgoing : occupied.ending? = none := by decide +kernel
  have hready : occupied.channel.state = .dataReady := by decide +kernel
  have hlong : Packet.lengthLimit ≤
      Packet.headerLength + (occupied.channel.config.charset.encode text).length := by
    have hle := occupied.channel.config.charset.length_le_length_encode text
    rw [String.toList_ofList, List.length_replicate] at hle
    exact Nat.add_le_add_left hle 5
  obtain ⟨rest, hrest, l, hturn, horders, hpayloads, hseverity⟩ :=
    hreachable.turn_of_oversized hdone hgoing 1 hlong
  rw [if_pos hready] at hseverity
  exact ⟨hreachable, hdone, by decide +kernel, by decide +kernel, rest, hrest, l, hturn,
    horders, hpayloads, hseverity⟩

end Controller

end FlightLink
