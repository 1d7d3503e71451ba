import FlightLink.Proofs.Channel.Connection
import FlightLink.Proofs.Controller.Drive
import FlightLink.Proofs.Transport.Stations

/-!
# Controllers and stations as two tasks

A controller and its station share nothing but two queues: orders go one way and
signals the other.  Between any two of their steps the application, the timers,
the network and the two halves of the session may do what they like.  Only the
controller is orderly in itself: it carries out all actions before it takes
anything else.

Orders and signals say nothing about sessions.  To be able to speak about it,
each order is written down with the session that the controller knew of when it
gave the order, and each signal with the session that it is about.  No step
depends on these.
-/

namespace FlightLink

open Transport

/-- A controller and its station with the queues between them, the oldest
element first. -/
structure Coupling where
  controller : Controller
  station : Station
  /-- The orders, with the session whose connection was known to the controller. -/
  orders : List (Option Nat × Order)
  /-- The signals, with the session that was connected or has reported. -/
  signals : List (Option Nat × Signal)
  /-- The session whose connection is known to the controller. -/
  view? : Option Nat

namespace Coupling

/-- A new controller with its station. -/
def ofConfig (config : Config) : Coupling :=
  ⟨.ofConfig config, .ofConfig config, [], [], none⟩

/-- The session whose connection is known after a signal. -/
def viewAfter (view? : Option Nat) (p : Option Nat × Signal) : Option Nat :=
  match p.2 with
  | .connected true => p.1
  | .connected false => none
  | _ => view?

/-- The session that a signal is about: the one just opened if it tells of a
connection, and the one that a packet was meant for if it tells of that. -/
def subject (opened : Nat) (meant? : Option Nat) : Signal → Option Nat
  | .connected true => some opened
  | .sent _ | .unsent _ => meant?
  | _ => none

/-- Puts a step of the station into effect; `meant?` is the session that the
packet was meant for. -/
def settle (x : Coupling) (meant? : Option Nat) (r : Station.Result) : Coupling :=
  { x with
    station := r.1
    signals := x.signals ++
      (Transport.signals r.2).map fun s => (subject r.1.link.opened meant? s, s) }

/-- The controller, which finds out by itself whether its station takes orders. -/
def informed (x : Coupling) : Controller :=
  { x.controller with transportGone := !x.station.isRunning }

/-- What can happen next. -/
inductive Move where
  /-- Time passes for the timers. -/
  | elapse (timers : TimerBank)
  /-- The controller takes an input that does not come from its station. -/
  | input (i : Controller.Input)
  /-- The controller takes the next signal. -/
  | signal
  /-- The controller carries out the next action. -/
  | perform (now : Nat)
  /-- The station takes the next order. -/
  | order (clock : Clock) (now : Nat)
  /-- The station takes anything else. -/
  | station (clock : Clock) (now : Nat) (i : Station.Input)
  /-- A half of a session moves. -/
  | session (id : Nat) (m : Session.Move)

/-- Whether an input does not come from the station, and is not the last one. -/
def isOuter : Controller.Input → Bool
  | .start | .expired _ | .command _ | .tick => true
  | .signal _ | .signalsClosed | .commandsClosed => false

/-- Whether the controller takes inputs. -/
def isReady (x : Coupling) : Bool :=
  x.controller.ending?.isNone && x.controller.pending.isEmpty

/-- The session that the next report comes from. -/
def reporter? (x : Coupling) : Option Nat :=
  x.station.link.reports.pop?.map (·.1.1)

/-- A move, if it is possible. -/
def next? (x : Coupling) : Move → Option Coupling
  | .elapse timers => some { x with controller := { x.controller with timers } }
  | .input i =>
    if x.isReady && isOuter i then
      some { x with controller := (x.informed.take i).1 }
    else none
  | .signal =>
    match x.signals with
    | [] => none
    | p :: rest =>
      if x.isReady then
        some { x with
          controller := (x.informed.take (.signal p.2)).1
          signals := rest
          view? := viewAfter x.view? p }
      else none
  | .perform now =>
    (x.informed.performNext? now).map fun (c, outputs) =>
      { x with
        controller := c
        orders := x.orders ++ (Controller.orders outputs).map (x.view?, ·) }
  | .order clock now =>
    match x.orders with
    | [] => none
    | (meant?, o) :: rest =>
      (x.station.take? clock now (.order o)).map ({ x with orders := rest }.settle meant?)
  | .station clock now i =>
    match i with
    | .order _ => none
    | i => (x.station.take? clock now i).map (x.settle x.reporter?)
  | .session id m => (x.station.move? id m).map (x.settle none)

/-- What can come about by moves through states with the property `ok`. -/
inductive Reaches (config : Config) (ok : Coupling → Bool) : Coupling → Prop where
  | init (hok : ok (ofConfig config)) : Reaches config ok (ofConfig config)
  | move {x y : Coupling} (h : Reaches config ok x) {m : Move}
      (hy : x.next? m = some y) (hok : ok y) : Reaches config ok y

/-- Makes moves one after the other, through states with the property `ok`. -/
def run? (ok : Coupling → Bool) (x : Coupling) : List Move → Option Coupling
  | [] => some x
  | m :: rest =>
    match x.next? m with
    | none => none
    | some y => if ok y then run? ok y rest else none

theorem Reaches.run? {config : Config} {ok : Coupling → Bool} {x y : Coupling}
    (h : Reaches config ok x) {moves : List Move}
    (hy : x.run? ok moves = some y) : Reaches config ok y := by
  induction moves generalizing x with
  | nil => cases hy; exact h
  | cons m rest ih =>
      rw [Coupling.run?] at hy
      split at hy
      · cases hy
      · next z hz =>
          split at hy
          · next hok => exact ih (h.move hz hok) hy
          · cases hy

/-- The controller carries out a number of actions. -/
def performs (count : Nat) : List Move :=
  List.replicate count (.perform 0)

/-- A client looks for a connection and finds one. -/
def finds (connection : Nat) : List Move :=
  [.station .standard 0 (.resolved (.ok [.v4 127 0 0 1])),
    .station .standard 0 (.dialled (.connected ⟨connection, .dialer⟩))]

/-- A client is started, and queues its identification once it has been told of
its first connection. -/
def greets : List Move :=
  [.input .start] ++ performs 2 ++ [.order .standard 0] ++ finds 0 ++ [.signal] ++
    performs 1 ++ [.signal] ++ performs 4

/-! ## What moves do -/

theorem station_ofConfig (config : Config) :
    (ofConfig config).station.link.session? = none ∧ (ofConfig config).station.Apart := by
  unfold ofConfig Station.ofConfig
  split
  · exact ⟨rfl, fun _ => rfl⟩
  · exact ⟨rfl, nofun⟩

variable {x y : Coupling}

theorem input_spec {i : Controller.Input} (h : x.next? (.input i) = some y) :
    isOuter i = true ∧ ∃ c, x.controller.Follows (x.controller.inputs i) c ∧
      y = { x with controller := c } := by
  simp only [next?] at h
  split at h
  · next hready =>
      cases h
      have hfollows := (x.informed.follows_take i).1
      have houter := (Bool.and_eq_true_iff.mp hready).2
      exact ⟨houter, _, ⟨hfollows.channel, hfollows.pending⟩, rfl⟩
  · cases h

theorem signal_spec (h : x.next? .signal = some y) :
    ∃ p rest c, x.signals = p :: rest ∧
      x.controller.Follows (x.controller.inputs (.signal p.2)) c ∧
      y = { x with
        controller := c
        signals := rest
        view? := viewAfter x.view? p } := by
  simp only [next?] at h
  split at h
  · cases h
  · next p rest hsignals =>
      split at h
      · cases h
        have hfollows := (x.informed.follows_take (.signal p.2)).1
        exact ⟨p, rest, _, hsignals, ⟨hfollows.channel, hfollows.pending⟩, rfl⟩
      · cases h

theorem perform_spec {now : Nat} (h : x.next? (.perform now) = some y) :
    ∃ a rest c, x.controller.pending.pop? = some (a, rest) ∧
      Controller.Follows { x.controller with pending := rest }
        (x.controller.echoes a) c ∧
      y = { x with
        controller := c
        orders := x.orders ++
          (if x.station.isRunning then (x.controller.orderOf? a).toList else []).map
            (x.view?, ·) } := by
  simp only [next?] at h
  obtain ⟨⟨c, outputs⟩, hnext, rfl⟩ := Option.map_eq_some_iff.mp h
  obtain ⟨a, rest, hpop, hfollows, -, horders⟩ := Controller.follows_performNext? hnext
  have hgiven : Controller.orders outputs =
      if x.station.isRunning then (x.controller.orderOf? a).toList else [] := by
    rw [horders, informed]
    cases x.station.isRunning <;> rfl
  refine ⟨a, rest, c, hpop, ⟨hfollows.channel, hfollows.pending⟩, ?_⟩
  rw [hgiven]

theorem order_spec {clock : Clock} {now : Nat} (h : x.next? (.order clock now) = some y) :
    ∃ meant? o rest s outputs, x.orders = (meant?, o) :: rest ∧
      x.station.take? clock now (.order o) = some (s, outputs) ∧
      y = { x with orders := rest }.settle meant? (s, outputs) := by
  simp only [next?] at h
  split at h
  · cases h
  · next meant? o rest horders =>
      obtain ⟨⟨s, outputs⟩, htake, rfl⟩ := Option.map_eq_some_iff.mp h
      exact ⟨meant?, o, rest, s, outputs, horders, htake, rfl⟩

theorem station_spec {clock : Clock} {now : Nat} {i : Station.Input}
    (h : x.next? (.station clock now i) = some y) :
    (∀ o, i ≠ .order o) ∧ ∃ s outputs, x.station.take? clock now i = some (s, outputs) ∧
      y = x.settle x.reporter? (s, outputs) := by
  simp only [next?] at h
  split at h
  · cases h
  · next hi =>
      obtain ⟨⟨s, outputs⟩, htake, rfl⟩ := Option.map_eq_some_iff.mp h
      exact ⟨hi, s, outputs, htake, rfl⟩

theorem session_spec {id : Nat} {m : Session.Move}
    (h : x.next? (.session id m) = some y) :
    ∃ s outputs, x.station.move? id m = some (s, outputs) ∧
      y = x.settle none (s, outputs) := by
  obtain ⟨⟨s, outputs⟩, hmove, rfl⟩ := Option.map_eq_some_iff.mp h
  exact ⟨s, outputs, hmove, rfl⟩

end Coupling

end FlightLink
