import FlightLink.Controller
import FlightLink.Controller.Publication
import FlightLink.Rehearsal.Timers

/-!
# Rehearsing a controller

A controller on a clock that is moved by hand, with a script in the place of its transport and its
application.  After each step of the script the controller comes to rest, and what it has put out
since the last step is looked at.
-/

namespace FlightLink.Rehearsal

/-- How many records fit into the log queue of the application. -/
def logCapacity : Nat := 1024

/-- A controller on the stage. -/
structure ControllerStage where
  now : Nat
  controller : Controller
  /-- When the status is due to be published. -/
  nextTick : Nat
  status : Status
  /-- Whether the script can still queue commands, and signals. -/
  commandsOpen : Bool
  signalsOpen : Bool
  /-- Whether the application still takes payloads, and log records. -/
  payloadsOpen : Bool
  logsOpen : Bool
  /-- What has been put out since the last step, the latest first, and how many log records. -/
  orders : List (Nat × Transport.Order)
  payloads : List Message
  records : List LogRecord
  recordCount : Nat

/-- What a step of the script brought about. -/
structure ControllerReport where
  accepted : Bool
  now : Nat
  ending? : Option Ending
  records : List LogRecord
  payloads : List Message
  status : Status
  orders : List (Nat × Transport.Order)

namespace ControllerStage

/-- Whether the run of the controller goes on. -/
def running (s : ControllerStage) : Bool := s.controller.ending?.isNone

/-- Takes note of an output.  A full log queue loses further records. -/
def collect (s : ControllerStage) : Controller.Output → ControllerStage
  | .order o => { s with orders := (s.now, o) :: s.orders }
  | .payload m => if s.payloadsOpen then { s with payloads := m :: s.payloads } else s
  | .record r =>
    if s.logsOpen && s.recordCount < logCapacity then
      { s with records := r :: s.records, recordCount := s.recordCount + 1 }
    else s
  | .status status => { s with status }
  | .note _ => s

/-- One turn of the controller. -/
def turn (s : ControllerStage) (input : Controller.Input) : ControllerStage :=
  let (controller, outputs) := s.controller.turn s.now input
  outputs.foldl collect { s with controller }

/-- Handles the expiries that are queued; each takes at least one off the queue. -/
def settleExpiries : (fuel : Nat) → ControllerStage → ControllerStage
  | 0, s => s
  | fuel + 1, s =>
    let (kind?, controller, _) := s.controller.nextExpiry
    match kind? with
    | none => { s with controller }
    | some kind => settleExpiries fuel (turn { s with controller } (.expired kind))

/-- Lets the controller handle everything that is due now. -/
def settle (s : ControllerStage) : ControllerStage :=
  if s.running then
    let controller := { s.controller with timers := s.controller.timers.elapse .standard s.now }
    let s := settleExpiries (controller.timers.queue.length + 1) { s with controller }
    if s.running && s.nextTick ≤ s.now then
      { s.turn .tick with nextTick := Controller.nextPublication s.nextTick s.now }
    else s
  else s

/-- A controller that has just been started. -/
def ofConfig (config : Config) : ControllerStage :=
  let controller := Controller.ofConfig config
  let s : ControllerStage :=
    { now := 0, controller, nextTick := 0, status := controller.channel.status
      commandsOpen := true, signalsOpen := true, payloadsOpen := true, logsOpen := true
      orders := [], payloads := [], records := [], recordCount := 0 }
  (s.turn .start).settle

/-- What happened since the last report. -/
def report (s : ControllerStage) (wasRunning accepted : Bool) :
    ControllerReport × ControllerStage :=
  ({ accepted, now := s.now, records := s.records.reverse, payloads := s.payloads.reverse
     status := s.status, orders := s.orders.reverse
     ending? := if wasRunning then s.controller.ending? else none },
    { s with orders := [], payloads := [], records := [], recordCount := 0 })

/-- Moves the clock to `limit`, one instant after another. -/
def moveTo (limit : Nat) : (fuel : Nat) → ControllerStage → ControllerStage
  | 0, s => { s with now := limit }
  | fuel + 1, s =>
    if s.running then
      match nextInstant?
          (s.nextTick :: (s.controller.timers.nextDeadline? .standard).toList) limit with
      | none => { s with now := limit }
      | some t => moveTo limit fuel { s with now := max s.now t }.settle
    else { s with now := limit }

/-- The steps of a script. -/
inductive Step where
  | signal (s : Transport.Signal)
  | command (command : Command)
  | advance (duration : Nat)
  | dropPayloads
  | dropLogs
  | closeCommands
  | closeSignals
  | stopTransport

/-- Does a step and lets the controller come to rest.  The answer tells whether the step's signal
or command could be queued. -/
def perform (s : ControllerStage) : Step → Bool × ControllerStage
  | .signal signal =>
    if s.signalsOpen && s.running then (true, (s.turn (.signal signal)).settle) else (false, s)
  | .command command =>
    if s.commandsOpen && s.running then (true, (s.turn (.command command)).settle) else (false, s)
  | .advance duration => (true, moveTo (Clock.standard.wake s.now duration) (duration + 1) s)
  | .dropPayloads => (true, { s with payloadsOpen := false })
  | .dropLogs => (true, { s with logsOpen := false })
  | .closeCommands => (true, turn { s with commandsOpen := false } .commandsClosed)
  | .closeSignals => (true, turn { s with signalsOpen := false } .signalsClosed)
  | .stopTransport =>
    (true, { s with controller := { s.controller with transportGone := true } })

/-- Does a step and reports what it brought about. -/
def step (s : ControllerStage) (step : Step) : ControllerReport × ControllerStage :=
  let (accepted, after) := s.perform step
  after.report s.running accepted

end ControllerStage

end FlightLink.Rehearsal
