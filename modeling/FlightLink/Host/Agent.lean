import FlightLink.Controller
import FlightLink.Controller.Publication
import FlightLink.Transport.Station

/-!
# Agents

An agent is a station together with what gives it orders and takes its signals.  Orders and signals
wait in two queues.  Mostly the other side of the queues is a desk: a controller with the commands
of its application and the status that it publishes.
-/

namespace FlightLink

/-- A controller and its application. -/
structure Desk where
  controller : Controller
  started : Bool
  commands : Fifo Command
  /-- Whether further commands may come. -/
  commandsOpen : Bool
  /-- When the status is due to be published. -/
  nextTick : Nat
  /-- The status as last published. -/
  status : Status
  /-- The payloads that have been delivered, the latest first. -/
  payloads : List Message

namespace Desk

/-- The desk of a channel that is about to be started. -/
def ofConfig (config : Config) (now : Nat) : Desk :=
  let controller := Controller.ofConfig config
  ⟨controller, false, .empty, true, now, controller.channel.status, []⟩

/-- Whether the run of the controller goes on. -/
def isRunning (d : Desk) : Bool := d.controller.ending?.isNone

/-- Gives a command to the controller, unless the queue is closed. -/
def command (d : Desk) (c : Command) : Desk :=
  if d.commandsOpen && d.isRunning then { d with commands := d.commands.push c } else d

/-- The next input of the controller, taken off its queue.  Signals come first, so that what has
been confirmed is known before anything else happens, then expiries, commands, and the time to
publish the status. -/
def nextInput? (d : Desk) (clock : Clock) (now : Nat) (signal? : Option Transport.Signal)
    (stationRunning : Bool) :
    Option (Controller.Input × Desk × List Controller.Output) :=
  if !d.isRunning then none
  else if !d.started then some (.start, { d with started := true }, [])
  else
    match signal? with
    | some s => some (.signal s, d, [])
    | none =>
      if !stationRunning then some (.signalsClosed, d, [])
      else
        let elapsed := { d.controller with timers := d.controller.timers.elapse clock now }
        let (kind?, controller, outputs) := elapsed.nextExpiry
        match kind?, d.commands.pop? with
        | some kind, _ => some (.expired kind, { d with controller }, outputs)
        | none, some (c, rest) =>
          some (.command c, { d with controller, commands := rest }, outputs)
        | none, none =>
          if !d.commandsOpen then some (.commandsClosed, { d with controller }, outputs)
          else if d.nextTick ≤ now then
            some (.tick,
              { d with controller, nextTick := Controller.nextPublication d.nextTick now }, outputs)
          else none

/-- A turn of the controller. -/
def turn (d : Desk) (now : Nat) (input : Controller.Input) (stationRunning : Bool) :
    Desk × List Controller.Output :=
  let controller := { d.controller with transportGone := !stationRunning }
  let (controller, outputs) := controller.turn now input
  ({ d with controller }, outputs)

end Desk

/-- A station, its queues, and its desk if it has one. -/
structure Agent where
  station : Transport.Station
  orders : Fifo Transport.Order
  /-- Whether further orders may come. -/
  ordersOpen : Bool
  signals : Fifo Transport.Signal
  /-- Whether anybody still takes signals. -/
  signalsOpen : Bool
  desk? : Option Desk

namespace Agent

/-- A station on its own. -/
def ofStation (station : Transport.Station) : Agent :=
  ⟨station, .empty, true, .empty, true, none⟩

/-- The station and the controller of a channel. -/
def ofConfig (config : Config) (now : Nat) : Agent :=
  { ofStation (.ofConfig config) with desk? := some (.ofConfig config now) }

/-- Queues an order, unless the queue is closed. -/
def order (a : Agent) (o : Transport.Order) : Agent :=
  if a.ordersOpen && a.station.isRunning then { a with orders := a.orders.push o } else a

/-- Queues a signal, unless nobody takes it. -/
def signal (a : Agent) (s : Transport.Signal) : Agent :=
  if a.signalsOpen then { a with signals := a.signals.push s } else a

/-- Gives a command to the controller. -/
def command (a : Agent) (c : Command) : Agent :=
  { a with desk? := a.desk?.map (·.command c) }

/-- Closes the command queue of the controller. -/
def closeCommands (a : Agent) : Agent :=
  { a with desk? := a.desk?.map fun d => { d with commandsOpen := false } }

/-- Closes both queues, as the controller has come to its end. -/
def hangUp (a : Agent) : Agent :=
  { a with ordersOpen := false, signals := .empty, signalsOpen := false }

/-- Whether controller and station have come to their ends. -/
def isOver (a : Agent) : Bool :=
  !a.station.isRunning && a.desk?.all (!·.isRunning)

/-- Takes note of an output of the controller. -/
def collect (a : Agent) : Controller.Output → Agent
  | .order o => a.order o
  | .payload m => { a with desk? := a.desk?.map fun d => { d with payloads := m :: d.payloads } }
  | .record _ => a
  | .status status => { a with desk? := a.desk?.map fun d => { d with status } }
  | .note _ => a

/-- The notes among the outputs of a controller. -/
def notes (outputs : List Controller.Output) : List Note :=
  outputs.filterMap fun
    | .note n => some n
    | _ => none

/-- A turn of the controller, if there is anything for it to take. -/
def deskTurn? (a : Agent) (clock : Clock) (now : Nat) : Option (Agent × List Note) :=
  match a.desk? with
  | none => none
  | some d =>
    let next := a.signals.pop?
    match d.nextInput? clock now (next.map Prod.fst) a.station.isRunning with
    | none => none
    | some (input, d, early) =>
      let signals := match input, next with
        | .signal _, some (_, rest) => rest
        | _, _ => a.signals
      let (d, outputs) := d.turn now input a.station.isRunning
      let a := outputs.foldl collect { a with signals, desk? := some d }
      some (if d.isRunning then a else a.hangUp, notes (early ++ outputs))

end Agent

end FlightLink
