import FlightLink.Channel
import FlightLink.Fifo
import FlightLink.Packet.Framing
import FlightLink.Timer.Bank
import FlightLink.Transport.Exchange

/-!
# Controllers

A controller runs one channel.  It takes the signals of the transport, the expiries of the timers
and the commands of the application one at a time, hands each to the channel, and carries out the
actions that the channel asks for before it takes the next one.  What it does to its surroundings
comes out as a list of outputs.

An action may add further actions: a message that does not fit into a packet counts as not sent,
which can release messages held back.  `Controller.execute` therefore runs on an amount of effort
that is computed from the actions and the messages held.
-/

namespace FlightLink

/-- How the run of a controller came to its end. -/
inductive Ending where
  /-- The application has closed its command queue. -/
  | finished
  /-- The transport is gone. -/
  | transportStopped
  deriving DecidableEq, Repr

/-- The wording of a failure, if the run failed. -/
def Ending.failure? : Ending → Option String
  | finished => none
  | transportStopped => some "transport stopped"

/-- A channel with its timers, the actions that it has asked for, and the bytes received but not
yet cut into packets. -/
structure Controller where
  channel : Channel
  pending : Fifo Action
  timers : TimerBank
  received : List UInt8
  /-- Whether the transport no longer takes orders. -/
  transportGone : Bool
  ending? : Option Ending

namespace Controller

/-- What a controller does to its surroundings. -/
inductive Output where
  | order (o : Transport.Order)
  /-- A payload for the application. -/
  | payload (m : Message)
  /-- A record for the log queue of the application. -/
  | record (r : LogRecord)
  /-- The status that is published from now on. -/
  | status (s : Status)
  | note (n : Note)
  deriving DecidableEq

/-- What a controller takes in. -/
inductive Input where
  | start
  | signal (s : Transport.Signal)
  /-- The transport has closed its signal queue. -/
  | signalsClosed
  /-- A timer has expired, and its expiry counts. -/
  | expired (kind : TimerKind)
  | command (command : Command)
  /-- The application has closed its command queue. -/
  | commandsClosed
  /-- It is time to publish the status. -/
  | tick

/-- The controller after a step, and the outputs of the step. -/
abbrev Result := Controller × List Output

/-- A controller for a configuration. -/
def ofConfig (config : Config) : Controller where
  channel := .ofConfig config
  pending := .empty
  timers := .ofConfig config
  received := []
  transportGone := false
  ending? := none

/-- Queues the actions of a channel's step and writes its notes. -/
def absorb (c : Controller) (o : Channel.Outcome) : Result :=
  ({ c with channel := o.channel, pending := c.pending.append (Effect.actions o.effects) },
    (Effect.notes o.effects).map .note)

/-- Ends the run. -/
def finish (c : Controller) (ending : Ending) : Controller :=
  { c with ending? := some ending }

/-- Gives an order to the transport, which ends the run if the transport is gone. -/
def order (c : Controller) (o : Transport.Order) : Result :=
  if c.transportGone then (c.finish .transportStopped, []) else (c, [.order o])

/-- Carries out an action. -/
def perform (c : Controller) (now : Nat) : Action → Result
  | .send m after? =>
    match m.encode c.channel.config.charset with
    | .ok bytes => c.order (.send ⟨⟨bytes.toArray⟩, after?⟩)
    | .error fault =>
      c.absorb <|
        Channel.Outcome.andThen
          ⟨c.channel, [c.channel.logged .error s!"cannot send {m.describe}: {fault.message}"]⟩
          (·.unsent after?)
  | .restartTimer kind => ({ c with timers := c.timers.restart now kind }, [])
  | .stopTimer kind => ({ c with timers := c.timers.stop kind }, [])
  | .reconnect => c.order .reconnect
  | .disconnect => c.order .disconnect
  | .halt => c.order .halt
  | .reconfigure =>
    let config := c.channel.config
    let (c, outputs) :=
      { c with timers := c.timers.reconfigure config }.order (.reconfigure config.endpoint)
    if c.ending?.isSome then (c, outputs) else (c, outputs ++ [.status c.channel.status])
  | .deliver m => (c, [.payload m])
  | .log r => (c, [.note r.note, .record r])

/-- The effort that an action may take, further actions included. -/
def actionEffort : Action → Nat
  | .send .. => 4
  | _ => 1

/-- The effort that a held message may take once it is acted on. -/
def messageEffort : Nat := 16

/-- The effort that is enough to carry out all actions. -/
def effort (c : Controller) : Nat :=
  c.pending.toList.foldr (fun a n => actionEffort a + n) 0 +
    messageEffort * c.channel.held.size

/-- Carries out the next action. -/
def performNext? (c : Controller) (now : Nat) : Option Result :=
  if c.ending?.isSome then none
  else
    match c.pending.pop? with
    | none => none
    | some (a, rest) => some ({ c with pending := rest }.perform now a)

/-- Carries out actions while the effort lasts; `done` has the outputs so far, last one first. -/
def executeOnto (now : Nat) : Nat → List Output → Controller → Result
  | 0, done, c => (c, done.reverse)
  | effort + 1, done, c =>
    match c.performNext? now with
    | none => (c, done.reverse)
    | some (c, outputs) => executeOnto now effort (outputs.reverse ++ done) c

/-- Carries out all actions, those added on the way included. -/
def execute (c : Controller) (now : Nat) : Result :=
  executeOnto now c.effort [] c

/-- Hands the next cut of the received bytes to the channel. -/
def takeCut (c : Controller) : Framing.Cut → Result
  | .packet p => c.absorb (c.channel.receive (.ofPacket c.channel.config.charset p))
  | .invalidHeader header =>
    c.absorb ⟨c.channel, [c.channel.logged .error (Fault.invalidHeader header).message]⟩
  | .incomplete => (c, [])

/-- Hands cuts to the channel in their order; `done` has the outputs so far, last one first. -/
def takeCutsOnto (done : List Output) (c : Controller) : List Framing.Cut → Result
  | [] => (c, done.reverse)
  | cut :: cuts =>
    let (c, outputs) := c.takeCut cut
    takeCutsOnto (outputs.reverse ++ done) c cuts

/-- Takes a signal of the transport.  Bytes of another connection are never joined: the end or the
start of a connection forgets what has been received. -/
def takeSignal (c : Controller) : Transport.Signal → Result
  | .connected up => { c with received := [] }.absorb (c.channel.connectionChanged up)
  | .received bytes =>
    let (cuts, rest) := Framing.cutAll (c.received ++ bytes.data.toList)
    takeCutsOnto [] { c with received := rest } cuts
  | .sent e => c.absorb (c.channel.confirm e)
  | .unsent after? => c.absorb (c.channel.unsent after?)
  | .raised e => c.absorb (c.channel.raise e)
  | .log severity text => c.absorb ⟨c.channel, [c.channel.logged severity text]⟩

/-- Takes an input without carrying out the actions that it leads to. -/
def take (c : Controller) : Input → Result
  | .start => c.absorb c.channel.start
  | .signal s => c.takeSignal s
  | .signalsClosed => (c.finish .transportStopped, [])
  | .expired kind => c.absorb (c.channel.timerExpired kind)
  | .command command => c.absorb (c.channel.obey command)
  | .commandsClosed =>
    (c.finish .finished,
      [.note ⟨.info, .controller, s!"channel {c.channel.config.id}: command queue closed"⟩])
  | .tick => (c, [.status c.channel.status])

/-- Takes an input and carries out the actions that it leads to. -/
def turn (c : Controller) (now : Nat) (input : Input) : Result :=
  if c.ending?.isSome then (c, [])
  else
    let (c, outputs) := c.take input
    let (c, further) := c.execute now
    (c, outputs ++ further)

/-- The next expiry that counts, with the stale ones before it dropped. -/
def nextExpiry (c : Controller) : Option TimerKind × Result :=
  let e := c.timers.expired
  (e.kind?, ({ c with timers := e.bank }, e.notes.map .note))

end Controller

end FlightLink
