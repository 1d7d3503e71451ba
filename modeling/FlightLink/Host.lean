import FlightLink.Host.Agent
import FlightLink.Host.Guest

/-!
# Hosts

A host has a clock, a network, and a number of tasks that share one processor: the controllers and
stations of its agents, the two halves of their sessions, guests, and listeners that take every
connection as a new guest.  A task that can do something is ready.  Ready tasks run in the order in
which they became ready, each until there is nothing left that it could do; when no task is ready,
the host has come to rest.

`Host.turn?` is the smallest step of a task.
-/

namespace FlightLink

/-- The tasks of a host, by the numbers of agents, sessions, listeners and guests. -/
inductive Task where
  | desk (agent : Nat)
  | reader (agent session : Nat)
  | writer (agent session : Nat)
  | station (agent : Nat)
  /-- Takes the connections of a listener as guests. -/
  | doorkeeper (listener : Nat)
  | guest (n : Nat)
  deriving DecidableEq, Repr

/-- A host. -/
structure Host where
  clock : Clock
  now : Nat
  network : Network
  agents : Array Agent
  guests : Array Guest
  /-- The listeners with a doorkeeper. -/
  doors : List Nat
  /-- The notes that have been written, the latest first. -/
  notes : List Note
  /-- The tasks that are ready, the next one first. -/
  ready : List Task

namespace Host

/-- A host with nothing but a network. -/
def ofNetwork (clock : Clock) (network : Network) : Host :=
  ⟨clock, 0, network, #[], #[], [], [], []⟩

/-- Brings a further agent to the host. -/
def install (h : Host) (a : Agent) : Host :=
  { h with agents := h.agents.push a }

/-- Changes an agent. -/
def modifyAgent (h : Host) (i : Nat) (f : Agent → Agent) : Host :=
  { h with agents := h.agents.modify i f }

/-! ## Stations and sessions -/

/-- Carries out an output of the station of an agent. -/
def carryOut (h : Host) (i : Nat) : Transport.Output → Host
  | .signal s => h.modifyAgent i (·.signal s)
  | .note n => { h with notes := n :: h.notes }
  | .finish s => { h with network := h.network.finish s }
  | .close s => { h with network := h.network.close s }
  | .unlisten listener => { h with network := h.network.unbind listener }

/-- Puts the result of a step of a station into effect. -/
def settleStation (h : Host) (i : Nat) (r : Transport.Station.Result) : Host :=
  r.2.foldl (carryOut · i) (h.modifyAgent i fun a => { a with station := r.1 })

/-- The address from which a target is reached. -/
def originOf (h : Host) (target : SocketAddress) : SocketAddress :=
  ⟨if target.ip.isV4 then .loopback else Network.loopback6, .number (49152 + h.network.connections.size)⟩

/-- The next order of an agent, or the end of its orders, and the agent without it. -/
def nextOrder? (a : Agent) : Option (Option Transport.Order × Agent) :=
  match a.orders.pop? with
  | some (o, rest) => some (some o, { a with orders := rest })
  | none => if a.ordersOpen then none else some (none, a)

/-- The next input of a client, and the agent and the network after it has been taken. -/
def clientInput? (h : Host) (a : Agent) (c : Transport.Client) :
    Option (Transport.Client.Input × Agent × Network) :=
  match c.phase with
  | .serving =>
    if !c.link.reports.isEmpty then some (.report, a, h.network)
    else (nextOrder? a).map fun (o?, a) => (o?.elim .ordersClosed .order, a, h.network)
  | .resolving => some (.resolved (h.network.resolve c.address), a, h.network)
  | .dialing target _ =>
    let (answer, network) := h.network.dial (h.originOf target) target
    some (.dialled answer, a, network)
  | .waiting _ _ deadline => if deadline ≤ h.now then some (.timedOut, a, h.network) else none
  | .stopped => none

/-- The outcome of an attempt to bind a port on all addresses. -/
def bindPort (h : Host) (port : Port) : Except Network.Problem Nat × Network :=
  match h.network.bind ⟨.unspecified, port⟩ false with
  | .ok (listener, network) => (.ok listener, network)
  | .error p => (.error p, h.network)

/-- A connection that a server can accept, if it wants to. -/
def acceptFor? (h : Host) (s : Transport.Server) :
    Option (Except Network.Problem (Network.Socket × SocketAddress) × Network) :=
  match s.listening? with
  | some l => if s.wanted then h.network.accept? l.listener else none
  | none => none

/-- The next input of a server, and the agent and the network after it has been taken. -/
def serverInput? (h : Host) (a : Agent) (s : Transport.Server) :
    Option (Transport.Server.Input × Agent × Network) :=
  if s.phase = .serving then
    if !s.link.reports.isEmpty then some (.report, a, h.network)
    else
      match nextOrder? a with
      | some (o?, a) => some (o?.elim .ordersClosed .order, a, h.network)
      | none =>
        if s.isDue h.now then
          let (answer, network) := h.bindPort s.port
          some (.bound answer, a, network)
        else (h.acceptFor? s).map fun (answer, network) => (.accepted answer, a, network)
  else none

/-- A step of the station of an agent. -/
def stationTurn? (h : Host) (i : Nat) : Option Host := do
  let a ← h.agents[i]?
  match a.station with
  | .client c =>
    let (input, a, network) ← h.clientInput? a c
    let (c, outputs) ← c.take? h.now input
    return { h.modifyAgent i fun _ => a with network }.settleStation i (.client c, outputs)
  | .server s =>
    let (input, a, network) ← h.serverInput? a s
    let (s, outputs) ← s.take? h.clock h.now input
    return { h.modifyAgent i fun _ => a with network }.settleStation i (.server s, outputs)

/-- What the reading half of a session does next, and the network afterwards.  A half that has been
told to stop does so. -/
def readerMove? (h : Host) (limit : Nat) (s : Transport.Session) :
    Option (Transport.Session.Move × Network) :=
  if !s.reading then none
  else if s.cancelled then some (.stopReading, h.network)
  else
    match h.network.read s.socket limit with
    | (.data bytes, network) => some (.receive bytes, network)
    | (.ended, network) => some (.reachEnd, network)
    | (.failed p, network) => some (.failReading p.message, network)
    | (.silence, _) => none

/-- What the writing half of a session does next, and the network afterwards.  A half that has been
told to stop does so. -/
def writerMove? (h : Host) (s : Transport.Session) :
    Option (Transport.Session.Move × Network) :=
  if !s.isWriting then none
  else if s.cancelled then some (.stopWriting, h.network)
  else
    match s.writer with
    | .waiting => if s.requests.isEmpty then none else some (.takeRequest, h.network)
    | .writing p written =>
      match h.network.write s.socket p.bytes written with
      | (.written count, network) => some (.write count, network)
      | (.failed p, network) => some (.failWriting p.message, network)
      | (.silence, _) => none
    | .done => none

/-- A step of a session of an agent. -/
def sessionTurn? (h : Host) (i id : Nat)
    (next? : Transport.Station → Transport.Session → Option (Transport.Session.Move × Network)) :
    Option Host := do
  let a ← h.agents[i]?
  let s ← a.station.link.find? id
  let (m, network) ← next? a.station s
  let result ← a.station.move? id m
  return { h with network }.settleStation i result

/-! ## Tasks -/

/-- A step of the controller of an agent. -/
def deskTurn? (h : Host) (i : Nat) : Option Host := do
  let a ← h.agents[i]?
  let (a, notes) ← a.deskTurn? h.clock h.now
  return { h.modifyAgent i fun _ => a with notes := notes.reverse ++ h.notes }

/-- Takes the next connection of a listener as a guest. -/
def doorTurn? (h : Host) (listener : Nat) : Option Host := do
  let (answer, network) ← h.network.accept? listener
  match answer with
  | .ok (socket, _) => return { h with network, guests := h.guests.push (.ofSocket socket true) }
  | .error _ => return { h with network }

/-- A step of a guest. -/
def guestTurn? (h : Host) (n : Nat) : Option Host := do
  let g ← h.guests[n]?
  let (g, network) ← g.turn? h.network
  return { h with network, guests := h.guests.modify n fun _ => g }

/-- The smallest step of a task, if there is anything that it can do. -/
def turn? (h : Host) : Task → Option Host
  | .desk i => h.deskTurn? i
  | .reader i id => h.sessionTurn? i id fun station s => h.readerMove? station.readLimit s
  | .writer i id => h.sessionTurn? i id fun _ s => h.writerMove? s
  | .station i => h.stationTurn? i
  | .doorkeeper listener => h.doorTurn? listener
  | .guest n => h.guestTurn? n

/-- Whether there is anything that a task can do. -/
def isReady (h : Host) (t : Task) : Bool := (h.turn? t).isSome

/-- The tasks of an agent. -/
def agentTasks (i : Nat) (a : Agent) : List Task :=
  .desk i :: a.station.link.sessions.flatMap (fun s => [.reader i s.id, .writer i s.id]) ++
    [.station i]

/-- All tasks. -/
def tasks (h : Host) : List Task :=
  (h.agents.toList.zipIdx.flatMap fun (a, i) => agentTasks i a) ++ h.doors.map .doorkeeper ++
    (List.range h.guests.size).map .guest

/-- Queues the tasks that have become ready. -/
def awaken (h : Host) : Host :=
  { h with ready := h.ready ++ h.tasks.filter fun t => !h.ready.contains t && h.isReady t }

/-- More steps than a host ever takes at one instant. -/
def patience : Nat := Nat.pow 2 40

/-- Runs a task until it has to wait. -/
def run (t : Task) : (fuel : Nat) → Host → Host
  | 0, h => h
  | fuel + 1, h =>
    match h.turn? t with
    | none => h
    | some h => run t fuel h

/-- Runs the ready tasks until there are none. -/
def settleWith : (fuel : Nat) → Host → Host
  | 0, h => h
  | fuel + 1, h =>
    match h.ready with
    | [] => h
    | t :: rest => settleWith fuel (run t patience { h with ready := rest }).awaken

/-- Lets the host come to rest. -/
def settle (h : Host) : Host := settleWith patience h.awaken

/-- Moves the clock at one go. -/
def advance (h : Host) (duration : Nat) : Host :=
  { h with now := h.now + duration }.awaken

/-! ## The next instant -/

/-- When a station goes on by itself. -/
def stationDeadline? : Transport.Station → Option Nat
  | .client c =>
    match c.phase with
    | .waiting _ _ deadline => some deadline
    | _ => none
  | .server s => s.retryAt?

/-- When a controller goes on by itself. -/
def deskDeadlines (clock : Clock) (d : Desk) : List Nat :=
  if d.isRunning then d.nextTick :: (d.controller.timers.nextDeadline? clock).toList else []

/-- The next time at which an agent goes on by itself. -/
def nextDeadline? (h : Host) : Option Nat :=
  (h.agents.toList.flatMap fun a =>
    (stationDeadline? a.station).toList ++ a.desk?.elim [] (deskDeadlines h.clock)).min?

/-- Moves the clock to the next time at which something happens. -/
def advanceToNext? (h : Host) : Option Host :=
  h.nextDeadline?.map fun t => { h with now := max h.now t }.settle

end Host

end FlightLink
