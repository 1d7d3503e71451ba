import FlightLink.Host

/-!
# Rehearsing a station

A station on a host of its own, with a script in the place of its controller and guests that do
what the script says.  After each step of the script the host comes to rest, and what the station
has signalled and what the guests have read since the last step is looked at.
-/

namespace FlightLink.Rehearsal

/-- What a guest has read since the last step, and how its connection has ended. -/
structure GuestReport where
  received : ByteArray
  fate? : Option Guest.Fate

/-- What a step of the script brought about. -/
structure TrafficReport where
  signals : List Transport.Signal
  guests : List GuestReport
  running : Bool

/-- The host with the station to be rehearsed as its only agent. -/
structure Traffic where
  host : Host

namespace Traffic

/-- A rehearsal of a station; `bound` gives a server a listener on the loopback address. -/
def ofConfig (config : Config) (hosts : List (String × List IpAddress)) (bound : Bool) :
    Traffic :=
  let network := Network.ofHosts hosts
  let (station, network) :=
    match Transport.Station.ofConfig config, bound with
    | .server s, true =>
      match network.bind ⟨.loopback, s.port⟩ false with
      | .ok (listener, network) =>
        (.server (.ofListening ⟨listener, s.port⟩ s.clientIp? s.retry), network)
      | .error _ => (.server s, network)
    | station, _ => (station, network)
  ⟨((Host.ofNetwork .standard network).install (.ofStation station)).settle⟩

/-- The steps of a script. -/
inductive Step where
  /-- Listen on all addresses.  A mute listener never answers; the connections of any other become
  guests. -/
  | listen (port : Port) (mute : Bool)
  | unlisten (port : Port)
  /-- Let a guest connect from an address. -/
  | dial (port : Port) (origin : IpAddress) (reading : Bool)
  /-- Tell a guest what to do. -/
  | tell (guest : Nat) (deed : Guest.Deed)
  /-- Make the next acceptance at a port fail. -/
  | failAccept (port : Port) (code : Nat)
  | order (o : Transport.Order)
  | closeOrders
  /-- Take no further signals. -/
  | closeSignals
  | advance (duration : Nat)

/-- Listens on all addresses. -/
def listen (h : Host) (port : Port) (mute : Bool) : Host :=
  match h.network.bind ⟨.unspecified, port⟩ mute with
  | .ok (listener, network) =>
    { h with network, doors := if mute then h.doors else h.doors ++ [listener] }
  | .error _ => h

/-- Stops listening at a port, as far as the script has started it. -/
def unlisten (h : Host) (port : Port) : Host :=
  let owned := h.network.listeners.filter fun l =>
    l.address.port == port && (l.mute || h.doors.contains l.id)
  { h with
    network := owned.foldl (fun net l => net.unbind l.id) h.network
    doors := h.doors.filter fun d => !owned.any (·.id == d) }

/-- Lets a guest connect; its port is named for its number. -/
def dial (h : Host) (port : Port) (origin : IpAddress) (reading : Bool) : Host :=
  let name := s!"p{h.guests.size}"
  let (answer, network) := h.network.dial ⟨origin, .service name⟩ ⟨.loopback, port⟩
  { h with network, guests := h.guests.push (.ofAnswer reading answer) }

/-- Tells a guest what to do, if it exists. -/
def tell? (h : Host) (n : Nat) (deed : Guest.Deed) : Option Host :=
  match h.guests[n]? with
  | none => none
  | some g =>
    let (g, network) := g.perform h.network deed
    some { h with network, guests := h.guests.modify n fun _ => g }

/-- Does a step without letting the host run. -/
def perform? (h : Host) : Step → Option Host
  | .listen port mute => some (listen h port mute)
  | .unlisten port => some (unlisten h port)
  | .dial port origin reading => some (dial h port origin reading)
  | .tell n deed => tell? h n deed
  | .failAccept port code => some { h with network := h.network.failAccept port code }
  | .order o => some (h.modifyAgent 0 (·.order o))
  | .closeOrders => some (h.modifyAgent 0 fun a => { a with ordersOpen := false })
  | .closeSignals =>
    some (h.modifyAgent 0 fun a => { a with signals := .empty, signalsOpen := false })
  | .advance duration => some { h with now := h.now + duration }

/-- Does steps one after another before anything else runs.  The tasks that a step makes ready are
queued behind those of the steps before. -/
def performAll? (h : Host) : List Step → Option Host
  | [] => some h
  | step :: rest =>
    match perform? h step with
    | none => none
    | some h => performAll? h.awaken rest

/-- Puts the bytes of consecutive receptions in front of the signals before them. -/
def withReceived (done : List Transport.Signal) (bytes : ByteArray) : List Transport.Signal :=
  if bytes.isEmpty then done else .received bytes :: done

/-- Joins the bytes of consecutive receptions; `done` has the signals so far, the last one first,
and `bytes` what has been received after them. -/
def joinReceivedOnto (done : List Transport.Signal) (bytes : ByteArray) :
    List Transport.Signal → List Transport.Signal
  | [] => (withReceived done bytes).reverse
  | .received more :: rest => joinReceivedOnto done (bytes ++ more) rest
  | s :: rest => joinReceivedOnto (s :: withReceived done bytes) .empty rest

/-- Signals with the bytes of consecutive receptions joined. -/
def joinReceived (signals : List Transport.Signal) : List Transport.Signal :=
  joinReceivedOnto [] .empty signals

/-- What happened since the last report. -/
def report (t : Traffic) : TrafficReport × Traffic :=
  let h := t.host
  let agent? := h.agents[0]?
  ({ signals := joinReceived (agent?.elim [] (·.signals.toList))
     guests := h.guests.toList.map fun g => ⟨g.received, g.fate?⟩
     running := agent?.any (·.station.isRunning) },
    ⟨{ h.modifyAgent 0 fun a => { a with signals := .empty } with
      guests := h.guests.map fun g => { g with received := .empty } }⟩)

/-- Does steps at one go, lets the host come to rest, and reports. -/
def steps? (t : Traffic) (steps : List Step) : Option (TrafficReport × Traffic) :=
  (performAll? t.host steps).map fun h => report ⟨h.settle⟩

end Traffic

end FlightLink.Rehearsal
