import FlightLink.Transport.Client
import FlightLink.Transport.Server

/-!
# Stations

A station is the transport of a channel: a client or a server, as the channel's role demands.
-/

namespace FlightLink.Transport

/-- The transport of a channel. -/
inductive Station where
  | client (c : Client)
  | server (s : Server)

namespace Station

/-- The station after a step, and the outputs of the step. -/
abbrev Result := Station × List Output

/-- The delay between attempts to bind. -/
def retry (config : Config) : Nat :=
  max (Clock.seconds config.reconnectTimeout) shortestRetry

/-- The station that a configuration asks for. -/
def ofConfig (config : Config) : Station :=
  match config.endpoint with
  | .connect address port => .client (.ofRemote address port)
  | .listen port clientIp? => .server (.ofPort port clientIp? (retry config))

/-- The link of the station. -/
def link : Station → Link
  | client c => c.link
  | server s => s.link

/-- Changes the link. -/
def onLink (r : Link.Result) : Station → Result
  | client c => (client { c with link := r.1 }, r.2)
  | server s => (server { s with link := r.1 }, r.2)

/-- How many bytes its sessions read at once. -/
def readLimit : Station → Nat
  | client _ => clientReadLimit
  | server _ => serverReadLimit

/-- Whether the station takes orders, now or later. -/
def isRunning : Station → Bool
  | client c => c.phase != .stopped
  | server s => s.phase == .serving

/-- The local port of a station that listens. -/
def serverPort? : Station → Option Port
  | client _ => none
  | server s => some s.port

/-- A move of one of its sessions. -/
def move? (s : Station) (id : Nat) (m : Session.Move) : Option Result :=
  (s.link.move? id m).map s.onLink

end Station

end FlightLink.Transport
