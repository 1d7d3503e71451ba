import FlightLink.Clock
import FlightLink.Transport.Link

/-!
# Servers

A server listens for the single client of its channel.  Once it has been ordered to connect, it
wants to listen: it tries to bind its port, again and again if that fails, and takes one client at
a time.  Other clients are turned away, and so are clients from another address than the required
one.

`Server.take?` is the whole of a server's behaviour.  How attempts to bind and to accept turn out is
part of its input.
-/

namespace FlightLink.Transport

/-- How many bytes a server reads at once. -/
def serverReadLimit : Nat := 8192

/-- The shortest delay between a failed attempt to bind and the next one. -/
def shortestRetry : Nat := Clock.seconds 1

/-- What a server is doing. -/
inductive Server.Phase where
  | serving
  | stopped
  /-- The time of the next attempt to bind was beyond what the clock covers. -/
  | crashed
  deriving DecidableEq, Repr

/-- A listener of the network with the port that it listens on. -/
structure Server.Listening where
  listener : Nat
  port : Port
  deriving DecidableEq, Repr

/-- A server. -/
structure Server where
  port : Port
  clientIp? : Option IpAddress
  /-- The delay between a failed attempt to bind and the next one. -/
  retry : Nat
  listening? : Option Server.Listening
  /-- Whether listening is wanted. -/
  wanted : Bool
  /-- When to try to bind. -/
  retryAt? : Option Nat
  link : Link
  phase : Server.Phase

namespace Server

/-- What a server takes in. -/
inductive Input where
  /-- The next report of a session. -/
  | report
  | order (o : Order)
  /-- No further orders will come. -/
  | ordersClosed
  | bound (answer : Except Network.Problem Nat)
  | accepted (answer : Except Network.Problem (Network.Socket × SocketAddress))

/-- The server after a step, and the outputs of the step. -/
abbrev Result := Server × List Output

/-- A server that has just been started. -/
def ofPort (port : Port) (clientIp? : Option IpAddress) (retry : Nat) : Server :=
  ⟨port, clientIp?, retry, none, false, none, .idle, .serving⟩

/-- A server that has been given a listener. -/
def ofListening (l : Listening) (clientIp? : Option IpAddress) (retry : Nat) : Server :=
  { ofPort l.port clientIp? retry with listening? := some l }

/-- Changes the link. -/
def onLink (s : Server) (r : Link.Result) : Result :=
  ({ s with link := r.1 }, r.2)

/-- Gives up the listener. -/
def unlisten (s : Server) : Result :=
  match s.listening? with
  | none => (s, [])
  | some l => ({ s with listening? := none }, [.unlisten l.listener])

/-- Wants to listen, at once unless there is a listener. -/
def want (s : Server) (now : Nat) : Server :=
  { s with wanted := true, retryAt? := if s.listening?.isNone then some now else none }

/-- Closes the session and stops listening. -/
def halt (s : Server) : Result :=
  let text := s!"stopped listening on port {s.port.text}"
  let told := if s.listening?.isSome then [Output.log .info text] else []
  let (s, outputs) := { s with link := s.link.close, wanted := false, retryAt? := none }.unlisten
  (s, outputs ++ told)

/-- Moves to another port, and listens there at once if listening is wanted. -/
def move (s : Server) (now : Nat) (port : Port) : Result :=
  if port = s.port then (s, [])
  else { s with port, retryAt? := if s.wanted then some now else none }.unlisten

/-- Carries out an order. -/
def obey (s : Server) (now : Nat) : Order → Result
  | .send p => s.onLink (s.link.send p)
  | .reconnect =>
    let (s, outputs) := s.onLink s.link.dropSession
    (s.want now, outputs)
  | .disconnect => s.onLink (s.link.close, [])
  | .halt => s.halt
  | .reconfigure (.listen port clientIp?) =>
    let (s, outputs) := s.onLink s.link.dropSession
    let (s, further) := { s with clientIp? }.move now port
    (s, outputs ++ further)
  | .reconfigure (.connect ..) => s.onLink (s.link.complain "a server cannot connect")

/-- Why a client is turned away, if it is. -/
def rejection? (s : Server) (peer : SocketAddress) : Option String :=
  match s.clientIp?.filter (· != peer.ip) with
  | some ip => some s!"rejecting {peer.text}, only {ip.text} may connect"
  | none =>
    if s.link.isConnected then some s!"rejecting {peer.text}, a client is already connected"
    else none

/-- Takes a client or turns it away. -/
def takeClient (s : Server) :
    Except Network.Problem (Network.Socket × SocketAddress) → Result
  | .error p => s.onLink (s.link.complain s!"accept failed: {p.message}")
  | .ok (socket, peer) =>
    match s.rejection? peer with
    | some text => (s, [.log .warning text, .close socket])
    | none => s.onLink (s.link.establish peer socket (some .remoteSetup))

/-- Ends the run. -/
def finish (s : Server) (phase : Phase) : Result :=
  { s with phase, link := s.link.abandon, retryAt? := none }.unlisten

/-- Goes on with the answer to an attempt to bind. -/
def takeBinding (s : Server) (clock : Clock) (now : Nat) : Except Network.Problem Nat → Result
  | .ok listener =>
    ({ s with listening? := some ⟨listener, s.port⟩, retryAt? := none },
      [.log .info s!"listening on port {s.port.text}"])
  | .error p =>
    let (s, outputs) :=
      s.onLink (s.link.complain s!"cannot listen on port {s.port.text}: {p.message}")
    match clock.add? now s.retry with
    | some t => ({ s with retryAt? := some t }, outputs)
    | none =>
      let (s, further) := s.finish .crashed
      (s, outputs ++ further)

/-- Whether it is time to try to bind. -/
def isDue (s : Server) (now : Nat) : Bool :=
  match s.retryAt? with
  | none => false
  | some t => t ≤ now

/-- A step of the server, if the input is one that it waits for. -/
def take? (s : Server) (clock : Clock) (now : Nat) (input : Input) : Option Result :=
  if s.phase = .serving then
    match input with
    | .report => s.link.takeReport?.map s.onLink
    | .order o => some (s.obey now o)
    | .ordersClosed => some (s.finish .stopped)
    | .bound answer => if s.isDue now then some (s.takeBinding clock now answer) else none
    | .accepted answer =>
      if s.wanted && s.listening?.isSome then some (s.takeClient answer) else none
  else none

end Server

end FlightLink.Transport
