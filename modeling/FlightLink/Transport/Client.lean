import FlightLink.Clock
import FlightLink.Transport.Link

/-!
# Clients

A client connects when it is ordered to, and answers each such order once: it is connected, or it
is not.  While it looks for a connection it takes neither orders nor reports.  It tries the
addresses of its remote host one after another, and gives each ten seconds to answer.

`Client.take?` is the whole of a client's behaviour.  How names are resolved and how attempts to
connect turn out is part of its input.
-/

namespace FlightLink.Transport

/-- How long an attempt to connect may take. -/
def connectTimeout : Nat := Clock.seconds 10

/-- How many bytes a client reads at once. -/
def clientReadLimit : Nat := 1024

/-- What a client is doing. -/
inductive Client.Phase where
  /-- It takes reports and orders. -/
  | serving
  /-- It looks up the addresses of its remote host. -/
  | resolving
  /-- It asks `target` for a connection; the addresses in `rest` come next. -/
  | dialing (target : SocketAddress) (rest : List SocketAddress)
  /-- It waits for the answer of `target` until the deadline. -/
  | waiting (target : SocketAddress) (rest : List SocketAddress) (deadline : Nat)
  | stopped
  deriving DecidableEq

/-- A client, with the address and the port of its remote host. -/
structure Client where
  address : String
  port : Port
  link : Link
  phase : Client.Phase

namespace Client

/-- What a client takes in. -/
inductive Input where
  /-- The next report of a session. -/
  | report
  | order (o : Order)
  /-- No further orders will come. -/
  | ordersClosed
  | resolved (answer : Except Network.Problem (List IpAddress))
  | dialled (answer : Network.Dialled)
  /-- The deadline of an attempt has passed. -/
  | timedOut

/-- The client after a step, and the outputs of the step. -/
abbrev Result := Client × List Output

/-- A client that has just been started. -/
def ofRemote (address : String) (port : Port) : Client :=
  ⟨address, port, .idle, .serving⟩

/-- The remote host and its port. -/
def remote (c : Client) : String := s!"{c.address}:{c.port.text}"

/-- Changes the link. -/
def onLink (c : Client) (r : Link.Result) : Result :=
  ({ c with link := r.1 }, r.2)

/-- Gives up looking for a connection. -/
def giveUp (c : Client) (text : String) : Result :=
  let (c, outputs) := { c with phase := .serving }.onLink (c.link.complain text)
  (c, outputs ++ [.signal (.connected false)])

/-- Tries the next address; `text` says why the client gives up if there is none. -/
def attempt (c : Client) (text : String) : List SocketAddress → Result
  | [] => c.giveUp text
  | target :: rest =>
    ({ c with phase := .dialing target rest },
      [.note ⟨.debug, .client, s!"connecting to {target.text}"⟩])

/-- Carries out an order. -/
def obey (c : Client) : Order → Result
  | .send p => c.onLink (c.link.send p)
  | .reconnect => { c with phase := .resolving }.onLink c.link.dropSession
  | .disconnect | .halt => c.onLink (c.link.close, [])
  | .reconfigure (.connect address port) =>
    let c := { c with address, port }
    let (c, outputs) := c.onLink c.link.dropSession
    (c, .log .info s!"remote changed to {c.remote}" :: outputs)
  | .reconfigure (.listen ..) => c.onLink (c.link.complain "a client cannot listen")

/-- Goes on with the addresses of the remote host. -/
def takeAddresses (c : Client) : Except Network.Problem (List IpAddress) → Result
  | .error p => c.giveUp s!"cannot resolve {c.remote}: {p.message}"
  | .ok ips => c.attempt s!"no address for {c.remote}" (ips.map (⟨·, c.port⟩))

/-- Goes on with the answer to an attempt. -/
def takeAnswer (c : Client) (now : Nat) (target : SocketAddress) (rest : List SocketAddress) :
    Network.Dialled → Result
  | .connected s => { c with phase := .serving }.onLink (c.link.establish target s none)
  | .failed p => c.attempt s!"cannot connect to {target.text}: {p.message}" rest
  | .silence =>
    ({ c with phase := .waiting target rest (now + connectTimeout) }, [])

/-- Ends the run. -/
def stop (c : Client) : Client :=
  { c with phase := .stopped, link := c.link.abandon }

/-- A step of the client, if the input is one that it waits for. -/
def take? (c : Client) (now : Nat) : Input → Option Result
  | .report => if c.phase = .serving then c.link.takeReport?.map c.onLink else none
  | .order o => if c.phase = .serving then some (c.obey o) else none
  | .ordersClosed => if c.phase = .serving then some (c.stop, []) else none
  | .resolved answer => if c.phase = .resolving then some (c.takeAddresses answer) else none
  | .dialled answer =>
    match c.phase with
    | .dialing target rest => some (c.takeAnswer now target rest answer)
    | _ => none
  | .timedOut =>
    match c.phase with
    | .waiting target rest deadline =>
      if deadline ≤ now then
        some (c.attempt s!"connecting to {target.text} timed out: deadline has elapsed" rest)
      else none
    | _ => none

end Client

end FlightLink.Transport
