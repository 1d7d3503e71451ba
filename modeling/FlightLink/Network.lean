import FlightLink.Network.Address
import FlightLink.Network.Pipe

/-!
# A network in memory

The network knows the listeners and the connections of one host, and the names of a table of
hosts.  All that is done to it is done at once; only the holders of the two ends of a connection
may have to wait for each other.

The addresses of the host are those of `127.0.0.0/8`, the unspecified IPv4 address, and the IPv6
loopback address.  A listener on the unspecified address takes connections to every IPv4 address.
-/

namespace FlightLink.Network

/-- The two ends of a connection. -/
inductive Side where
  | dialer
  | acceptor
  deriving DecidableEq, Repr

/-- The end opposite to an end. -/
def Side.other : Side → Side
  | dialer => acceptor
  | acceptor => dialer

/-- One end of a connection. -/
structure Socket where
  connection : Nat
  side : Side
  deriving DecidableEq, Repr

/-- What the network keeps for one end of a connection. -/
structure Terminal where
  /-- The bytes on their way to this end. -/
  incoming : Pipe
  /-- Whether this end has been closed. -/
  closed : Bool
  /-- Whether writing to this end fails. -/
  broken : Bool

/-- A connection. -/
structure Connection where
  dialer : Terminal
  acceptor : Terminal
  /-- The address from which the connection has been made. -/
  origin : SocketAddress

namespace Connection

/-- The terminal of an end. -/
def get (c : Connection) : Side → Terminal
  | .dialer => c.dialer
  | .acceptor => c.acceptor

/-- Changes the terminal of an end. -/
def modify (c : Connection) (side : Side) (f : Terminal → Terminal) : Connection :=
  match side with
  | .dialer => { c with dialer := f c.dialer }
  | .acceptor => { c with acceptor := f c.acceptor }

end Connection

/-- A listener.  Connections wait in its backlog until they are accepted; failures come first. -/
structure Listener where
  id : Nat
  address : SocketAddress
  /-- Whether attempts to connect get no answer. -/
  mute : Bool
  backlog : List Nat
  failures : List Nat
  deriving DecidableEq, Repr

/-- Why a request to the network fails. -/
inductive Problem where
  | addressInUse
  | addressNotAvailable
  | connectionRefused
  | connectionReset
  | brokenPipe
  | tooManyOpenFiles
  | connectionAborted
  | nameUnknown
  | nameWithNul
  /-- Any other error of the operating system, by its number. -/
  | system (code : Nat)
  deriving DecidableEq, Repr

/-- The wording of a problem. -/
def Problem.message : Problem → String
  | addressInUse => "Address already in use (os error 98)"
  | addressNotAvailable => "Cannot assign requested address (os error 99)"
  | connectionRefused => "Connection refused (os error 111)"
  | connectionReset => "Connection reset by peer (os error 104)"
  | brokenPipe => "Broken pipe (os error 32)"
  | tooManyOpenFiles => "Too many open files (os error 24)"
  | connectionAborted => "Software caused connection abort (os error 103)"
  | nameUnknown => "failed to lookup address information: Name or service not known"
  | nameWithNul => "file name contained an unexpected NUL byte"
  | system code => s!"Unknown error {code} (os error {code})"

/-- The problem of a number of the operating system. -/
def Problem.ofCode (code : Nat) : Problem :=
  if code = 24 then tooManyOpenFiles
  else if code = 103 then connectionAborted
  else if code = 104 then connectionReset
  else if code = 32 then brokenPipe
  else if code = 98 then addressInUse
  else if code = 99 then addressNotAvailable
  else if code = 111 then connectionRefused
  else system code

end FlightLink.Network

namespace FlightLink

/-- The listeners, connections and names of a host. -/
structure Network where
  listeners : List Network.Listener
  opened : Nat
  connections : Array Network.Connection
  hosts : List (String × List IpAddress)

namespace Network

/-- A network where nobody listens. -/
def ofHosts (hosts : List (String × List IpAddress)) : Network := ⟨[], 0, #[], hosts⟩

/-- The addresses of a name.  An address is its own name. -/
def resolve (net : Network) (name : String) : Except Problem (List IpAddress) :=
  match IpAddress.parse? name with
  | some ip => .ok [ip]
  | none =>
    if name.toList.contains '\x00' then .error .nameWithNul
    else
      match net.hosts.find? (·.1 == name) with
      | some (_, ips) => .ok ips
      | none => .error .nameUnknown

/-! ## Listening -/

/-- The IPv6 loopback address. -/
def loopback6 : IpAddress := .v6 ⟨#[0, 0, 0, 0, 0, 0, 0, 1], rfl⟩

/-- Whether an address belongs to this host. -/
def isLocal : IpAddress → Bool
  | .v4 a b c d => a == 127 || (a == 0 && b == 0 && c == 0 && d == 0)
  | ip => ip == loopback6

/-- Whether two listeners cannot exist side by side. -/
def conflicts (a b : SocketAddress) : Bool :=
  a.port == b.port &&
    (a.ip == b.ip || (a.ip.isV4 && b.ip.isV4 && (a.ip == .unspecified || b.ip == .unspecified)))

/-- Listens on an address. -/
def bind (net : Network) (address : SocketAddress) (mute : Bool) : Except Problem (Nat × Network) :=
  if !isLocal address.ip then .error .addressNotAvailable
  else if net.listeners.any (conflicts ·.address address) then .error .addressInUse
  else
    .ok (net.opened,
      { net with
        listeners := net.listeners ++ [⟨net.opened, address, mute, [], []⟩]
        opened := net.opened + 1 })

/-- The listener with a number. -/
def listener? (net : Network) (id : Nat) : Option Listener :=
  net.listeners.find? (·.id == id)

/-- The listener that takes connections to an address. -/
def listenerAt? (net : Network) (address : SocketAddress) : Option Listener :=
  net.listeners.find? fun l =>
    l.address.port == address.port &&
      (l.address.ip == address.ip || (l.address.ip == .unspecified && address.ip.isV4))

/-- Changes the listener with a number. -/
def modifyListener (net : Network) (id : Nat) (f : Listener → Listener) : Network :=
  { net with listeners := net.listeners.map fun l => if l.id == id then f l else l }

/-- Changes the terminal of a socket. -/
def modify (net : Network) (s : Socket) (f : Terminal → Terminal) : Network :=
  { net with connections := net.connections.modify s.connection (·.modify s.side f) }

/-- The terminal of a socket. -/
def terminal? (net : Network) (s : Socket) : Option Terminal :=
  net.connections[s.connection]?.map (·.get s.side)

/-- The socket at the other end. -/
def opposite (s : Socket) : Socket := ⟨s.connection, s.side.other⟩

/-- Resets the connection of a socket as the other end sees it, and closes this end. -/
def abort (net : Network) (s : Socket) : Network :=
  (net.modify (opposite s) fun t => { t with incoming := t.incoming.finish .reset }).modify s
    fun t => { t with closed := true }

/-- Stops listening.  Connections that nobody has accepted are reset. -/
def unbind (net : Network) (id : Nat) : Network :=
  match net.listener? id with
  | none => net
  | some l =>
    l.backlog.foldl (fun net c => net.abort ⟨c, .acceptor⟩)
      { net with listeners := net.listeners.filter (·.id != id) }

/-! ## Connecting -/

/-- The answer to an attempt to connect. -/
inductive Dialled where
  | connected (s : Socket)
  | failed (p : Problem)
  /-- There is no answer. -/
  | silence
  deriving DecidableEq, Repr

/-- A terminal of a new connection. -/
def freshTerminal : Terminal := ⟨.empty, false, false⟩

/-- Connects to an address. -/
def dial (net : Network) (origin target : SocketAddress) : Dialled × Network :=
  match net.listenerAt? target with
  | none => (.failed .connectionRefused, net)
  | some l =>
    if l.mute then (.silence, net)
    else
      let c := net.connections.size
      let net := { net with
        connections := net.connections.push ⟨freshTerminal, freshTerminal, origin⟩ }
      (.connected ⟨c, .dialer⟩, net.modifyListener l.id fun l => { l with backlog := l.backlog ++ [c] })

/-- Whether a listener has something to accept. -/
def canAccept (net : Network) (id : Nat) : Bool :=
  match net.listener? id with
  | none => false
  | some l => !l.backlog.isEmpty || !l.failures.isEmpty

/-- Accepts the next connection of a listener, if there is one; a failure comes first. -/
def accept? (net : Network) (id : Nat) :
    Option (Except Problem (Socket × SocketAddress) × Network) :=
  match net.listener? id with
  | none => none
  | some l =>
    match l.failures, l.backlog with
    | code :: rest, _ =>
      some (.error (.ofCode code), net.modifyListener id fun l => { l with failures := rest })
    | [], c :: rest =>
      (net.connections[c]?).map fun connection =>
        (.ok (⟨c, .acceptor⟩, connection.origin),
          net.modifyListener id fun l => { l with backlog := rest })
    | [], [] => none

/-- Makes the next acceptance of a listener at a port fail. -/
def failAccept (net : Network) (port : Port) (code : Nat) : Network :=
  { net with
    listeners := net.listeners.map fun l =>
      if l.address.port == port then { l with failures := l.failures ++ [code] } else l }

/-! ## Reading and writing -/

/-- The answer to an attempt to read. -/
inductive Reading where
  | data (bytes : ByteArray)
  | ended
  | failed (p : Problem)
  /-- Nothing has arrived. -/
  | silence

/-- Whether reading from a socket is answered at once. -/
def isReadable (net : Network) (s : Socket) : Bool :=
  match net.terminal? s with
  | none => false
  | some t => t.incoming.isReadable

/-- Reads from a socket.  What was sent before an end or a reset is read first. -/
def read (net : Network) (s : Socket) (limit : Nat) : Reading × Network :=
  match net.terminal? s with
  | none => (.silence, net)
  | some t =>
    if 0 < t.incoming.pending then
      (.data (t.incoming.read limit).1,
        net.modify s fun t => { t with incoming := (t.incoming.read limit).2 })
    else
      match t.incoming.tail? with
      | some .ended => (.ended, net)
      | some .reset => (.failed .connectionReset, net)
      | none => (.silence, net)

/-- The answer to an attempt to write. -/
inductive Writing where
  | written (count : Nat)
  | failed (p : Problem)
  /-- There is no room. -/
  | silence
  deriving DecidableEq, Repr

/-- The answer that a write to a socket would get, given how many bytes are to be written. -/
def writing (net : Network) (s : Socket) (size : Nat) : Writing :=
  match net.terminal? s, net.terminal? (opposite s) with
  | some own, some peer =>
    if size = 0 then .written 0
    else if peer.broken then .failed .brokenPipe
    else if own.incoming.tail? = some .reset then .failed .connectionReset
    else if peer.closed then .failed .brokenPipe
    else if peer.incoming.room = 0 then .silence
    else .written (min peer.incoming.room size)
  | _, _ => .failed .brokenPipe

/-- Whether writing to a socket is answered at once. -/
def isWritable (net : Network) (s : Socket) (size : Nat) : Bool :=
  net.writing s size != .silence

/-- Writes the part of `bytes` from `start` on, as far as there is room. -/
def write (net : Network) (s : Socket) (bytes : ByteArray) (start : Nat) : Writing × Network :=
  match net.writing s (bytes.size - start) with
  | .written count =>
    (.written count,
      net.modify (opposite s) fun t => { t with incoming := (t.incoming.write bytes start).2 })
  | answer => (answer, net)

/-- Ends the stream that leaves a socket. -/
def finish (net : Network) (s : Socket) : Network :=
  net.modify (opposite s) fun t => { t with incoming := t.incoming.finish .ended }

/-- Closes a socket, which resets the connection if bytes wait to be read here. -/
def close (net : Network) (s : Socket) : Network :=
  match net.terminal? s with
  | none => net
  | some t =>
    if 0 < t.incoming.pending then net.abort s
    else (net.finish s).modify s fun t => { t with closed := true }

/-- Makes writing to a socket's own end fail from now on. -/
def breakOff (net : Network) (s : Socket) : Network :=
  net.modify s fun t => { t with broken := true }

end Network

end FlightLink
