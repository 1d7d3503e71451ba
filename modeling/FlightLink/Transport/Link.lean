import FlightLink.Transport.Session

/-!
# Links

A link owns at most one session and tells the controller about its life: it is connected while the
session exists, and all that is received or confirmed in between stems from that session.  Sessions
that have been dropped fade away on their own; what they still report is not passed on.

A link remembers the last error that it has logged, and does not log it again before a connection
has been made in between.
-/

namespace FlightLink.Transport

/-- What a transport does to its surroundings. -/
inductive Output where
  | signal (s : Signal)
  | note (n : Note)
  /-- End the stream that leaves a socket. -/
  | finish (s : Network.Socket)
  /-- Close a socket. -/
  | close (s : Network.Socket)
  /-- Stop listening. -/
  | unlisten (listener : Nat)
  deriving DecidableEq

/-- Tells the controller to log a text. -/
def Output.log (severity : Severity) (text : String) : Output :=
  .signal (.log severity text)

/-- A link; sessions are numbered, and `opened` of them have been opened so far. -/
structure Link where
  session? : Option Session
  /-- Dropped sessions with a half that has not come to its end. -/
  fading : List Session
  opened : Nat
  reports : Fifo (Nat × Report)
  lastError? : Option String

namespace Link

/-- The link after a step, and the outputs of the step. -/
abbrev Result := Link × List Output

/-- A link that has never been connected. -/
def idle : Link := ⟨none, [], 0, .empty, none⟩

/-- Whether a session exists. -/
def isConnected (l : Link) : Bool := l.session?.isSome

/-- All sessions with a half at work. -/
def sessions (l : Link) : List Session := l.session?.toList ++ l.fading

/-- The session with a number. -/
def find? (l : Link) (id : Nat) : Option Session := l.sessions.find? (·.id == id)

/-- The sessions that fade once a further one is dropped. -/
def fade (l : Link) (s : Session) : List Session :=
  if s.isOver then l.fading else l.fading ++ [s.dismiss]

/-- Drops the session at once. -/
def dropSession (l : Link) : Result :=
  match l.session? with
  | none => (l, [])
  | some s =>
    ({ l with session? := none, fading := l.fade s },
      [.log .info s!"disconnected from {s.peer.text}", .signal (.connected false)])

/-- Opens a session on a new connection in the place of the current one. -/
def establish (l : Link) (peer : SocketAddress) (socket : Network.Socket)
    (raised? : Option Event) : Result :=
  let (l, outputs) := l.dropSession
  let id := l.opened + 1
  ({ l with session? := some (.ofConnection id peer socket), opened := id, lastError? := none },
    outputs ++ [.log .info s!"connected to {peer.text}", .signal (.connected true)] ++
      raised?.toList.map fun e => .signal (.raised e))

/-- What is told about a packet that cannot be sent. -/
def refusal (p : Parcel) : List Output :=
  [.log .warning "no connection, packet dropped", .signal (.unsent p.after?)]

/-- Hands a packet to the session. -/
def send (l : Link) (p : Parcel) : Result :=
  match l.session? with
  | none => (l, refusal p)
  | some s =>
    if s.isWriting then ({ l with session? := some (s.request (.packet p)) }, [])
    else (l, refusal p)

/-- Closes the session once the packets handed to it are written. -/
def close (l : Link) : Link :=
  match l.session? with
  | none => l
  | some s => { l with session? := some (if s.isWriting then s.request .close else s.cancel) }

/-- Passes on a report of the current session. -/
def pass (l : Link) (id : Nat) (r : Report) : Result :=
  if l.session?.any (·.id == id) then
    match r with
    | .received bytes => (l, [.signal (.received bytes)])
    | .sent e => (l, [.signal (.sent e)])
    | .unsent after? => (l, [.signal (.unsent after?)])
    | .ended reason? =>
      let (l, outputs) := l.dropSession
      (l, reason?.toList.map (.log .warning) ++ outputs)
  else (l, [])

/-- Takes the next report. -/
def takeReport? (l : Link) : Option Result :=
  match l.reports.pop? with
  | none => none
  | some ((id, r), rest) => some ({ l with reports := rest }.pass id r)

/-- Logs an error unless it repeats the last one. -/
def complain (l : Link) (text : String) : Result :=
  if l.lastError? = some text then (l, [.note ⟨.debug, .transport, s!"repeated: {text}"⟩])
  else ({ l with lastError? := some text }, [.log .error text])

/-- Drops everything, as the transport has come to its end. -/
def abandon (l : Link) : Link :=
  match l.session? with
  | none => { l with reports := .empty }
  | some s => { l with session? := none, fading := l.fade s, reports := .empty }

/-- The link with a session in the place of the one with the same number.  A dropped session that
is over is forgotten. -/
def replace (l : Link) (s : Session) : Link :=
  if l.session?.any (·.id == s.id) then { l with session? := some s }
  else
    { l with
      fading := (l.fading.map fun t => if t.id == s.id then s else t).filter (!·.isOver) }

/-- What a move of a session does to its socket.  The writing half ends the stream when it is asked
to close, and the socket is closed when both halves are over. -/
def socketOutputs (before after : Session) (m : Session.Move) : List Output :=
  (if m = .takeRequest && !after.isWriting then [.finish after.socket] else []) ++
    (if !before.isOver && after.isOver then [.close after.socket] else [])

/-- A move of a session.  Its reports are queued. -/
def move? (l : Link) (id : Nat) (m : Session.Move) : Option Result :=
  match l.find? id with
  | none => none
  | some s =>
    match s.move? m with
    | none => none
    | some (s', reports) =>
      let l := l.replace s'
      some ({ l with reports := l.reports.append (reports.map (id, ·)) }, socketOutputs s s' m)

end Link

end FlightLink.Transport
