import FlightLink.Json.Printer
import FlightLink.Program.Journal
import FlightLink.Text.Utf8

/-!
# The HTTP interface of a channel

The front answers one request after another.  It shows the status of the channel as last published
and passes on commands, one path each; data for the peer is the body of a request.
-/

namespace FlightLink.Program

/-- A request; the target is the path with whatever follows it. -/
structure Request where
  method : String
  target : String
  body : List UInt8

/-- The body of a response. -/
inductive Body where
  | nothing
  | text (s : String)
  | document (value : Json)

/-- A response. -/
structure Response where
  code : Nat
  /-- The methods that are allowed, if this one is not. -/
  allow? : Option String
  contentType? : Option String
  body : Body

namespace Response

/-- A response with nothing but its code. -/
def bare (code : Nat) : Response := ⟨code, none, none, .nothing⟩

/-- A response with a text. -/
def plain (code : Nat) (text : String) : Response :=
  ⟨code, none, some "text/plain; charset=utf-8", .text text⟩

/-- The refusal of a method. -/
def notAllowed (allow : String) : Response := ⟨405, some allow, none, .nothing⟩

end Response

/-- The status of a channel as a document. -/
def statusDocument (s : Status) : Json :=
  .object [("channel_id", .nat s.channelId), ("local_name", .string s.localName),
    ("remote_name", .string s.remoteName), ("daemon_state", .string s.health.name),
    ("fmtp_state", .string s.state.name), ("channel_url", .string s.url)]

/-- What the paths lead to. -/
inductive Route where
  /-- The status, and data for the peer. -/
  | root
  | command (c : Command)

/-- The path of a request's target. -/
def pathOf (target : String) : String :=
  String.ofList (target.toList.takeWhile fun c => c != '?' && c != '#')

/-- What a path leads to. -/
def Route.ofPath? (path : String) : Option Route :=
  match path with
  | "/" => some .root
  | "/associate" => some (.command .startup)
  | "/shutdown" => some (.command .shutdown)
  | "/disconnect" => some (.command .disconnect)
  | "/disable" => some (.command .disable)
  | "/enable" => some (.command .enable)
  | _ => none

/-- How many bytes of data a request may carry. -/
def bodyLimit : Nat := 2097152

/-- Why bytes are no text. -/
def malformedText (m : Text.Utf8.Malformed) : String :=
  match m.length? with
  | some length => s!"invalid utf-8 sequence of {length} bytes from index {m.index}"
  | none => s!"incomplete utf-8 byte sequence from index {m.index}"

/-- The command that carries the data of a request. -/
def dataCommand (body : List UInt8) : Except Response Command :=
  if bodyLimit < body.length then
    .error (.plain 413 "Failed to buffer the request body: length limit exceeded")
  else
    match Text.Utf8.decode? body with
    | .ok text => .ok (.data (String.ofList text))
    | .error m => .error (.plain 400 (malformedText m))

/-- What a request asks for. -/
inductive Demand where
  /-- Show the status, with the document or without. -/
  | show (withBody : Bool)
  | give (c : Command)

/-- What a request asks for, or why it is refused. -/
def Request.demand (r : Request) : Except Response Demand :=
  match Route.ofPath? (pathOf r.target) with
  | none => .error (.bare 404)
  | some .root =>
    if r.method = "GET" then .ok (.show true)
    else if r.method = "HEAD" then .ok (.show false)
    else if r.method = "POST" then (dataCommand r.body).map .give
    else .error (.notAllowed "GET,HEAD,POST")
  | some (.command c) =>
    if r.method = "POST" then .ok (.give c) else .error (.notAllowed "POST")

/-- The channel behind the interface. -/
structure Front where
  host : Host

namespace Front

/-- The front of a channel on a network. -/
def ofConfig (config : Config) (net : Network) : Front := ⟨channelHost config net⟩

/-- The controller of the channel. -/
def desk? (f : Front) : Option Desk := f.host.agents[0]?.bind Agent.desk?

/-- The status as last published. -/
def showStatus (f : Front) (withBody : Bool) : Response :=
  match f.desk? with
  | none => .bare 500
  | some d =>
    ⟨200, none, some "application/json",
      if withBody then .document (statusDocument d.status) else .nothing⟩

/-- Passes on a command and lets the channel act on it. -/
def give (f : Front) (c : Command) : Response × Front :=
  if f.desk?.any (·.isRunning) then
    (.bare 200, ⟨(f.host.modifyAgent 0 (·.command c)).settle⟩)
  else (.plain 500 "channel closed", f)

/-- Answers a request. -/
def handle (f : Front) (r : Request) : Response × Front :=
  match r.demand with
  | .error response => (response, f)
  | .ok (.show withBody) => (f.showStatus withBody, f)
  | .ok (.give c) => f.give c

end Front

end FlightLink.Program
