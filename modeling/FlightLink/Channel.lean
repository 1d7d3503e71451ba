import FlightLink.Channel.Action
import FlightLink.Protocol.Table
import FlightLink.Settings

/-!
# Channels

A channel holds the protocol state of one association.  Everything that happens to it is a pure
step: the channel afterwards and the effects of the step.  Nothing here knows about sockets,
clocks or queues.

A message that arrives while the channel expects the event of a packet it has sent is held back,
so that what happened on this side is applied first.  Once nothing is expected, the messages held
back are taken in the order of their arrival.
-/

namespace FlightLink

/-- How far a channel drives the association on its own. -/
inductive Goal where
  /-- Identified, without an association. -/
  | ready
  /-- Ready to exchange data. -/
  | dataReady
  deriving DecidableEq, Repr

/-- The name of a goal. -/
def Goal.name : Goal → String
  | ready => "ready"
  | dataReady => "data_ready"

/-- What the application asks of a channel. -/
inductive Command where
  /-- Send data, which is possible in `State.dataReady` only. -/
  | data (text : String)
  /-- Establish the association. -/
  | startup
  /-- End the association and keep the connection. -/
  | shutdown
  /-- End the association and release the connection. -/
  | disconnect
  /-- Take the channel out of service. -/
  | disable
  /-- Put the channel back into service. -/
  | enable
  /-- Use new settings from now on. -/
  | reconfigure (settings : Settings)
  deriving DecidableEq, Repr

/-- The protocol state of one channel. -/
structure Channel where
  /-- The role that the channel was made for; it selects the transition table. -/
  role : Role
  config : Config
  state : State
  goal : Goal
  /-- How many packets have been sent whose event has not come back. -/
  awaiting : Nat
  /-- Messages received while `awaiting` is positive. -/
  held : Array Message
  deriving DecidableEq, Repr

/-- The channel after a step and the effects of the step. -/
structure Channel.Outcome where
  channel : Channel
  effects : List Effect
  deriving DecidableEq, Repr

/-- Continues a step with the channel that it left behind. -/
def Channel.Outcome.andThen (o : Outcome) (next : Channel → Outcome) : Outcome :=
  let p := next o.channel
  ⟨p.channel, o.effects ++ p.effects⟩

/-- How a channel is doing. -/
inductive Health where
  | ok
  | stopped
  | error
  deriving DecidableEq, Repr

/-- The name of a channel's health in status records. -/
def Health.name : Health → String
  | ok => "ok"
  | stopped => "stopped"
  | error => "error"

/-- The state of a channel as others see it. -/
structure Status where
  channelId : Nat
  localName : String
  remoteName : String
  health : Health
  state : State
  url : String
  deriving DecidableEq, Repr

namespace Channel

/-- A new channel. -/
def ofConfig (config : Config) : Channel :=
  { role := config.role, config, state := .idle, goal := .dataReady, awaiting := 0, held := #[] }

/-- The status of the channel. -/
def status (c : Channel) : Status where
  channelId := c.config.id
  localName := c.config.localName
  remoteName := c.config.remoteName
  health :=
    match c.state with
    | .dataReady => .ok
    | .disabled => .stopped
    | _ => .error
  state := c.state
  url := c.config.url

/-! ## Effects -/

/-- A note of the channel. -/
def noted (c : Channel) (level : Note.Level) (text : String) : Effect :=
  .note ⟨level, .channel, s!"channel {c.config.id}: {text}"⟩

/-- Records are logged, except that debug records are only noted while the channel's debug flag is
off. -/
def recorded (c : Channel) (r : LogRecord) : Effect :=
  if r.severity = .debug ∧ c.config.debug = false then .note r.note else .action (.log r)

/-- Logs a text. -/
def logged (c : Channel) (severity : Severity) (text : String) : Effect :=
  c.recorded (.plain c.config.id severity text)

/-- Logs a text about a received packet. -/
def loggedReceipt (c : Channel) (severity : Severity) (kind : Packet.Kind) (text : String) :
    Effect :=
  c.recorded ((LogRecord.plain c.config.id severity text).about kind .incoming)

/-- Heartbeats are of interest only to those who look for errors. -/
def routine (c : Channel) (isHeartbeat : Bool) : Severity :=
  if isHeartbeat && !c.config.debug then .debug else .info

/-- Sends a message and logs that. -/
def sending (c : Channel) (m : Message) (after? : Option Event) : List Effect :=
  [c.recorded ((LogRecord.plain c.config.id (c.routine m.isHeartbeat) s!"sending {m.text}").about
      m.kind .outgoing),
    .action (.send m after?)]

/-- Starts a timer anew. -/
def restarting (kind : TimerKind) : Effect := .action (.restartTimer kind)

/-- Stops a timer. -/
def stopping (kind : TimerKind) : Effect := .action (.stopTimer kind)

/-- The identification of this side. -/
def ownIdentification (c : Channel) : Message :=
  .identification c.config.localAtc c.config.remoteAtc

/-- The identification that the peer has to send. -/
def peerIdentification (c : Channel) : Message :=
  .identification c.config.remoteAtc c.config.localAtc

/-! ## Transitions -/

/-- What leaving the current state on an event entails. -/
def leaving (c : Channel) (e : Event) : List Effect :=
  match c.state with
  | .idle => [stopping .reconnect]
  | .connectionPending => []
  | .systemIdPending =>
    if e = .remoteIdValid then c.sending c.ownIdentification none ++ [restarting .identification]
    else [stopping .identification]
  | .idPending =>
    (match e with
      | .remoteIdValid => c.sending .accept none
      | .remoteIdInvalid => c.sending .reject none
      | _ => []) ++ [stopping .identification]
  | .ready => if e = .localStartup then [restarting .receive] else []
  | .associationPending =>
    match e with
    | .localDisconnect | .localShutdown => c.sending .shutdown none ++ [stopping .receive]
    | .receiveTimeout => c.sending .startup (some .localStartup) ++ [restarting .receive]
    | .remoteStartup => c.sending .startup none ++ [restarting .receive, restarting .send]
    | _ => [stopping .receive]
  | .dataReady =>
    match e with
    | .localDisconnect | .localShutdown =>
      c.sending .shutdown none ++ [stopping .receive, stopping .send]
    | .remoteDisconnect | .receiveTimeout => [stopping .receive, stopping .send]
    | .localData => [restarting .send]
    | .sendTimeout => c.sending .heartbeat none ++ [restarting .send]
    | .remoteData | .remoteHeartbeat => [restarting .receive]
    | .remoteShutdown => [stopping .send, restarting .receive]
    | _ => []
  | .disabled => []

/-- What entering a state entails. -/
def entering (c : Channel) (s : State) : List Effect :=
  match s with
  | .idle =>
    match c.config.role with
    | .client => [restarting .reconnect]
    | .server => [.action .disconnect]
  | .connectionPending => c.sending c.ownIdentification (some .remoteSetup)
  | .systemIdPending | .idPending => [restarting .identification]
  | .ready => if c.goal = .dataReady then c.sending .startup (some .localStartup) else []
  | .associationPending | .dataReady => []
  | .disabled => TimerKind.all.map stopping ++ [.action .halt]

/-- The note that a state has been entered. -/
def entered (s : State) (e? : Option Event) : Effect :=
  let cause := match e? with
    | some e => s!"Some({e.identifier})"
    | none => "None"
  .note ⟨.trace, .actions, s!"entered {s.name} on {cause}"⟩

/-- The record or note of a transition. -/
def changing (c : Channel) (s : State) (e : Event) : Effect :=
  if c.state = s then c.noted .debug s!"{e.name} in {s.name}"
  else c.logged .info s!"{c.state.name} -> {s.name} on {e.name}"

/-- The state that an event leads to, unless it is ignored. -/
def next? (c : Channel) (e : Event) : Option State :=
  Table.next? c.role c.state e

/-- Runs the transition of an event. -/
def raise (c : Channel) (e : Event) : Outcome :=
  match c.next? e with
  | none => ⟨c, [c.noted .trace s!"{e.name} ignored in {c.state.name}"]⟩
  | some s =>
    let effects := c.leaving e ++ c.changing s e :: (c.entering s ++ [entered s (some e)])
    ⟨{ c with state := s, awaiting := c.awaiting + Effect.awaited effects }, effects⟩

/-- Takes the channel out of service. -/
def disable (c : Channel) : Outcome :=
  if c.state = .disabled then ⟨c, []⟩
  else
    ⟨{ c with state := .disabled },
      c.logged .info s!"{c.state.name} -> DISABLED" ::
        (c.entering .disabled ++ [entered .disabled none])⟩

/-! ## Received messages -/

/-- Tells the application about a payload. -/
def delivering (c : Channel) (m : Message) : List Effect :=
  [c.loggedReceipt .info m.kind s!"received {m.text}", .action (.deliver m)]

/-- The event of an identification message. -/
def identificationEvent (c : Channel) (text : String) : Event :=
  if text = Message.rejectText then .remoteReject
  else if text = Message.acceptText then .remoteAccept
  else if text = c.peerIdentification.text then .remoteIdValid
  else .remoteIdInvalid

/-- The event of a system message. -/
def systemEvent? (text : String) : Option Event :=
  if text = Message.startupText then some .remoteStartup
  else if text = Message.shutdownText then some .remoteShutdown
  else if text = Message.heartbeatText then some .remoteHeartbeat
  else none

/-- Acts on a message. -/
def dispatch (c : Channel) (m : Message) : Outcome :=
  match m.kind with
  | .identification =>
    let e := c.identificationEvent m.text
    let mismatch :=
      if e = .remoteIdInvalid then
        [c.loggedReceipt .warning m.kind
          s!"identification mismatch: received `{m.text}`, expected `{c.peerIdentification.text}`"]
      else []
    Outcome.andThen ⟨c, mismatch ++ [c.loggedReceipt .info m.kind s!"received {m.text}"]⟩
      (·.raise e)
  | .system =>
    match systemEvent? m.text with
    | none => ⟨c, [c.loggedReceipt .warning m.kind s!"unknown system message `{m.text}`"]⟩
    | some e =>
      Outcome.andThen
        ⟨c, [c.loggedReceipt (c.routine (e = .remoteHeartbeat)) m.kind s!"received {e.name}"]⟩
        (·.raise e)
  | .operational => Outcome.andThen ⟨c, c.delivering m⟩ (·.raise .remoteData)
  | .operator | .status | .unknown => ⟨c, c.delivering m⟩

/-- Takes a message that has been received: at once, or later if an event is awaited. -/
def receive (c : Channel) (m : Message) : Outcome :=
  if 0 < c.awaiting then
    ⟨{ c with held := c.held.push m }, [c.noted .trace s!"holding {m.describe}"]⟩
  else c.dispatch m

/-- Acts on held messages as long as nothing is awaited and holds the rest again.  `done` has the
effects so far, those of the last message first. -/
def replayOnto (done : List (List Effect)) (c : Channel) : List Message → Outcome
  | [] => ⟨{ c with held := #[] }, done.reverse.flatten⟩
  | m :: rest =>
    if c.awaiting = 0 then
      let o := c.dispatch m
      replayOnto (o.effects :: done) o.channel rest
    else ⟨{ c with held := (m :: rest).toArray }, done.reverse.flatten⟩

/-- Acts on the messages held back, as far as nothing is awaited. -/
def replay (c : Channel) : Outcome :=
  if c.awaiting = 0 then replayOnto [] c c.held.toList else ⟨c, []⟩

/-- What becomes of a held message when the connection is lost. -/
def releasing (c : Channel) (m : Message) : List Effect :=
  match m.kind with
  | .identification | .system =>
    [c.loggedReceipt .warning m.kind s!"connection lost, discarding {m.text}"]
  | _ => c.delivering m

/-- Forgets the awaited events of a lost connection.  Payloads still reach the application, held
protocol messages are discarded. -/
def release (c : Channel) : Outcome :=
  ⟨{ c with awaiting := 0, held := #[] }, c.held.toList.flatMap c.releasing⟩

/-! ## Steps -/

/-- Settles into the configured start state. -/
def start (c : Channel) : Outcome :=
  match c.config.startState with
  | .dataReady =>
    ⟨c, [c.logged .info s!"starting {c.config.role.title} channel {c.config.url}",
      .action .reconnect]⟩
  | .disabled => c.disable

/-- The transport reports a new connection, or the end or absence of one. -/
def connectionChanged (c : Channel) (connected : Bool) : Outcome :=
  if connected then
    match c.config.role with
    | .client => c.raise .localSetup
    | .server => ⟨c, []⟩
  else c.release.andThen (·.raise .remoteDisconnect)

/-- A timer has expired. -/
def timerExpired (c : Channel) (kind : TimerKind) : Outcome :=
  match kind.event? with
  | some e => Outcome.andThen ⟨c, [c.noted .debug s!"{kind.name} expired"]⟩ (·.raise e)
  | none => ⟨c, [c.logged .info "reconnecting", .action .reconnect]⟩

/-- A packet has been written, and its event comes back.  Events of a lost connection are
ignored. -/
def confirm (c : Channel) (e : Event) : Outcome :=
  if c.awaiting = 0 then ⟨c, [c.noted .debug s!"stale confirmation {e.name} ignored"]⟩
  else (raise { c with awaiting := c.awaiting - 1 } e).andThen replay

/-- A packet could not be written; its event, if it has one, does not come back. -/
def unsent (c : Channel) (after? : Option Event) : Outcome :=
  match after? with
  | some e =>
    if 0 < c.awaiting then
      Outcome.andThen
        ⟨{ c with awaiting := c.awaiting - 1 },
          [c.logged .warning s!"packet not sent, {e.name} not raised"]⟩ replay
    else c.replay
  | none => c.replay

/-- Sends a message and counts the event that it asks for. -/
def send (c : Channel) (m : Message) (after? : Option Event) : Outcome :=
  let effects := c.sending m after?
  ⟨{ c with awaiting := c.awaiting + Effect.awaited effects }, effects⟩

/-- Replaces the configuration if the settings are sound and name the same role. -/
def reconfigure (c : Channel) (settings : Settings) : Outcome :=
  match settings.check with
  | .error fault => ⟨c, [c.logged .error s!"ignoring new settings: {fault.message}"]⟩
  | .ok config =>
    if config.role ≠ c.config.role then
      let change := s!"{c.config.role.title} -> {config.role.title}"
      ⟨c, [c.logged .error s!"ignoring new settings: role change {change} needs a restart"]⟩
    else
      let c := { c with config }
      ⟨c, [c.logged .info s!"reconfigured for {config.url}", .action .reconfigure]⟩

/-- Carries out a command of the application. -/
def obey (c : Channel) : Command → Outcome
  | .data text =>
    if c.state = .dataReady then c.send (.operational text) (some .localData)
    else ⟨c, [c.logged .warning s!"dropping outbound data in {c.state.name}: {text}"]⟩
  | .startup =>
    let c := { c with goal := .dataReady }
    if c.state = .ready then c.send .startup (some .localStartup)
    else ⟨c, [c.noted .debug s!"STARTUP follows once {c.state.name} reaches READY"]⟩
  | .shutdown => raise { c with goal := .ready } .localShutdown
  | .disconnect => c.raise .localDisconnect
  | .disable => c.disable
  | .enable =>
    if c.state = .disabled then
      ⟨{ c with state := .idle },
        [c.logged .info "DISABLED -> IDLE on enable", .action .reconnect]⟩
    else ⟨c, []⟩
  | .reconfigure settings => c.reconfigure settings

/-- Everything that can happen to a channel. -/
inductive Input where
  | start
  | raise (e : Event)
  | command (command : Command)
  | connectionChanged (connected : Bool)
  | timerExpired (kind : TimerKind)
  | confirm (e : Event)
  | unsent (after? : Option Event)
  | receive (m : Message)
  | log (severity : Severity) (text : String)
  deriving DecidableEq, Repr

/-- The step of an input. -/
def step (c : Channel) : Input → Outcome
  | .start => c.start
  | .raise e => c.raise e
  | .command command => c.obey command
  | .connectionChanged connected => c.connectionChanged connected
  | .timerExpired kind => c.timerExpired kind
  | .confirm e => c.confirm e
  | .unsent after? => c.unsent after?
  | .receive m => c.receive m
  | .log severity text => ⟨c, [c.logged severity text]⟩

end Channel

end FlightLink
