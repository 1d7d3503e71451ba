import FlightLink.Packet

/-!
# Log records and diagnostic notes

A channel reports what happens to it as log records, which the application reads.  Beside them the
parts of the program write diagnostic notes, each at a level and under the name of its source.
Every log record has a note as its counterpart.
-/

namespace FlightLink

/-- How serious a log record is. -/
inductive Severity where
  | debug
  | info
  | warning
  | error
  deriving DecidableEq, Repr

/-- The name of a severity in log records. -/
def Severity.name : Severity → String
  | debug => "debug"
  | info => "info"
  | warning => "warning"
  | error => "error"

/-- Which way the packet of a log record went. -/
inductive Direction where
  | incoming
  | outgoing
  | neither
  deriving DecidableEq, Repr

/-- The name of a direction in log records. -/
def Direction.name : Direction → String
  | incoming => "in"
  | outgoing => "out"
  | neither => "none"

/-- The name of a direction in notes. -/
def Direction.title : Direction → String
  | incoming => "In"
  | outgoing => "Out"
  | neither => "None"

/-- An entry of a channel's log. -/
structure LogRecord where
  channelId : Nat
  severity : Severity
  kind? : Option Packet.Kind
  direction : Direction
  text : String
  deriving DecidableEq, Repr

/-- The levels of notes, the most detailed first. -/
inductive Note.Level where
  | trace
  | debug
  | info
  | warn
  | error
  deriving DecidableEq, Repr

namespace Note.Level

/-- The name of a level at the start of a line. -/
def name : Level → String
  | trace => "TRACE"
  | debug => "DEBUG"
  | info => "INFO"
  | warn => "WARN"
  | error => "ERROR"

/-- Levels in ascending order. -/
def rank : Level → Nat
  | trace => 0
  | debug => 1
  | info => 2
  | warn => 3
  | error => 4

/-- The level of the note that accompanies a record. -/
def ofSeverity : Severity → Level
  | .debug => debug
  | .info => info
  | .warning => warn
  | .error => error

end Note.Level

/-- The parts of the program that write notes. -/
inductive Note.Source where
  | table
  | channel
  | actions
  | log
  | timer
  | controller
  | transport
  | client
  | server
  | session
  | program
  deriving DecidableEq, Repr

/-- The name of a source in a line. -/
def Note.Source.name : Note.Source → String
  | table => "fmtp_core::state"
  | channel => "fmtp_core::channel"
  | actions => "fmtp_core::actions"
  | log => "fmtp_core::log"
  | timer => "fmtp_tokio::timer"
  | controller => "fmtp_tokio::controller"
  | transport => "fmtp_tokio::transport"
  | client => "fmtp_tokio::transport::client"
  | server => "fmtp_tokio::transport::server"
  | session => "fmtp_tokio::transport::session"
  | program => "fmtp_channel"

/-- A diagnostic note. -/
structure Note where
  level : Note.Level
  source : Note.Source
  text : String
  deriving DecidableEq, Repr

/-- The note as a line of the program's output. -/
def Note.line (n : Note) : String :=
  s!"{n.level.name} {n.source.name}: {n.text}"

namespace LogRecord

/-- A record about no packet in particular. -/
def plain (channelId : Nat) (severity : Severity) (text : String) : LogRecord :=
  ⟨channelId, severity, none, .neither, text⟩

/-- The record, now about a packet. -/
def about (r : LogRecord) (kind : Packet.Kind) (direction : Direction) : LogRecord :=
  { r with kind? := some kind, direction }

/-- The note that accompanies the record. -/
def note (r : LogRecord) : Note :=
  let subject := match r.kind? with
    | none => s!"channel {r.channelId}: "
    | some kind => s!"channel {r.channelId} [{kind.name} {r.direction.title}]: "
  ⟨.ofSeverity r.severity, .log, subject ++ r.text⟩

end LogRecord

end FlightLink
