import FlightLink.Fault
import FlightLink.Network.Address
import FlightLink.Protocol.Role
import FlightLink.Text.Charset

/-!
# Settings and configuration of a channel

Settings are what the operator supplies; nothing about them is certain.  `Settings.check` turns
them into a configuration or names the first rule that they break.  A configuration describes one
role only: the fields of the other role are not looked at.
-/

namespace FlightLink

/-- The state in which a channel settles after its start. -/
inductive StartState where
  | dataReady
  | disabled
  deriving DecidableEq, Repr

/-- The name of a start state in settings. -/
def StartState.name : StartState → String
  | dataReady => "data_ready"
  | disabled => "disabled"

/-- The settings of one channel, with intervals in seconds. -/
structure Settings where
  id : UInt32 := 0
  dataType : String := ""
  netRole : String := ""
  localName : String := ""
  localAtc : String := ""
  remoteName : String := ""
  remoteAtc : String := ""
  intervalTs : UInt64 := 0
  intervalTr : UInt64 := 0
  intervalTi : UInt64 := 0
  reconnectTimeout : UInt64 := 0
  localPort : UInt32 := 0
  remoteAddress : String := ""
  remotePort : UInt32 := 0
  clientIp? : Option String := none
  dataEncoding : String := ""
  debug : Bool := false
  startState : StartState := .dataReady
  deriving DecidableEq, Repr

/-- Where a channel connects to or listens on. -/
inductive Endpoint where
  | connect (address : String) (port : Port)
  | listen (port : Port) (clientIp? : Option IpAddress)
  deriving DecidableEq, Repr

/-- A checked configuration, with intervals in seconds. -/
structure Config where
  id : Nat
  dataType : String
  role : Role
  localName : String
  localAtc : String
  remoteName : String
  remoteAtc : String
  ts : Nat
  tr : Nat
  ti : Nat
  reconnectTimeout : Nat
  endpoint : Endpoint
  charset : Charset
  debug : Bool
  startState : StartState
  deriving DecidableEq, Repr

/-- The address of the peer, or of the listening socket. -/
def Config.url (c : Config) : String :=
  match c.endpoint with
  | .connect address port => s!"tcp://{address}:{port.text}"
  | .listen port _ => s!"tcp://0.0.0.0:{port.text}"

namespace Settings

/-- A port that a channel may use. -/
def checkPort (field : String) (port : UInt32) : Except Fault Port :=
  if 2001 ≤ port ∧ port ≤ 65534 then .ok (.number port.toNat)
  else .error (.invalidPort field port.toNat)

/-- A name that is not blank. -/
def checkName (field value : String) : Except Fault String :=
  if Text.allBlank value then .error (.emptyName field) else .ok value

/-- The address that clients must come from, if one is required. -/
def checkClientIp : Option String → Except Fault (Option IpAddress)
  | none => .ok none
  | some text =>
    let text := Text.trim text
    if text.isEmpty then .ok none
    else
      match IpAddress.parse? text with
      | some ip => .ok (some ip)
      | none => .error (.invalidClientIp text)

/-- The endpoint of a role. -/
def checkEndpoint (s : Settings) : Role → Except Fault Endpoint
  | .server => do
    let port ← checkPort "local port" s.localPort
    let clientIp? ← checkClientIp s.clientIp?
    return .listen port clientIp?
  | .client => do
    if Text.allBlank s.remoteAddress then throw .emptyRemoteAddress
    let port ← checkPort "remote port" s.remotePort
    return .connect (Text.trim s.remoteAddress) port

/-- The character set of a label. -/
def checkCharset (label : String) : Except Fault Charset :=
  if Text.allBlank label then .error .emptyEncoding
  else
    match Charset.ofLabel? label with
    | some charset => .ok charset
    | none => .error (.unsupportedEncoding label)

/-- The role of a name. -/
def checkRole (name : String) : Except Fault Role :=
  match Role.ofName? name with
  | some role => .ok role
  | none => .error (.invalidRole name)

/-- The configuration that the settings describe, or the first rule that they break. -/
def check (s : Settings) : Except Fault Config := do
  if Text.allBlank s.dataType then throw .emptyDataType
  let role ← checkRole s.netRole
  let localName ← checkName "local name" s.localName
  let localAtc ← checkName "local ATC" s.localAtc
  let remoteName ← checkName "remote name" s.remoteName
  let remoteAtc ← checkName "remote ATC" s.remoteAtc
  if s.intervalTs = 0 ∨ s.intervalTr ≤ s.intervalTs then
    throw (.invalidTimers s.intervalTs.toNat s.intervalTr.toNat)
  if s.intervalTi = 0 then throw (.zeroInterval "Ti")
  if s.reconnectTimeout = 0 then throw (.zeroInterval "reconnect timeout")
  let endpoint ← s.checkEndpoint role
  let charset ← checkCharset s.dataEncoding
  return {
    id := s.id.toNat
    dataType := s.dataType
    role, localName, localAtc, remoteName, remoteAtc
    ts := s.intervalTs.toNat
    tr := s.intervalTr.toNat
    ti := s.intervalTi.toNat
    reconnectTimeout := s.reconnectTimeout.toNat
    endpoint, charset
    debug := s.debug
    startState := s.startState }

end Settings

end FlightLink
