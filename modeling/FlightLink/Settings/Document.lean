import FlightLink.Json.Parser
import FlightLink.Json.Printer
import FlightLink.Settings

/-!
# The settings document

Settings are stored as a JSON object with one member per field.  Members may come in any order,
absent fields have their defaults, and members of other names are ignored; a field that is given
twice is refused.  An array of the fields in their order is read as well, and may leave out the
last ones.
-/

namespace FlightLink.Settings

/-- A field's value in a document: `none` if the document is ambiguous about it, `some none` if it
leaves the field out. -/
abbrev Found := Option (Option Json)

/-- The value of a field, by `read` or by default. -/
def field {α : Type} (found : Found) (read : Json → Option α) (default : α) : Option α :=
  match found with
  | none => none
  | some none => some default
  | some (some value) => read value

/-- Reads a text. -/
def readText : Json → Option String
  | .string s => some s
  | _ => none

/-- Reads a truth value. -/
def readFlag : Json → Option Bool
  | .bool b => some b
  | _ => none

/-- Reads an integer below a bound. -/
def readBelow (bound : Nat) : Json → Option Nat
  | .number n =>
    match n.toNat? with
    | some k => if k < bound then some k else none
    | none => none
  | _ => none

/-- Reads an integer of 32 bits. -/
def readUInt32 (value : Json) : Option UInt32 :=
  (readBelow UInt32.size value).map Nat.toUInt32

/-- Reads an integer of 64 bits. -/
def readUInt64 (value : Json) : Option UInt64 :=
  (readBelow UInt64.size value).map Nat.toUInt64

/-- Reads a text that may be absent. -/
def readOptionalText : Json → Option (Option String)
  | .null => some none
  | .string s => some (some s)
  | _ => none

/-- The start state of a name. -/
def startStateNamed (name : String) : Option StartState :=
  if name = "data_ready" then some .dataReady
  else if name = "disabled" then some .disabled
  else none

/-- Reads a start state: its name, or an object with the name as its only member, which is null. -/
def readStartState : Json → Option StartState
  | .string name => startStateNamed name
  | .object [(name, .null)] => startStateNamed name
  | _ => none

/-- Assembles settings from the values of the fields, which are found by position and name. -/
def ofFields (find : Nat → String → Found) : Option Settings := do
  let id ← field (find 0 "id") readUInt32 0
  let dataType ← field (find 1 "data_type") readText ""
  let netRole ← field (find 2 "net_role") readText ""
  let localName ← field (find 3 "local_name") readText ""
  let localAtc ← field (find 4 "local_atc") readText ""
  let remoteName ← field (find 5 "remote_name") readText ""
  let remoteAtc ← field (find 6 "remote_atc") readText ""
  let intervalTs ← field (find 7 "interval_ts") readUInt64 0
  let intervalTr ← field (find 8 "interval_tr") readUInt64 0
  let intervalTi ← field (find 9 "interval_ti") readUInt64 0
  let reconnectTimeout ← field (find 10 "reconnect_timeout") readUInt64 0
  let localPort ← field (find 11 "local_port") readUInt32 0
  let remoteAddress ← field (find 12 "remote_address") readText ""
  let remotePort ← field (find 13 "remote_port") readUInt32 0
  let clientIp? ← field (find 14 "client_ip") readOptionalText none
  let dataEncoding ← field (find 15 "data_encoding") readText ""
  let debug ← field (find 16 "debug") readFlag false
  let startState ← field (find 17 "initial_state") readStartState .dataReady
  return {
    id, dataType, netRole, localName, localAtc, remoteName, remoteAtc, intervalTs, intervalTr,
    intervalTi, reconnectTimeout, localPort, remoteAddress, remotePort, clientIp?, dataEncoding,
    debug, startState }

/-- The names of the fields in their order. -/
def fieldNames : List String :=
  ["id", "data_type", "net_role", "local_name", "local_atc", "remote_name", "remote_atc",
    "interval_ts", "interval_tr", "interval_ti", "reconnect_timeout", "local_port",
    "remote_address", "remote_port", "client_ip", "data_encoding", "debug", "initial_state"]

/-- The value of a member that must not be repeated. -/
def findMember (members : List (String × Json)) (_ : Nat) (name : String) : Found :=
  match members.filter (·.1 == name) with
  | [] => some none
  | [(_, value)] => some (some value)
  | _ => none

/-- The settings of a document. -/
def ofJson? : Json → Option Settings
  | .object members => ofFields (findMember members)
  | .array items =>
    if items.length ≤ fieldNames.length then ofFields fun i _ => some items[i]? else none
  | _ => none

/-- The settings of a document's text; members that are no fields need only be well formed. -/
def parse? (text : String) : Option Settings :=
  (Json.parseFor? fieldNames text).bind ofJson?

/-- The document of the settings, with all fields in their order. -/
def toJson (s : Settings) : Json :=
  .object [
    ("id", .nat s.id.toNat),
    ("data_type", .string s.dataType),
    ("net_role", .string s.netRole),
    ("local_name", .string s.localName),
    ("local_atc", .string s.localAtc),
    ("remote_name", .string s.remoteName),
    ("remote_atc", .string s.remoteAtc),
    ("interval_ts", .nat s.intervalTs.toNat),
    ("interval_tr", .nat s.intervalTr.toNat),
    ("interval_ti", .nat s.intervalTi.toNat),
    ("reconnect_timeout", .nat s.reconnectTimeout.toNat),
    ("local_port", .nat s.localPort.toNat),
    ("remote_address", .string s.remoteAddress),
    ("remote_port", .nat s.remotePort.toNat),
    ("client_ip", match s.clientIp? with
      | none => .null
      | some ip => .string ip),
    ("data_encoding", .string s.dataEncoding),
    ("debug", .bool s.debug),
    ("initial_state", .string s.startState.name)]

/-- The text of the settings' document. -/
def text (s : Settings) : String :=
  s.toJson.text

end FlightLink.Settings
