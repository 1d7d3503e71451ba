import FlightLink.Protocol.State
import FlightLink.Text.Hex

/-!
# Faults

The causes for which settings, packets, headers or transition tables are refused, and the wording
of each.
-/

namespace FlightLink

/-- Why a request is refused. -/
inductive Fault where
  | emptyDataType
  | invalidRole (text : String)
  | emptyName (field : String)
  | invalidTimers (ts tr : Nat)
  | zeroInterval (field : String)
  | invalidPort (field : String) (port : Nat)
  | emptyRemoteAddress
  | invalidClientIp (text : String)
  | emptyEncoding
  | unsupportedEncoding (label : String)
  | payloadTooLong (size : Nat)
  | invalidHeader (header : List UInt8)
  | ambiguousTransition (state : State) (event : Event) (first second : State)
  deriving DecidableEq, Repr

/-- The wording of a fault. -/
def Fault.message : Fault → String
  | emptyDataType => "data type must not be empty"
  | invalidRole text => s!"network role must be `server` or `client`, got `{text}`"
  | emptyName field => s!"{field} must not be empty"
  | invalidTimers ts tr => s!"Ts ({ts}s) must be non-zero and lower than Tr ({tr}s)"
  | zeroInterval field => s!"{field} must be at least one second"
  | invalidPort field port => s!"{field} {port} is outside of 2001..=65534"
  | emptyRemoteAddress => "remote address must not be empty for a client channel"
  | invalidClientIp text => s!"required client ip `{text}` is not an ip address"
  | emptyEncoding => "data encoding must not be empty"
  | unsupportedEncoding label =>
    s!"unsupported data encoding `{label}`, expected UTF-8 or Windows-1251"
  | payloadTooLong size => s!"payload of {size} bytes does not fit into a single FMTP packet"
  | invalidHeader header =>
    "invalid FMTP header [" ++ ", ".intercalate (header.map Text.hexByte) ++ "]"
  | ambiguousTransition state event first second =>
    s!"event {event.name} from {state.name} leads to both {first.name} and {second.name}"

end FlightLink
