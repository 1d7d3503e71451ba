import FlightLink.Text.Quoted
import FlightLink.Transport.Station

/-!
# Descriptions of stations

A station in words, for diagnostic output: its kind and its parameters by name.
-/

namespace FlightLink.Transport

/-- A part of a description: the name of a kind and its fields in order. -/
def record (kind : String) (fields : List (String × String)) : String :=
  kind ++ " \x7b " ++ ", ".intercalate (fields.map fun (name, value) => name ++ ": " ++ value) ++
    " \x7d"

/-- A value that may be missing. -/
def optionText (value? : Option String) : String :=
  match value? with
  | none => "None"
  | some value => s!"Some({value})"

/-- A number of milliseconds that are whole seconds. -/
def secondsText (duration : Nat) : String := s!"{duration / 1000}s"

/-- The description of a client. -/
def Client.describe (c : Client) : String :=
  record "ClientTransport" [("address", Text.quoted c.address), ("port", c.port.text)]

/-- The description of a server that has not been given a listener. -/
def Server.describe (s : Server) : String :=
  record "ServerTransport" [("port", s.port.text),
    ("client_ip", optionText (s.clientIp?.map IpAddress.text)), ("retry", secondsText s.retry),
    ("listener", optionText none)]

/-- The description of a station. -/
def Station.describe : Station → String
  | client c => s!"Client({c.describe})"
  | server s => s!"Server({s.describe})"

end FlightLink.Transport
