/-!
# Roles

One side of a connection is the client, which connects, and the other the server, which listens.
-/

namespace FlightLink

/-- The two sides of a connection. -/
inductive Role where
  | client
  | server
  deriving DecidableEq, Repr

namespace Role

/-- The name of a role in settings. -/
def name : Role → String
  | client => "client"
  | server => "server"

/-- The name of a role in log texts. -/
def title : Role → String
  | client => "Client"
  | server => "Server"

/-- The role of a name in settings. -/
def ofName? (text : String) : Option Role :=
  if text = "client" then some client
  else if text = "server" then some server
  else none

end Role

end FlightLink
