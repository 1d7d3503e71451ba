import FlightLink.Log
import FlightLink.Protocol.State
import FlightLink.Settings

/-!
# What a controller and a transport tell each other

Orders go from the controller to the transport and signals come back.  Both travel through queues
and arrive in the order in which they were sent.
-/

namespace FlightLink.Transport

/-- Byte strings are compared in this way, whatever else is imported. -/
instance (priority := high) decidableEqBytes : DecidableEq ByteArray :=
  ByteArray.decEq

/-- The bytes of a packet and the event that is due once they are written. -/
structure Parcel where
  bytes : ByteArray
  after? : Option Event
  deriving DecidableEq

/-- What a controller orders. -/
inductive Order where
  | send (parcel : Parcel)
  /-- Drop the current connection, then connect or listen. -/
  | reconnect
  /-- Write what is queued and close the current connection. -/
  | disconnect
  /-- Close the connection and stop listening. -/
  | halt
  /-- Drop the current connection and use another endpoint from now on. -/
  | reconfigure (endpoint : Endpoint)
  deriving DecidableEq

/-- What a transport reports. -/
inductive Signal where
  | connected (up : Bool)
  | received (bytes : ByteArray)
  | sent (e : Event)
  | unsent (after? : Option Event)
  /-- An event that originates in the transport: a client has been admitted. -/
  | raised (e : Event)
  | log (severity : Severity) (text : String)
  deriving DecidableEq

end FlightLink.Transport
