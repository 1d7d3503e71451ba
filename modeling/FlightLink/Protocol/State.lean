/-!
# States and events of a channel

The states of one association and the events that move it between them.  A local event is a
service primitive of this side, a remote event is observed on the connection to the peer, and a
timeout event is the expiry of a protocol timer.
-/

namespace FlightLink

/-- The states of a channel. -/
inductive State where
  | idle
  | connectionPending
  | systemIdPending
  | idPending
  | ready
  | associationPending
  | dataReady
  | disabled
  deriving DecidableEq, Repr

namespace State

/-- Every state, in the order of the standard. -/
def all : List State :=
  [idle, connectionPending, systemIdPending, idPending, ready, associationPending, dataReady,
    disabled]

/-- The name of a state in log texts and status records. -/
def name : State → String
  | idle => "IDLE"
  | connectionPending => "CONNECTION_PENDING"
  | systemIdPending => "SYSTEM_ID_PENDING"
  | idPending => "ID_PENDING"
  | ready => "READY"
  | associationPending => "ASSOCIATION_PENDING"
  | dataReady => "DATA_READY"
  | disabled => "DISABLED"

/-- The identifier of a state in stored documents. -/
def identifier : State → String
  | idle => "Idle"
  | connectionPending => "ConnectionPending"
  | systemIdPending => "SystemIdPending"
  | idPending => "IdPending"
  | ready => "Ready"
  | associationPending => "AssociationPending"
  | dataReady => "DataReady"
  | disabled => "Disabled"

end State

/-- The events that drive a channel. -/
inductive Event where
  /-- Request to establish a connection. -/
  | localSetup
  /-- Request to stop the association and release the connection. -/
  | localDisconnect
  /-- Request to stop the association and keep the connection. -/
  | localShutdown
  /-- Request to establish an association. -/
  | localStartup
  /-- Data transfer requested by the user. -/
  | localData
  /-- A connection has been established. -/
  | remoteSetup
  /-- The connection has been released. -/
  | remoteDisconnect
  /-- An operational message has been received. -/
  | remoteData
  /-- The peer accepted the identification. -/
  | remoteAccept
  /-- The peer rejected the identification. -/
  | remoteReject
  /-- An identification with the expected value has been received. -/
  | remoteIdValid
  /-- An identification with another value has been received. -/
  | remoteIdInvalid
  /-- A heartbeat has been received. -/
  | remoteHeartbeat
  /-- The peer stopped the association. -/
  | remoteShutdown
  /-- The peer started the association. -/
  | remoteStartup
  /-- Nothing has been sent for too long. -/
  | sendTimeout
  /-- Nothing has been received for too long. -/
  | receiveTimeout
  /-- The peer has not identified itself in time. -/
  | identificationTimeout
  deriving DecidableEq, Repr

namespace Event

/-- Every event, in the order of the standard. -/
def all : List Event :=
  [localSetup, localDisconnect, localShutdown, localStartup, localData, remoteSetup,
    remoteDisconnect, remoteData, remoteAccept, remoteReject, remoteIdValid, remoteIdInvalid,
    remoteHeartbeat, remoteShutdown, remoteStartup, sendTimeout, receiveTimeout,
    identificationTimeout]

/-- The name of an event in log texts. -/
def name : Event → String
  | localSetup => "L_SETUP"
  | localDisconnect => "L_DISCONNECT"
  | localShutdown => "L_SHUTDOWN"
  | localStartup => "L_STARTUP"
  | localData => "L_DATA"
  | remoteSetup => "R_SETUP"
  | remoteDisconnect => "R_DISCONNECT"
  | remoteData => "R_DATA"
  | remoteAccept => "R_ACCEPT"
  | remoteReject => "R_REJECT"
  | remoteIdValid => "R_ID_VALID"
  | remoteIdInvalid => "R_ID_INVALID"
  | remoteHeartbeat => "R_HEARTBEAT"
  | remoteShutdown => "R_SHUTDOWN"
  | remoteStartup => "R_STARTUP"
  | sendTimeout => "TS_TIMEOUT"
  | receiveTimeout => "TR_TIMEOUT"
  | identificationTimeout => "TI_TIMEOUT"

/-- The identifier of an event in stored documents and diagnostics. -/
def identifier : Event → String
  | localSetup => "LSetup"
  | localDisconnect => "LDisconnect"
  | localShutdown => "LShutdown"
  | localStartup => "LStartup"
  | localData => "LData"
  | remoteSetup => "RSetup"
  | remoteDisconnect => "RDisconnect"
  | remoteData => "RData"
  | remoteAccept => "RAccept"
  | remoteReject => "RReject"
  | remoteIdValid => "RIdValid"
  | remoteIdInvalid => "RIdInvalid"
  | remoteHeartbeat => "RHeartbeat"
  | remoteShutdown => "RShutdown"
  | remoteStartup => "RStartup"
  | sendTimeout => "TsTimeout"
  | receiveTimeout => "TrTimeout"
  | identificationTimeout => "TiTimeout"

end Event

end FlightLink
