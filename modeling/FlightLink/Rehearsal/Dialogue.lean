import FlightLink.Host

/-!
# Rehearsing two channels

A server channel and a client channel on one host, with a script in the place of their
applications.  The clock moves in jumps.
-/

namespace FlightLink.Rehearsal

/-- What a step of the script brought about on one side. -/
structure SideReport where
  ended : Bool
  payloads : List Message
  status : Status

/-- The host; its first agent is the server and its second one the client. -/
structure Dialogue where
  host : Host

namespace Dialogue

/-- Both channels, the server started before the client. -/
def start (server client : Config) (hosts : List (String × List IpAddress)) : Dialogue :=
  let host := ((Host.ofNetwork .standard (.ofHosts hosts)).install (.ofConfig server 0)).awaken
  ⟨(host.install (.ofConfig client 0)).settle⟩

/-- The number of the agent of a role. -/
def agentOf : Role → Nat
  | .server => 0
  | .client => 1

/-- The steps of a script. -/
inductive Step where
  | command (role : Role) (c : Command)
  | closeCommands (role : Role)
  | advance (duration : Nat)

/-- Does a step and lets the host come to rest. -/
def perform (d : Dialogue) : Step → Dialogue
  | .command role c => ⟨(d.host.modifyAgent (agentOf role) (·.command c)).settle⟩
  | .closeCommands role => ⟨(d.host.modifyAgent (agentOf role) Agent.closeCommands).settle⟩
  | .advance duration => ⟨(d.host.advance duration).settle⟩

/-- What happened on a side since the last report. -/
def sideReport? (d : Dialogue) (role : Role) : Option SideReport := do
  let a ← d.host.agents[agentOf role]?
  let desk ← a.desk?
  return { ended := a.isOver, payloads := desk.payloads.reverse, status := desk.status }

/-- Forgets the payloads that have been reported. -/
def clear (d : Dialogue) : Dialogue :=
  ⟨{ d.host with
    agents := d.host.agents.map fun a =>
      { a with desk? := a.desk?.map fun desk => { desk with payloads := [] } } }⟩

end Dialogue

end FlightLink.Rehearsal
