import FlightLink.Channel.Queued
import FlightLink.Main
import FlightLink.Proofs.Channel.Transition
import FlightLink.Proofs.Framing.Chunking
import FlightLink.Rehearsal.Controller
import FlightLink.Rehearsal.Dialogue
import FlightLink.Rehearsal.Traffic
import FlightLink.Transport.Description
import FlightLink.Proofs.Channel.Hold
import FlightLink.Proofs.Channel.Course
import FlightLink.Proofs.Channel.Supervision
import FlightLink.Proofs.Channel.Timed
import FlightLink.Proofs.Conversation.Moves
import FlightLink.Proofs.Channel.Leads
import FlightLink.Proofs.Conversation.Handshake
import FlightLink.Proofs.Channel.Chronicle
import FlightLink.Proofs.Channel.Shutdown
import FlightLink.Proofs.Channel.Connection
import FlightLink.Proofs.Channel.Identification
import FlightLink.Proofs.Controller.Admission
import FlightLink.Proofs.Channel.Awaiting
import FlightLink.Proofs.Transport.Change
import FlightLink.Proofs.Transport.Due
import FlightLink.Proofs.Coupling.Moves
import FlightLink.Proofs.Coupling.Release
import FlightLink.Proofs.Coupling.Binding
import FlightLink.Proofs.Controller.Effort
import FlightLink.Proofs.Coupling.Agents
import FlightLink.Proofs.Coupling.Hosts
import FlightLink.Proofs.Framing.Recovery
import FlightLink.Proofs.Channel.Service
import FlightLink.Proofs.Controller.Silence
import FlightLink.Proofs.Conversation.Standing
import FlightLink.Proofs.Conversation.Reassociation
import FlightLink.Proofs.Text.Utf8
import FlightLink.Proofs.Delivery.Exchange
import FlightLink.Proofs.Delivery.Stream
import FlightLink.Proofs.Delivery.Turns
import FlightLink.Proofs.Delivery.Line
import FlightLink.Proofs.History
import FlightLink.Proofs.Timer.Arms
import FlightLink.Proofs.Timer.Expiries
import FlightLink.Proofs.Transport.Isolation
import FlightLink.Proofs.Channel.Retrying
import FlightLink.Proofs.Coupling.Retrying
import FlightLink.Proofs.Timer.Rearming
import FlightLink.Proofs.Upkeep.Signs
import FlightLink.Proofs.Controller.Execution
import FlightLink.Proofs.Upkeep.Vigil
import FlightLink.Proofs.Upkeep.Turns
import FlightLink.Proofs.Upkeep.Run
import FlightLink.Proofs.Upkeep.Opening
import FlightLink.Proofs.Upkeep.Heartbeats
import FlightLink.Proofs.Framing.Acceptance
import FlightLink.Proofs.Transport.Listening
import FlightLink.Proofs.Channel.Disconnecting
import FlightLink.Proofs.Upkeep.Renewal
import FlightLink.Proofs.Upkeep.Receipts
import FlightLink.Proofs.Settings
import FlightLink.Proofs.Channel.Reconfiguring
import FlightLink.Proofs.Conversation.Introduction
import FlightLink.Proofs.Transport.Endpoints
import FlightLink.Proofs.Coupling.Endpoints
import FlightLink.Proofs.Coupling.Reconfiguring
import FlightLink.Proofs.Transport.Packets
import FlightLink.Proofs.Transport.Writing
import FlightLink.Proofs.Transport.Ledger
import FlightLink.Proofs.Transport.Turns
import FlightLink.Proofs.Transport.Accounting
import FlightLink.Proofs.Channel.Announcing
import FlightLink.Proofs.Controller.Completion
import FlightLink.Proofs.Controller.Oversize
import FlightLink.Proofs.Controller.Announcing
import FlightLink.Proofs.Transport.Answering
import FlightLink.Proofs.Settings.Rules
import FlightLink.Proofs.Text.WellFormed
import FlightLink.Proofs.Text.Transcoding
import FlightLink.Proofs.Json.Grammar
import FlightLink.Proofs.Json.Reading
import FlightLink.Proofs.Json.Printing
import FlightLink.Proofs.Settings.Document
import FlightLink.Proofs.Settings.Roundtrip
import FlightLink.Proofs.Transport.Deadlines
import FlightLink.Proofs.Controller.Backlog
