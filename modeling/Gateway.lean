import Gateway.Bridge.Client
import Gateway.Bridge.Codec
import Gateway.Bridge.Error
import Gateway.Bridge.Namespace
import Gateway.Bridge.Relay
import Gateway.Bridge.Table
import Gateway.Device
import Gateway.Hub.Basic
import Gateway.Hub.Error
import Gateway.Hub.EventBits
import Gateway.Hub.Events
import Gateway.Hub.Queue
import Gateway.Mqtt.Decode
import Gateway.Mqtt.Encode
import Gateway.Mqtt.Error
import Gateway.Mqtt.Field
import Gateway.Mqtt.Link
import Gateway.Mqtt.Packet
import Gateway.Mqtt.Session
import Gateway.Mqtt.VarInt
import Gateway.Network.Credentials
import Gateway.Network.Driver
import Gateway.Network.Error
import Gateway.Network.LinkEvent
import Gateway.Network.Manager
import Gateway.Network.Storage
import Gateway.Scenario.Bridge
import Gateway.Scenario.Events
import Gateway.Scenario.Hub
import Gateway.Scenario.Network
import Gateway.Scenario.Queue
import Gateway.Scenario.Session
import Gateway.Scenario.Supervisor
import Gateway.Scenario.Table
import Gateway.Sched.Job
import Gateway.Supervisor.Basic
import Gateway.Supervisor.Error
import Gateway.Text.Blank
import Gateway.Text.Escaped
import Gateway.Text.Hex
import Gateway.Text.Numeral
import Gateway.Text.Quoted
import Gateway.Timed
import Gateway.Word
import Gateway.Proofs.FlowRun
import Gateway.Proofs.Framing
import Gateway.Proofs.Replies
import Gateway.Proofs.Waiting
import Gateway.Proofs.Requests
import Gateway.Proofs.Contracts
import Gateway.Proofs.Buffers
import Gateway.Proofs.Calls
import Gateway.Proofs.Ledger
import Gateway.Proofs.Booking
import Gateway.Proofs.Delivery
import Gateway.Proofs.Chunking
import Gateway.Proofs.Registry
import Gateway.Proofs.Routing
import Gateway.Proofs.Retries
import Gateway.Proofs.RoundTrip
import Gateway.Proofs.Uplink
import Gateway.Proofs.LinkFacts
import Gateway.Proofs.Persistence
import Gateway.Proofs.Supervision
import Gateway.Proofs.Provenance
import Gateway.Proofs.Polling
import Gateway.Proofs.BoundedJobs
import Gateway.Proofs.QueueOrder
import Gateway.Proofs.PublishQueue
import Gateway.Proofs.WireFields
import Gateway.Proofs.InboundGrammar
import Gateway.Proofs.OutboundLayout
import Gateway.Proofs.PublishCycle
import Gateway.Proofs.TopicNames
import Gateway.Proofs.HubClock
import Gateway.Proofs.TableCalls
import Gateway.Proofs.EventWait
import Gateway.Proofs.CredentialRecord
import Gateway.Proofs.FramePrefixes
import Gateway.Proofs.AccessPointClients
import Gateway.Proofs.Termination
import Gateway.Proofs.Backlog
import Gateway.Proofs.PacketIds
