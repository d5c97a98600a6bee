import Meshwork.Main
import Meshwork.Report
import Meshwork.Proofs.Packet.Codec
import Meshwork.Proofs.Duplicates.Retention
import Meshwork.Proofs.Station.Calls
import Meshwork.Proofs.Station.AtMostOnce
import Meshwork.Proofs.Handshake.Steps
import Meshwork.Proofs.Device.Runs
import Meshwork.Proofs.Handshake.Fields
import Meshwork.Proofs.Device.Coherence
import Meshwork.Proofs.Network.Runs
import Meshwork.Proofs.Network.Steps
import Meshwork.Proofs.Network.Sessions
import Meshwork.Proofs.Network.Origins
import Meshwork.Proofs.Network.Agreement
import Meshwork.Proofs.Checksum.Burst
import Meshwork.Proofs.Packet.Corruption
import Meshwork.Proofs.Device.Frames
import Meshwork.Proofs.Station.Deliveries
import Meshwork.Proofs.Device.KeyKept
import Meshwork.Proofs.Handshake.History
import Meshwork.Proofs.Device.Messages
import Meshwork.Proofs.Mesh.Authenticity
import Meshwork.Proofs.Route.Table
import Meshwork.Proofs.Router.Learning
import Meshwork.Proofs.Station.Conduct
import Meshwork.Proofs.Station.Usability
import Meshwork.Proofs.Crypto.Opening
import Meshwork.Proofs.Walk
import Meshwork.Proofs.Device.Setup
import Meshwork.Proofs.Station.Working
import Meshwork.Proofs.Station.Hearing
import Meshwork.Proofs.Simulation.Draining
import Meshwork.Proofs.Mesh.LearnedRoutes
import Meshwork.Proofs.Simulation.Steps
import Meshwork.Proofs.Simulation.Sending
import Meshwork.Proofs.Simulation.Flood
import Meshwork.Proofs.Station.Exchange
import Meshwork.Proofs.Simulation.Answer
import Meshwork.Proofs.Handshake.Ledger
import Meshwork.Proofs.Handshake.Advance
import Meshwork.Proofs.Handshake.Refusals
import Meshwork.Proofs.Handshake.Completion
import Meshwork.Proofs.Network.Exchanges
import Meshwork.Proofs.Network.Joining
import Meshwork.Proofs.Duplicates.Log
import Meshwork.Proofs.Station.Emissions
import Meshwork.Proofs.Station.Chains
import Meshwork.Proofs.Device.Emissions
import Meshwork.Proofs.Handshake.Undated
import Meshwork.Proofs.Device.Deadlines
import Meshwork.Proofs.Crypto.Salts
import Meshwork.Proofs.Station.Refusal
import Meshwork.Proofs.Device.Refusal
import Meshwork.Proofs.Storage
import Meshwork.Proofs.Json.Reading
import Meshwork.Proofs.Json.Records
import Meshwork.Proofs.Route.Snapshot
import Meshwork.Proofs.Device.Restart
import Meshwork.Proofs.Handshake.Isolation
import Meshwork.Proofs.Station.Keyless
import Meshwork.Proofs.Route.Histories
import Meshwork.Proofs.Station.Following
import Meshwork.Proofs.Device.Workings
import Meshwork.Proofs.Device.Freshness
import Meshwork.Proofs.Route.Ranking
import Meshwork.Proofs.Route.Eviction
import Meshwork.Proofs.Router.Verdicts
import Meshwork.Proofs.Station.Reports
import Meshwork.Proofs.Device.Dropping
import Meshwork.Proofs.Station.Losses
import Meshwork.Proofs.Station.Limits
import Meshwork.Proofs.Device.Interrupted
import Meshwork.Proofs.Device.Queues
import Meshwork.Proofs.Simulation.Balance
import Meshwork.Proofs.Simulation.Connectivity
import Meshwork.Proofs.CommandLine.Hexadecimal
import Meshwork.Proofs.Config.Text
import Meshwork.Proofs.Simulation.Deliveries
import Meshwork.Proofs.Duplicates.Room
import Meshwork.Proofs.Duplicates.Sweeping
import Meshwork.Proofs.Handshake.Stages
import Meshwork.Proofs.Station.Hops
