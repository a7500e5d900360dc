import UpdatePipeline.Json.Printer
import UpdatePipeline.Main
import UpdatePipeline.Proofs.Program.Trace
import UpdatePipeline.Proofs.Program.Run
import UpdatePipeline.Proofs.Peers
import UpdatePipeline.Proofs.Recovery.Scope
import UpdatePipeline.Proofs.Recovery.Resumption
import UpdatePipeline.Proofs.Intake.Batch
import UpdatePipeline.Proofs.Delivery
import UpdatePipeline.Proofs.Dispatcher.Pool
import UpdatePipeline.Proofs.Dispatcher.Accounts
import UpdatePipeline.Proofs.Dispatcher.Chronicle
import UpdatePipeline.Proofs.Dispatcher.Staffing
import UpdatePipeline.Proofs.Dispatcher.Lifecycle
import UpdatePipeline.Proofs.Dispatcher.Scheduling
import UpdatePipeline.Proofs.Program.Determinism
import UpdatePipeline.Proofs.Records
import UpdatePipeline.Proofs.Recovery.Gaps
import UpdatePipeline.Proofs.Recovery.CatchingUp
import UpdatePipeline.Proofs.Intake.ShortMessage
import UpdatePipeline.Proofs.Intake.Positions
import UpdatePipeline.Proofs.Store.Binary
import UpdatePipeline.Proofs.Store.Durability
import UpdatePipeline.Proofs.Store.Backends
import UpdatePipeline.Proofs.Registry
import UpdatePipeline.Proofs.Delivery.FirstMatch
import UpdatePipeline.Proofs.Cache
import UpdatePipeline.Proofs.Parsed.Memory
import UpdatePipeline.Proofs.Registry.History
import UpdatePipeline.Proofs.Dispatcher.Running
import UpdatePipeline.Proofs.Dispatcher.Snapshots
import UpdatePipeline.Proofs.Dispatcher.Rest
import UpdatePipeline.Proofs.Dispatcher.Instant
import UpdatePipeline.Proofs.Program.Invokes
import UpdatePipeline.Proofs.Simulation.Respects
import UpdatePipeline.Proofs.Simulation.Invariants
import UpdatePipeline.Proofs.Simulation.Session
import UpdatePipeline.Proofs.Simulation.Lifecycle
import UpdatePipeline.Proofs.Simulation.Workers
import UpdatePipeline.Proofs.Program.Unwritten
import UpdatePipeline.Proofs.Simulation.Traces
import UpdatePipeline.Proofs.Simulation.Keeping
import UpdatePipeline.Proofs.Simulation.Skipping
import UpdatePipeline.Proofs.Json.Respelling
import UpdatePipeline.Proofs.Json.Faithful
import UpdatePipeline.Proofs.Schema.Spelling
import UpdatePipeline.Proofs.Dispatcher.Delivering
import UpdatePipeline.Proofs.Simulation.Courses
import UpdatePipeline.Proofs.Simulation.Underway
import UpdatePipeline.Proofs.Simulation.Watched
import UpdatePipeline.Proofs.Replay.Writing
import UpdatePipeline.Proofs.Replay.Completion
import UpdatePipeline.Proofs.Recovery.Stalls
import UpdatePipeline.Proofs.Store.Grammar
import UpdatePipeline.Proofs.Recovery.Pageless
import UpdatePipeline.Proofs.Cache.Retention
import UpdatePipeline.Proofs.Simulation.NetworkFailures
import UpdatePipeline.Proofs.Registry.Managing
import UpdatePipeline.Proofs.Simulation.Rounds
import UpdatePipeline.Proofs.Error
import UpdatePipeline.Proofs.Filter
import UpdatePipeline.Proofs.Filter.Commands
import UpdatePipeline.Proofs.Parsed.Chats
