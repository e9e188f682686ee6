import ThermalGovernor.Lib.Table
import ThermalGovernor.Lib.Trace
import ThermalGovernor.Lib.Sweep
import ThermalGovernor.Lib.Double
import ThermalGovernor.Lib.Bytes
import ThermalGovernor.Lib.Crc
import ThermalGovernor.Lib.Journal
import ThermalGovernor.Lib.Acyclic
import ThermalGovernor.Lib.Search
import ThermalGovernor.Lib.DepthFirst
import ThermalGovernor.Lib.Stops
import ThermalGovernor.Lib.First
import ThermalGovernor.Lib.Slots
import ThermalGovernor.Lib.Steps
import ThermalGovernor.Lib.Groups
import ThermalGovernor.Lib.Pool
import ThermalGovernor.Lib.Talk
import ThermalGovernor.Core.Identity
import ThermalGovernor.Core.Vocabulary
import ThermalGovernor.Core.Format
import ThermalGovernor.Core.Checksum
import ThermalGovernor.Core.Decimal
import ThermalGovernor.Core.Binary
import ThermalGovernor.Evidence.Record
import ThermalGovernor.Decision.Vocabulary
import ThermalGovernor.Policy.Policy
import ThermalGovernor.Policy.Headroom
import ThermalGovernor.Policy.Recovery
import ThermalGovernor.Topology.Coupling
import ThermalGovernor.Topology.Domain
import ThermalGovernor.Topology.Reachability
import ThermalGovernor.Topology.Cycle
import ThermalGovernor.Evaluation.State
import ThermalGovernor.Evaluation.Evaluate
import ThermalGovernor.Evaluation.AllowSound
import ThermalGovernor.Evaluation.Standing
import ThermalGovernor.Evaluation.Heating
import ThermalGovernor.Evaluation.Demands
import ThermalGovernor.Action.Record
import ThermalGovernor.Action.Verification
import ThermalGovernor.Governor.State
import ThermalGovernor.Governor.Evaluate
import ThermalGovernor.Governor.Topology
import ThermalGovernor.Governor.Workers
import ThermalGovernor.Governor.Publish
import ThermalGovernor.Governor.Admission
import ThermalGovernor.Governor.Actions
import ThermalGovernor.Governor.Verify
import ThermalGovernor.Governor.Durable
import ThermalGovernor.Governor.Explain
import ThermalGovernor.Durable.Records
import ThermalGovernor.Durable.Reads
import ThermalGovernor.Durable.Container
import ThermalGovernor.Durable.Entries
import ThermalGovernor.Durable.Sound
import ThermalGovernor.Durable.Bytes
import ThermalGovernor.Durable.RoundTrip
import ThermalGovernor.Durable.Store
import ThermalGovernor.Protocol.Frame
import ThermalGovernor.Protocol.Stream
import ThermalGovernor.Transport.Handles
import ThermalGovernor.Wire.Codec
import ThermalGovernor.Wire.Reads
import ThermalGovernor.Wire.Sound
import ThermalGovernor.Wire.Summary
import ThermalGovernor.Wire.Command
import ThermalGovernor.Session.Texts
import ThermalGovernor.Session.Render
import ThermalGovernor.Session.Parse
import ThermalGovernor.Session.Handle
import ThermalGovernor.Session.Errors
import ThermalGovernor.Session.Widths
import ThermalGovernor.Session.Program
import ThermalGovernor.Session.Served
import ThermalGovernor.Ledger.Moves
import ThermalGovernor.Ledger.Refines
import ThermalGovernor.Ledger.Run
import ThermalGovernor.Ledger.Lifecycle
import ThermalGovernor.Governed.Writes
import ThermalGovernor.Governed.Refines
import ThermalGovernor.Governed.Reached
import ThermalGovernor.Governed.Rests
import ThermalGovernor.Governed.Rounds
import ThermalGovernor.Governed.Members
import ThermalGovernor.Governed.Registered
import ThermalGovernor.Laws.WorkerFence
import ThermalGovernor.Laws.Hysteresis
import ThermalGovernor.Laws.Sequencing
import ThermalGovernor.Laws.Verification
import ThermalGovernor.Laws.ActionIds
import ThermalGovernor.Laws.Dispatch
import ThermalGovernor.Laws.Epochs
import ThermalGovernor.Laws.Outcomes
import ThermalGovernor.Laws.Witnesses
import ThermalGovernor.Laws.Snapshot
import ThermalGovernor.Laws.Fixpoint
import ThermalGovernor.Laws.Staleness
import ThermalGovernor.Laws.Latch
import ThermalGovernor.Laws.Generations
import ThermalGovernor.Laws.Saves
import ThermalGovernor.Laws.Restart
import ThermalGovernor.Laws.Counters
import ThermalGovernor.Laws.Retirement
import ThermalGovernor.Laws.Restore
import ThermalGovernor.Laws.Policies
import ThermalGovernor.Laws.Codec
import ThermalGovernor.Laws.Framing
import ThermalGovernor.Laws.Definitions
import ThermalGovernor.Laws.Heating
import ThermalGovernor.Laws.Conflict
import ThermalGovernor.Laws.History
import ThermalGovernor.Laws.Admission
import ThermalGovernor.Laws.Authorization
import ThermalGovernor.Laws.Explanations
import ThermalGovernor.Laws.Recovery
import ThermalGovernor.Laws.Finiteness
import ThermalGovernor.Laws.Consistency
import ThermalGovernor.Laws.Aggregation
import ThermalGovernor.Laws.Samples
import ThermalGovernor.Laws.Binding
import ThermalGovernor.Laws.Attainable
import ThermalGovernor.Laws.Capability
import ThermalGovernor.Laws.RecoveryRuns
import ThermalGovernor.Laws.Probe
import ThermalGovernor.Laws.Satisfiable
import ThermalGovernor.Laws.Obstacles
import ThermalGovernor.Laws.Registry
import ThermalGovernor.Laws.Hierarchy
import ThermalGovernor.Laws.Weights
import ThermalGovernor.Laws.Admitting
import ThermalGovernor.Laws.Provenance
import ThermalGovernor.Laws.Improvement
import ThermalGovernor.Laws.Intents
import ThermalGovernor.Laws.Replay
import ThermalGovernor.Laws.Effective
import ThermalGovernor.Laws.Freshness
import ThermalGovernor.Laws.Registration
import ThermalGovernor.Laws.Throttle
import ThermalGovernor.Laws.Duplicates
import ThermalGovernor.Laws.Couplings
import ThermalGovernor.Laws.Wire
import ThermalGovernor.Laws.CouplingTable
import ThermalGovernor.Laws.Window
import ThermalGovernor.Laws.Subjects
import ThermalGovernor.Laws.Binary
import ThermalGovernor.Laws.Reasons
import ThermalGovernor.Laws.LateCodes
import ThermalGovernor.Laws.AnswerOrder
import ThermalGovernor.Laws.Ceilings
import ThermalGovernor.Laws.Reporting
import ThermalGovernor.Laws.Answers
import ThermalGovernor.Laws.Responses
import ThermalGovernor.Server.Answer
import ThermalGovernor.Server.Shape
import ThermalGovernor.Server.Process
import ThermalGovernor.Server.Moves
import ThermalGovernor.Server.History
import ThermalGovernor.Server.Turns
import ThermalGovernor.Server.Alone
import ThermalGovernor.Server.Connections
import ThermalGovernor.Server.Commands
import ThermalGovernor.Server.Shutdown
import ThermalGovernor.Server.Rest
import ThermalGovernor.Server.Replies
import ThermalGovernor.Server.Workers
import ThermalGovernor.Server.Publications
import ThermalGovernor.Server.Conversation
import ThermalGovernor.Client.Group
import ThermalGovernor.Client.Worker
import ThermalGovernor.Client.Rounds
import ThermalGovernor.Client.Runs
import ThermalGovernor.Client.Enrolment
import ThermalGovernor.Client.Ready
import ThermalGovernor.Client.Cli
import ThermalGovernor.Backend.Synthetic
import ThermalGovernor.Backend.Nvml
