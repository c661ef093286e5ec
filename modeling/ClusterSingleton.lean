import ClusterSingleton.Address
import ClusterSingleton.Cluster
import ClusterSingleton.Coordinator
import ClusterSingleton.Envelope
import ClusterSingleton.Error
import ClusterSingleton.Event
import ClusterSingleton.Inbox
import ClusterSingleton.Json.Cluster
import ClusterSingleton.Json.Parser
import ClusterSingleton.Json.Printer
import ClusterSingleton.Json.Read
import ClusterSingleton.Json.Scenario
import ClusterSingleton.Json.Token
import ClusterSingleton.Json.Value
import ClusterSingleton.Machine
import ClusterSingleton.ManagedUnit
import ClusterSingleton.Member
import ClusterSingleton.Message
import ClusterSingleton.Metrics
import ClusterSingleton.Network
import ClusterSingleton.Notifier
import ClusterSingleton.OldestTracker
import ClusterSingleton.PeerRegistry
import ClusterSingleton.Phase
import ClusterSingleton.Proofs.Coordinator.Balance
import ClusterSingleton.Proofs.Coordinator.Course
import ClusterSingleton.Proofs.Coordinator.Housing
import ClusterSingleton.Proofs.Coordinator.Items
import ClusterSingleton.Proofs.Coordinator.Orphans
import ClusterSingleton.Proofs.Coordinator.Restarts
import ClusterSingleton.Proofs.Coordinator.Run
import ClusterSingleton.Proofs.Coordinator.Tallies
import ClusterSingleton.Proofs.Coordinator.Units
import ClusterSingleton.Proofs.Credits.Appointed
import ClusterSingleton.Proofs.Credits.Authority
import ClusterSingleton.Proofs.Credits.Ledger
import ClusterSingleton.Proofs.Credits.Outstanding
import ClusterSingleton.Proofs.Credits.Subscription
import ClusterSingleton.Proofs.Credits.Turns
import ClusterSingleton.Proofs.Json.Grammar
import ClusterSingleton.Proofs.Json.Lexing
import ClusterSingleton.Proofs.Json.Records
import ClusterSingleton.Proofs.Json.RoundTrip
import ClusterSingleton.Proofs.Json.Scenario
import ClusterSingleton.Proofs.Machine.Answers
import ClusterSingleton.Proofs.Machine.Completion
import ClusterSingleton.Proofs.Machine.Duplicates
import ClusterSingleton.Proofs.Machine.Ensemble
import ClusterSingleton.Proofs.Machine.Graph
import ClusterSingleton.Proofs.Machine.History
import ClusterSingleton.Proofs.Machine.Messages
import ClusterSingleton.Proofs.Machine.Peers
import ClusterSingleton.Proofs.Machine.Split
import ClusterSingleton.Proofs.Machine.Strangers
import ClusterSingleton.Proofs.Machine.Stray
import ClusterSingleton.Proofs.Machine.Table
import ClusterSingleton.Proofs.Membership.Age
import ClusterSingleton.Proofs.Membership.Calls
import ClusterSingleton.Proofs.Membership.Following
import ClusterSingleton.Proofs.Membership.InPlace
import ClusterSingleton.Proofs.Membership.Replay
import ClusterSingleton.Proofs.Membership.Views
import ClusterSingleton.Proofs.Removals.Margin
import ClusterSingleton.Proofs.Removals.Memory
import ClusterSingleton.Proofs.Removals.Own
import ClusterSingleton.Proofs.Removals.Retention
import ClusterSingleton.Proofs.Removals.Sweeps
import ClusterSingleton.Proofs.Removals.Targets
import ClusterSingleton.Proofs.Retries.Budget
import ClusterSingleton.Proofs.Retries.Clock
import ClusterSingleton.Proofs.Retries.Counts
import ClusterSingleton.Proofs.Retries.HandOver
import ClusterSingleton.Proofs.Retries.Limits
import ClusterSingleton.Proofs.Retries.Numbers
import ClusterSingleton.Proofs.Retries.Overflow
import ClusterSingleton.Proofs.Retries.TakeOver
import ClusterSingleton.Proofs.Simulation.Books
import ClusterSingleton.Proofs.Simulation.Changes
import ClusterSingleton.Proofs.Simulation.Nodes
import ClusterSingleton.Proofs.Simulation.Passing
import ClusterSingleton.Proofs.Simulation.Tracking
import ClusterSingleton.Proofs.Supervisor.Ends
import ClusterSingleton.Proofs.Supervisor.Reports
import ClusterSingleton.Proofs.Text.Digits
import ClusterSingleton.Proofs.Timers.Acceptance
import ClusterSingleton.Proofs.Timers.Discipline
import ClusterSingleton.Proofs.Timers.Generations
import ClusterSingleton.Proofs.Timers.Origin
import ClusterSingleton.Proofs.Timers.Pending
import ClusterSingleton.Proofs.Timers.Turns
import ClusterSingleton.Proofs.Tracker.AgeList
import ClusterSingleton.Proofs.Tracker.Delivery
import ClusterSingleton.Proofs.Tracker.Members
import ClusterSingleton.Proofs.Tracker.Stream
import ClusterSingleton.Proofs.Units.Account
import ClusterSingleton.Proofs.Units.Lifecycle
import ClusterSingleton.Proofs.Units.Token
import ClusterSingleton.Proofs.Units.Turns
import ClusterSingleton.Proofs.Wire.Address
import ClusterSingleton.Proofs.Wire.Envelope
import ClusterSingleton.Proofs.Wire.Fields
import ClusterSingleton.Proofs.Wire.Identifier
import ClusterSingleton.Proofs.Wire.Time
import ClusterSingleton.RemovedMembers
import ClusterSingleton.Roster
import ClusterSingleton.Scenario
import ClusterSingleton.Settings
import ClusterSingleton.Simulation
import ClusterSingleton.SimulationMetrics
import ClusterSingleton.SplitMachine
import ClusterSingleton.Status
import ClusterSingleton.Supervisor
import ClusterSingleton.Text.Blank
import ClusterSingleton.Text.CharClass
import ClusterSingleton.Text.Cut
import ClusterSingleton.Text.Decimal
import ClusterSingleton.Text.Hex
import ClusterSingleton.Text.Quoted
import ClusterSingleton.Time
import ClusterSingleton.Timers
import ClusterSingleton.Timestamp
import ClusterSingleton.UnitTracker
import ClusterSingleton.Uuid
