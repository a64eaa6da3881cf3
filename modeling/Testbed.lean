import Testbed.Data.StrictOrder
import Testbed.Data.Dict
import Testbed.Data.SortedSet
import Testbed.Number.Binary64
import Testbed.Number.Shortest
import Testbed.Text.Blank
import Testbed.Text.Digit
import Testbed.Text.Invisible
import Testbed.Text.Quoted
import Testbed.Time.Timestamp
import Testbed.Time.Text
import Testbed.Time.Deadline
import Testbed.Digest.Sha256
import Testbed.Json.Basic
import Testbed.Json.Argument
import Testbed.Json.Number
import Testbed.Json.Reader
import Testbed.Json.Record
import Testbed.Json.Wire
import Testbed.Json.Writer
import Testbed.Capability.Choice
import Testbed.Capability.CountSpace
import Testbed.Capability.Fixed
import Testbed.Capability.Narrowing
import Testbed.Capability.RangeValue
import Testbed.Capability.Reason
import Testbed.Space.Canonical
import Testbed.Space.EnvironmentSpace
import Testbed.Space.FeatureSettings
import Testbed.Space.Kinds
import Testbed.Space.NodeSpace
import Testbed.Space.Resolution
import Testbed.Space.Wire
import Testbed.Runbook
import Testbed.CommandLine.Arguments
import Testbed.CommandLine.Report
import Testbed.Result.Outcome
import Testbed.Result.Status
import Testbed.Result.TestResult
import Testbed.Secret
import Testbed.Files
import Testbed.Metrics
import Testbed.Event
import Testbed.Program
import Testbed.Message.Basic
import Testbed.Message.Builder
import Testbed.Message.Fields
import Testbed.Message.Performance
import Testbed.Notify.Sinks
import Testbed.Platform.Call
import Testbed.Platform.Connection
import Testbed.Platform.Error
import Testbed.Platform.Feature
import Testbed.Platform.FeatureRegistry
import Testbed.Platform.Power
import Testbed.Environment.Action
import Testbed.Environment.Basic
import Testbed.Environment.Node
import Testbed.Environment.Status
import Testbed.Lifecycle.CaseRunner
import Testbed.Lifecycle.Config
import Testbed.Lifecycle.Error
import Testbed.Lifecycle.Manager
import Testbed.Lifecycle.Pool
import Testbed.Lifecycle.Report
import Testbed.Lifecycle.Request
import Testbed.Lifecycle.Retry
import Testbed.BareMetal.Config
import Testbed.BareMetal.Deployment
import Testbed.BareMetal.Error
import Testbed.BareMetal.IpGetter
import Testbed.BareMetal.RackManager
import Testbed.BareMetal.ReadyChecker
import Testbed.BareMetal.Registry
import Testbed.Simulation.Bench
import Testbed.Simulation.Clock
import Testbed.Simulation.Connector
import Testbed.Simulation.Platform
import Testbed.Simulation.PowerTimeline
import Testbed.Simulation.RetryTimeline
import Testbed.Simulation.Script
import Testbed.Simulation.World
import Testbed.Main
import Testbed.Proofs.Outcomes
import Testbed.Proofs.Capability.Laws
import Testbed.Proofs.Capability.Bounds
import Testbed.Proofs.Capability.Ranges
import Testbed.Proofs.Capability.Counts
import Testbed.Proofs.Capability.Choices
import Testbed.Proofs.Capability.Agreement
import Testbed.Proofs.Space.Assignment
import Testbed.Proofs.Space.Resolution
import Testbed.Proofs.Lifecycle.Traffic
import Testbed.Proofs.Lifecycle.Environment
import Testbed.Proofs.Lifecycle.Pool
import Testbed.Proofs.Lifecycle.Contract
import Testbed.Proofs.Lifecycle.Work
import Testbed.Proofs.Lifecycle.Tasks
import Testbed.Proofs.Lifecycle.Turns
import Testbed.Proofs.Lifecycle.Accounting
import Testbed.Proofs.Lifecycle.HandOut
import Testbed.Proofs.Lifecycle.Body
import Testbed.Proofs.Lifecycle.Scoped
import Testbed.Proofs.Space.Agreement
import Testbed.Proofs.Space.Settings
import Testbed.Proofs.Space.Features
import Testbed.Proofs.Space.Nodes
import Testbed.Proofs.Space.Idempotence
import Testbed.Proofs.Capability.Picks
import Testbed.Proofs.Space.Picks
import Testbed.Proofs.Space.Regrouping
import Testbed.Proofs.Program.Journal
import Testbed.Proofs.Result.Journey
import Testbed.Proofs.Lifecycle.Journal
import Testbed.Proofs.Lifecycle.CaseProtocol
import Testbed.Proofs.Lifecycle.Reuse
import Testbed.Proofs.Lifecycle.Alone
import Testbed.Proofs.Lifecycle.CaseCleanUp
import Testbed.Proofs.Program.Invariant
import Testbed.Proofs.Lifecycle.Invariant
import Testbed.Proofs.Environment.Nodes
import Testbed.Proofs.BareMetal.Deployment
import Testbed.Proofs.Lifecycle.Upkeep
import Testbed.Proofs.Lifecycle.Provision
import Testbed.Proofs.BareMetal.Isolation
import Testbed.Proofs.Program.Winding
import Testbed.Proofs.Lifecycle.Changes
import Testbed.Proofs.Lifecycle.Consistency
import Testbed.Proofs.Lifecycle.Winding
import Testbed.Proofs.Lifecycle.Closing
import Testbed.Proofs.Lifecycle.Halting
import Testbed.Proofs.Lifecycle.Deletion
import Testbed.Proofs.Lifecycle.WindDown
import Testbed.Proofs.Lifecycle.Cancellation
import Testbed.Proofs.Lifecycle.CaseCancellation
import Testbed.Proofs.Text.Digits
import Testbed.Proofs.Data.Gives
import Testbed.Proofs.Number.Binary64
import Testbed.Proofs.Time.Text
import Testbed.Proofs.Json.Literals
import Testbed.Proofs.Json.Printable
import Testbed.Proofs.Json.Doubles
import Testbed.Proofs.Json.Text
import Testbed.Proofs.Json.Lossless
import Testbed.Proofs.Json.Proper
import Testbed.Proofs.Digest.HexDigest
import Testbed.Proofs.Space.Canonical
import Testbed.Proofs.Message.Performance
import Testbed.Proofs.Message.RoundTrip
import Testbed.Proofs.Json.Alike
import Testbed.Proofs.BareMetal.Credentials
import Testbed.Proofs.Files
import Testbed.Proofs.Message.Line
import Testbed.Proofs.Notify.Delivery
import Testbed.Proofs.CommandLine.Agreement
import Testbed.Proofs.Lifecycle.Retry
import Testbed.Proofs.Simulation.RetryTimeline
import Testbed.Proofs.Lifecycle.Yields
import Testbed.Proofs.Lifecycle.Shutdown
import Testbed.Proofs.Lifecycle.Connecting
import Testbed.Proofs.Program.Checked
import Testbed.Proofs.Lifecycle.Overflow
import Testbed.Proofs.Lifecycle.Deploying
import Testbed.Proofs.Capability.Allowed
import Testbed.Proofs.Space.FirstFit
import Testbed.Proofs.Space.Homogeneous
import Testbed.Proofs.Space.Mirroring
import Testbed.Proofs.Message.Fields
import Testbed.Proofs.Message.Records
import Testbed.Proofs.Message.Setting
import Testbed.Proofs.Message.Facts
import Testbed.Proofs.Message.Reports
import Testbed.Proofs.Message.Measures
import Testbed.Proofs.Message.Precedence
import Testbed.Proofs.Message.Kinds
import Testbed.Proofs.Message.Frame
import Testbed.Proofs.Message.Taking
import Testbed.Proofs.Message.Blame
import Testbed.Proofs.Message.SubResults
import Testbed.Proofs.Platform.PowerWait
import Testbed.Proofs.Runbook.Problems
import Testbed.Proofs.BareMetal.Readiness
import Testbed.Proofs.Program.Log
import Testbed.Proofs.BareMetal.Attempt
import Testbed.Proofs.BareMetal.Resets
import Testbed.Proofs.BareMetal.Faults
import Testbed.Proofs.BareMetal.Settling
import Testbed.Proofs.BareMetal.Leftovers
import Testbed.Proofs.Text.Patterns
import Testbed.Proofs.BareMetal.Addresses
import Testbed.Proofs.BareMetal.AddressPattern
import Testbed.Proofs.Result.History
