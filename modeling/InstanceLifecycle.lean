import InstanceLifecycle.Text.Blank
import InstanceLifecycle.Text.Digits
import InstanceLifecycle.Table
import InstanceLifecycle.Duration.Basic
import InstanceLifecycle.Duration.Reader
import InstanceLifecycle.Duration.Printer
import InstanceLifecycle.Timer
import InstanceLifecycle.Decimal.Shortest
import InstanceLifecycle.Json.Writer
import InstanceLifecycle.Json.Reader
import InstanceLifecycle.Http
import InstanceLifecycle.Instance
import InstanceLifecycle.Backoff
import InstanceLifecycle.Counters
import InstanceLifecycle.Text.Quoted
import InstanceLifecycle.Log.Entry
import InstanceLifecycle.Settings.Resolve
import InstanceLifecycle.Yaml.Scalar
import InstanceLifecycle.Yaml.Event
import InstanceLifecycle.Yaml.Node
import InstanceLifecycle.Settings.Document
import InstanceLifecycle.Settings.Layered
import InstanceLifecycle.Policy.Resolve
import InstanceLifecycle.Policy.Summary
import InstanceLifecycle.Weight.Compute
import InstanceLifecycle.Event.Basic
import InstanceLifecycle.Event.Timestamp
import InstanceLifecycle.Registration.State
import InstanceLifecycle.Effect
import InstanceLifecycle.Gate.Basic
import InstanceLifecycle.Event.Report
import InstanceLifecycle.Event.Delivery
import InstanceLifecycle.Event.Reporter
import InstanceLifecycle.Probe.Server
import InstanceLifecycle.Probe.Listen
import InstanceLifecycle.Failure
import InstanceLifecycle.Lifecycle.Controller
import InstanceLifecycle.Lifecycle.Register
import InstanceLifecycle.Lifecycle.Deregister
import InstanceLifecycle.Lifecycle.Warmup
import InstanceLifecycle.Lifecycle.Replies
import InstanceLifecycle.Lifecycle.Traffic
import InstanceLifecycle.Weight.Adjuster
import InstanceLifecycle.Rehearsal.Script
import InstanceLifecycle.Rehearsal.Task
import InstanceLifecycle.Rehearsal.World
import InstanceLifecycle.Rehearsal.Turn
import InstanceLifecycle.Rehearsal.Session
import InstanceLifecycle.Rehearsal.Setup
import InstanceLifecycle.Log.Install
import InstanceLifecycle.Proofs.Registration.History
import InstanceLifecycle.Proofs.Gate.Passage
import InstanceLifecycle.Proofs.Gate.Course
import InstanceLifecycle.Proofs.Traffic.Basic
import InstanceLifecycle.Proofs.Traffic.Standing
import InstanceLifecycle.Proofs.Traffic.Exclusion
import InstanceLifecycle.Proofs.Traffic.Outline
import InstanceLifecycle.Proofs.Traffic.Story
import InstanceLifecycle.Proofs.Traffic.Sequence
import InstanceLifecycle.Proofs.Traffic.Outcome
import InstanceLifecycle.Proofs.Traffic.Reports
import InstanceLifecycle.Proofs.Traffic.Overtaking
import InstanceLifecycle.Proofs.Traffic.Counts
import InstanceLifecycle.Proofs.Event.Chain
import InstanceLifecycle.Proofs.Rehearsal.Turns
import InstanceLifecycle.Proofs.Rehearsal.Sessions
import InstanceLifecycle.Proofs.Traffic.Readiness
import InstanceLifecycle.Proofs.Event.Words
import InstanceLifecycle.Proofs.Traffic.Cycle
import InstanceLifecycle.Proofs.Traffic.Abandonment
import InstanceLifecycle.Proofs.Traffic.Retraction
import InstanceLifecycle.Proofs.Rule.Section
import InstanceLifecycle.Proofs.Policy.Paths
import InstanceLifecycle.Proofs.Policy.Merging
import InstanceLifecycle.Proofs.Text.Digits
import InstanceLifecycle.Proofs.Rule.Acceptance
import InstanceLifecycle.Proofs.Policy.HealthInterval
import InstanceLifecycle.Proofs.Rule.Alike
import InstanceLifecycle.Proofs.Policy.Integers
import InstanceLifecycle.Proofs.Probe.Installation
import InstanceLifecycle.Proofs.Probe.Lifetime
import InstanceLifecycle.Proofs.Probe.Demands
import InstanceLifecycle.Proofs.Log.Lines
import InstanceLifecycle.Proofs.Log.Order
import InstanceLifecycle.Proofs.Refresh.Basic
import InstanceLifecycle.Proofs.Refresh.Invalidation
import InstanceLifecycle.Proofs.Refresh.Line
import InstanceLifecycle.Proofs.Refresh.Sharing
import InstanceLifecycle.Proofs.Event.Consumer
import InstanceLifecycle.Proofs.Event.Attempts
import InstanceLifecycle.Proofs.Event.Delivery
import InstanceLifecycle.Proofs.Event.Pipeline
import InstanceLifecycle.Proofs.Event.Shutdown
import InstanceLifecycle.Proofs.Json.RoundTrip
import InstanceLifecycle.Proofs.Event.Wire
import InstanceLifecycle.Proofs.Settings.Acceptance
import InstanceLifecycle.Proofs.Settings.Presentation
import InstanceLifecycle.Proofs.Settings.Rules
import InstanceLifecycle.Proofs.Traffic.Refusals
import InstanceLifecycle.Proofs.Traffic.Summaries
import InstanceLifecycle.Proofs.Traffic.Provenance
import InstanceLifecycle.Proofs.Traffic.Warmups
import InstanceLifecycle.Proofs.Traffic.Shutdown
import InstanceLifecycle.Proofs.Traffic.Timers
import InstanceLifecycle.Proofs.Traffic.Likeness
import InstanceLifecycle.Proofs.Traffic.Listener
import InstanceLifecycle.Proofs.Traffic.Projection
import InstanceLifecycle.Proofs.Traffic.Independence
import InstanceLifecycle.Proofs.Weight.Double
import InstanceLifecycle.Proofs.Weight.Protection
import InstanceLifecycle.Proofs.Weight.Growth
