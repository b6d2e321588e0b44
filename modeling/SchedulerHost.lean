import SchedulerHost.Numeric.Numeral
import SchedulerHost.Numeric.Shortest
import SchedulerHost.Text.Blank
import SchedulerHost.Text.Quoted
import SchedulerHost.Json.Skip
import SchedulerHost.Json.Value
import SchedulerHost.Json.Record
import SchedulerHost.Json.Variant
import SchedulerHost.Time.Instant
import SchedulerHost.Time.Span
import SchedulerHost.Config.Validation
import SchedulerHost.Config.Wire
import SchedulerHost.Config.Overrides
import SchedulerHost.Discovery
import SchedulerHost.Event.Wire
import SchedulerHost.Error
import SchedulerHost.Event.Channel
import SchedulerHost.Feed.Store
import SchedulerHost.Options
import SchedulerHost.Shelf
import SchedulerHost.Event.Fault
import SchedulerHost.Host.Report
import SchedulerHost.Host.Broadcaster
import SchedulerHost.Host.Line
import SchedulerHost.Host.Clock
import SchedulerHost.Host.Informer
import SchedulerHost.Host.Assembly
import SchedulerHost.Host.Backend
import SchedulerHost.Host.Core
import SchedulerHost.Host.Scheduler.Basic
import SchedulerHost.Host.Scheduler.Run
import SchedulerHost.Host.Scheduler.Steps
import SchedulerHost.Host.Scheduler.Construction
import SchedulerHost.Host.Scheduler.Drain
import SchedulerHost.Host.Wait
import SchedulerHost.Host.WaitingRoom
import SchedulerHost.Host.EventDesk
import SchedulerHost.Host.Signals
import SchedulerHost.Host.Scheduler.Session
import SchedulerHost.Proofs.Machine.Likeness
import SchedulerHost.Proofs.Gate.Growth
import SchedulerHost.Proofs.Gate.Reports
import SchedulerHost.Proofs.Gate.Waiting
import SchedulerHost.Proofs.Gate.Telling
import SchedulerHost.Proofs.Text.ByteOrder
import SchedulerHost.Proofs.Gate.Stores
import SchedulerHost.Proofs.Gate.Rooms
import SchedulerHost.Proofs.Scheduler.Aside
import SchedulerHost.Proofs.Scheduler.Life
import SchedulerHost.Proofs.Scheduler.Outcome
import SchedulerHost.Proofs.Scheduler.Construction
import SchedulerHost.Proofs.Scheduler.Admission
import SchedulerHost.Proofs.Scheduler.Readiness
import SchedulerHost.Proofs.Tasks.Performing
import SchedulerHost.Proofs.Tasks.Recording
import SchedulerHost.Proofs.Scheduler.Soundness
import SchedulerHost.Proofs.Scheduler.Standing
import SchedulerHost.Proofs.Scheduler.Journal
import SchedulerHost.Proofs.Scheduler.Idling
import SchedulerHost.Proofs.Scheduler.Closing
import SchedulerHost.Proofs.Scheduler.Draining
import SchedulerHost.Proofs.Scheduler.Attaining
import SchedulerHost.Proofs.Scheduler.Drained
import SchedulerHost.Proofs.Scheduler.Underway
import SchedulerHost.Proofs.Tasks.Accounting
import SchedulerHost.Proofs.Scheduler.Ending
import SchedulerHost.Proofs.Scheduler.OneBackend
import SchedulerHost.Proofs.Scheduler.Isolation
import SchedulerHost.Proofs.Config.RoundTrip
import SchedulerHost.Proofs.Config.Validation
import SchedulerHost.Proofs.Event.RoundTrip
import SchedulerHost.Proofs.Scheduler.Building
import SchedulerHost.Proofs.Scheduler.Once
import SchedulerHost.Proofs.Config.Overriding
import SchedulerHost.Proofs.Store.Relisting
import SchedulerHost.Proofs.Json.Grammar
import SchedulerHost.Proofs.Json.Skipping
import SchedulerHost.Proofs.Store.Sharing
import SchedulerHost.Proofs.Config.Members
import SchedulerHost.Proofs.Config.Integers
import SchedulerHost.Proofs.Signals.Agreement
