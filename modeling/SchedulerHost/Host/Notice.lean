import SchedulerHost.Event.Fault
import SchedulerHost.Event.Selection
import SchedulerHost.Feed.Gate
import SchedulerHost.Text.Quoted

/-!
# Notices

What a host writes about itself: how much it matters, which part of the host and which task it
comes from, its wording and its particulars.
-/

namespace SchedulerHost.Host

open Feed (FeedId)

/-- The two ways of recording events. -/
inductive BackendKind where
  | structured
  | legacy
deriving DecidableEq

def BackendKind.label : BackendKind → String
  | .structured => "RecorderFactory::Broadcast"
  | .legacy => "RecorderFactory::Compat"

/-- How much a notice matters. -/
inductive Level where
  | trace
  | debug
  | info
  | warn
  | error
deriving DecidableEq

def Level.name : Level → String
  | .trace => "TRACE"
  | .debug => "DEBUG"
  | .info => "INFO"
  | .warn => "WARN"
  | .error => "ERROR"

/-- The task in which something is noticed. -/
inductive Scope where
  | outside
  | informer (feed : FeedId)
  | core
deriving DecidableEq

def Scope.name : Scope → String
  | .outside => ""
  | .informer feed => "informer\x7bfeed=" ++ feed ++ "\x7d"
  | .core => "scheduler"

/-- What the host writes about itself. -/
inductive Notice where
  | feedRegistered (feed : FeedId)
  | feedSynced (feed : FeedId)
  | unknownFeedReported (feed : FeedId)
  | informerStarted
  | informerStopped
  | eventsServed (groupVersion : String)
  | eventsNotServed (groupVersion reason : String)
  | structuredRecorder (mode : Event.Mode)
  | noEventClient
  | legacyRecorder (mode : Event.Mode)
  | recordingStarted
  | recordingStopped
  | eventRefused (reason : String)
  | eventsLagged (skipped : Nat)
  | eventDropped (reason : String)
  | buildFailed (reason : String)
  | constructed (profiles feeds : Nat) (recorder : BackendKind)
  | runIgnored
  | recordingNotStarted (fault : Event.Fault)
  | awaitingCaches (feeds : Nat)
  | factoryUnsynced (names : List String)
  | syncFailed (pending : List String)
  | cachesSynced (feeds : Nat)
  | shutdownReceived
  | taskStopped (task : String)
  | taskFailed (task panic : String)
  | drained
  | drainTimedOut (remaining : List String)
  | cancelledElsewhere
  | interruptReceived
  | terminateReceived
  | gracefulShutdown
deriving DecidableEq

namespace Notice

def level : Notice → Level
  | .eventDropped _ => .trace
  | .feedRegistered _ | .feedSynced _ | .informerStarted | .informerStopped | .eventsServed _
  | .eventsNotServed _ _ | .recordingStarted | .recordingStopped | .taskStopped _
  | .cancelledElsewhere => .debug
  | .structuredRecorder _ | .legacyRecorder _ | .constructed _ _ _ | .awaitingCaches _
  | .cachesSynced _ | .shutdownReceived | .drained | .interruptReceived | .terminateReceived
  | .gracefulShutdown => .info
  | .unknownFeedReported _ | .noEventClient | .eventRefused _ | .eventsLagged _ | .runIgnored
  | .recordingNotStarted _ | .factoryUnsynced _ | .taskFailed _ _ | .drainTimedOut _ => .warn
  | .buildFailed _ | .syncFailed _ => .error

/-- The part of the host that writes a notice. -/
def target : Notice → String
  | .feedRegistered _ | .feedSynced _ | .unknownFeedReported _ => "multisched::cache::gate"
  | .informerStarted | .informerStopped => "multisched::informer"
  | .eventsServed _ | .eventsNotServed _ _ | .structuredRecorder _ | .noEventClient
  | .legacyRecorder _ => "multisched::events::factory"
  | .recordingStarted | .recordingStopped | .eventRefused _ | .eventsLagged _
  | .eventDropped _ => "multisched::events::broadcaster"
  | .cancelledElsewhere | .interruptReceived | .terminateReceived
  | .gracefulShutdown => "multisched::lifecycle::shutdown"
  | _ => "multisched::lifecycle::coordinator"

def message : Notice → String
  | .feedRegistered _ => "Feed registered"
  | .feedSynced _ => "Feed synced"
  | .unknownFeedReported _ => "Ignoring sync report for unregistered feed"
  | .informerStarted => "Informer started"
  | .informerStopped => "Informer stopped"
  | .eventsServed _ => "Events API served"
  | .eventsNotServed _ _ => "Events API not served"
  | .structuredRecorder _ => "Using structured event recorder"
  | .noEventClient =>
    "Events API available but no event client configured, using legacy recorder"
  | .legacyRecorder _ => "Using legacy event recorder"
  | .recordingStarted => "Recording events to sink"
  | .recordingStopped => "Stopped recording events"
  | .eventRefused reason => (Event.Fault.sink reason).message
  | .eventsLagged _ => "Event recorder lagged, events dropped"
  | .eventDropped _ => "Dropping event, broadcaster not recording"
  | .buildFailed reason => "Failed to build scheduler: " ++ reason
  | .constructed _ _ _ => "Scheduler constructed"
  | .runIgnored => "Scheduler already started, ignoring run"
  | .recordingNotStarted fault => "Event broadcaster not started: " ++ fault.message
  | .awaitingCaches _ => "Waiting for caches to sync"
  | .factoryUnsynced _ => "Informer factory caches not synced"
  | .syncFailed _ => "Failed to wait cache sync"
  | .cachesSynced _ => "Caches synced, scheduler running"
  | .shutdownReceived => "Shutdown signal received, scheduler stopping"
  | .taskStopped _ => "Task stopped"
  | .taskFailed _ panic =>
    "Task ended abnormally: task N panicked with message " ++ Text.quoted panic
  | .drained => "Scheduler drained"
  | .drainTimedOut _ => "Drain timed out, aborted remaining tasks"
  | .cancelledElsewhere => "Shutdown token cancelled elsewhere"
  | .interruptReceived => "Received Ctrl+C signal"
  | .terminateReceived => "Received SIGTERM signal"
  | .gracefulShutdown => "Starting graceful shutdown..."

def countText (n : Nat) : String := String.ofList (Numeric.digits n)

/-- The particulars of a notice, by name. -/
def fields : Notice → List (String × String)
  | .feedRegistered feed | .feedSynced feed | .unknownFeedReported feed => [("feed", feed)]
  | .eventsServed groupVersion => [("group_version", groupVersion)]
  | .eventsNotServed groupVersion reason => [("group_version", groupVersion), ("error", reason)]
  | .structuredRecorder mode | .legacyRecorder mode => [("mode", mode.name)]
  | .eventsLagged skipped => [("skipped", countText skipped)]
  | .eventDropped reason => [("reason", reason)]
  | .constructed profiles feeds recorder =>
    [("profiles", countText profiles), ("feeds", countText feeds), ("recorder", recorder.label)]
  | .awaitingCaches feeds | .cachesSynced feeds => [("feeds", countText feeds)]
  | .factoryUnsynced names => [("unsynced", Text.quotedList names)]
  | .syncFailed pending => [("pending", Text.quotedList pending)]
  | .taskStopped task | .taskFailed task _ => [("task", task)]
  | .drainTimedOut remaining => [("remaining", Text.quotedList remaining)]
  | _ => []

end Notice

end SchedulerHost.Host
