import SchedulerHost.Event.Basic
import SchedulerHost.Host.Notice
import SchedulerHost.Json.Value
import SchedulerHost.Options

/-!
# Calls

What a host and its collaborators ask of each other.
-/

namespace SchedulerHost.Host

open Feed (FeedId)

abbrev FeedsView := List (FeedId × List (String × Json.Value))

/-- What a builder is given. -/
structure BuildRequest where
  podFeed : FeedId
  recorder : BackendKind
  isShutdown : Bool
  options : Options

/-- What the host and its collaborators ask of each other. -/
inductive Call where
  | probe (groupVersion : String)
  | build (request : BuildRequest)
  | factoryStart
  | factoryWait
  | informerRun (feed : FeedId)
  | informerSync (feed : FeedId) (transitioned : Bool)
  | informerStop (feed : FeedId)
  | coreRun (feeds : FeedsView)
  | coreLook (feeds : FeedsView)
  | coreStop
  /-- The sink takes an event, its `count`-th. -/
  | sinkAccept (count : Nat) (event : Event)
  | sinkRefuse (event : Event)
  | legacyRecorder (source : Event.Source)
  | legacyEvent (component : String) (regarding : Event.ObjectRef) (kind : Event.Kind)
      (reason message : String)

def Call.actor : Call → String
  | .probe _ | .build _ | .factoryStart | .factoryWait => "main"
  | .informerRun feed | .informerSync feed _ | .informerStop feed => "informer/" ++ feed
  | .coreRun _ | .coreLook _ | .coreStop => "core"
  | .sinkAccept _ _ | .sinkRefuse _ => "sink"
  | .legacyRecorder _ | .legacyEvent _ _ _ _ _ => "legacy"

end SchedulerHost.Host
