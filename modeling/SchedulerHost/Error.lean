import SchedulerHost.Config.Settings
import SchedulerHost.Config.Validation
import SchedulerHost.Feed.Gate
import SchedulerHost.Json.Fault
import SchedulerHost.Time.Span

/-!
# Errors

Why a scheduler cannot be configured, constructed, run or drained, and the wording of it.
-/

namespace SchedulerHost

/-- What a scheduler needs from outside. -/
inductive Collaborator where
  | client
  | informerFactory
  | podInformer
  | coreBroadcaster
deriving DecidableEq

def Collaborator.name : Collaborator → String
  | .client => "client"
  | .informerFactory => "informer_factory"
  | .podInformer => "pod_informer"
  | .coreBroadcaster => "core_broadcaster"

/-- What is wrong with a configuration. -/
inductive ConfigurationFault where
  | malformed (report : Json.Report)
  | missing (collaborators : List Collaborator)
  | invalid (violation : Config.Violation)
  | setting (fault : Config.SettingFault)
  | feed (fault : Feed.GateFault)
  | stated (message : String)
deriving DecidableEq

def ConfigurationFault.message : ConfigurationFault → String
  | .malformed report => "failed to parse component config: " ++ report.message
  | .missing collaborators =>
    "missing required fields: " ++ ", ".intercalate (collaborators.map (·.name))
  | .invalid violation => violation.message
  | .setting fault => fault.message
  | .feed fault => fault.message
  | .stated message => message

/-- A failure with the failures that led to it, the nearest first. -/
structure Failure where
  message : String
  sources : List String
deriving DecidableEq

/-- The failure told by a list of messages, the outermost first. -/
def Failure.ofChain : List String → Failure
  | [] => ⟨"", []⟩
  | message :: sources => ⟨message, sources⟩

/-- Why a scheduler cannot be configured, constructed, run or drained. -/
inductive Error where
  | configuration (fault : ConfigurationFault)
  | construction (cause : Failure)
  | alreadyStarted
  | cacheSyncTimeout
  | shutdownTimeout (elapsed : Time.Span) (remaining : List String)
deriving DecidableEq

namespace Error

/-- The wording of an error. That of a construction error is its cause's. -/
def message : Error → String
  | .configuration fault => "Invalid configuration: " ++ fault.message
  | .construction cause => cause.message
  | .alreadyStarted => "scheduler already started"
  | .cacheSyncTimeout => "failed to wait cache sync"
  | .shutdownTimeout elapsed remaining =>
    "shutdown timed out after " ++ elapsed.render ++ ", tasks still running: " ++
      Text.quotedList remaining

/-- What led to an error, the nearest first. -/
def sources : Error → List String
  | .construction cause => cause.sources
  | _ => []

def isSyncTimeout : Error → Bool
  | .cacheSyncTimeout => true
  | _ => false

end Error

end SchedulerHost
