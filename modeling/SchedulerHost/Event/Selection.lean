/-!
# Recorder selection

Events go to one of two backends: structured events to a sink of their own, or the legacy
recorder. The selection tells which, and which API is probed when that decides.
-/

namespace SchedulerHost.Event

/-- How the backend is chosen. -/
inductive Mode where
  | probe
  | forceBroadcast
  | forceCompat
deriving DecidableEq, Inhabited

def Mode.name : Mode → String
  | .probe => "probe"
  | .forceBroadcast => "force-broadcast"
  | .forceCompat => "force-compat"

/-- The API of structured events. -/
def eventsGroupVersion : String := "events.k8s.io/v1beta1"

/-- How the backend is chosen, and the API that is probed. -/
structure Selection where
  groupVersion : String
  mode : Mode
deriving DecidableEq

/-- The selection when nothing is said about it. -/
def Selection.standard : Selection := ⟨eventsGroupVersion, .probe⟩

instance : Inhabited Selection := ⟨Selection.standard⟩

end SchedulerHost.Event
