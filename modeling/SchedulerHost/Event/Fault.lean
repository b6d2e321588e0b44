/-!
# Event faults

Why events are not recorded.
-/

namespace SchedulerHost.Event

/-- Why events are not recorded. -/
inductive Fault where
  | alreadyRecording
  | sink (reason : String)
deriving DecidableEq

def Fault.message : Fault → String
  | .alreadyRecording => "Event broadcaster is already recording to its sink"
  | .sink reason => "Event sink rejected event: " ++ reason

end SchedulerHost.Event
