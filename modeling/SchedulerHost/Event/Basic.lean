import SchedulerHost.Event.Kind
import SchedulerHost.Time.Instant

/-!
# Events

What happened to an object: which controller reports it, the objects concerned, and what it says.
-/

namespace SchedulerHost

namespace Event

/-- A reference to an object. The namespace and the identifier may be empty. -/
structure ObjectRef where
  kind : String
  space : String
  name : String
  uid : String
deriving DecidableEq, Inhabited

/-- The component that emits events, and the host it runs on, which may be empty. -/
structure Source where
  component : String
  host : String
deriving DecidableEq, Inhabited

/-- What an emitter says about something that happened. -/
structure Remark where
  regarding : ObjectRef
  related : Option ObjectRef
  kind : Kind
  reason : String
  action : String
  note : String
deriving DecidableEq, Inhabited

/-- What sets an event apart from others that say the same: when it was made, and a text that is
appended to the name of its object. -/
structure Stamp where
  suffix : String
  time : Time.Instant
deriving DecidableEq

end Event

/-- An event as it is delivered. -/
structure Event where
  name : String
  time : Time.Instant
  controller : String
  regarding : Event.ObjectRef
  related : Option Event.ObjectRef
  kind : Event.Kind
  reason : String
  action : String
  note : String
deriving DecidableEq

def Event.of (stamp : Event.Stamp) (controller : String) (remark : Event.Remark) : Event where
  name := remark.regarding.name ++ "." ++ stamp.suffix
  time := stamp.time
  controller := controller
  regarding := remark.regarding
  related := remark.related
  kind := remark.kind
  reason := remark.reason
  action := remark.action
  note := remark.note

def Event.remark (e : Event) : Event.Remark where
  regarding := e.regarding
  related := e.related
  kind := e.kind
  reason := e.reason
  action := e.action
  note := e.note

end SchedulerHost
