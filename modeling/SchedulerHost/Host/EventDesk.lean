import SchedulerHost.Host.Backend
import SchedulerHost.Host.Clock

/-!
# Event desks

A backend of events with the recorders that were made for it. The recorders outlive the backend:
what they record is delivered until the last of them is gone.
-/

namespace SchedulerHost.Host

/-- A recorder: one that the backend made for a component, or a legacy recorder. -/
inductive Recorder where
  | ofBackend (component : String)
  | legacy (source : Event.Source)
deriving DecidableEq

/-- A backend, which may be held no longer, and the recorders;
one that is gone leaves its place empty. -/
structure EventDesk where
  surroundings : Surroundings
  backend : Backend
  isHeld : Bool
  recorders : List (Option Recorder)

namespace EventDesk

def new (s : Surroundings) (backend : Backend) : EventDesk := ⟨s, backend, true, []⟩

/-! ### Proceeding -/

/-- The recording is the only one who proceeds. -/
instance : Machine EventDesk Unit where
  now d := d.surroundings.now
  setNow t d := { d with surroundings := { d.surroundings with now := t } }
  line _ := ⟨[()], [()]⟩
  setLine _ d := d
  poll? _ d := (d.backend.step? d.surroundings).map fun (s, b) =>
    { d with surroundings := s, backend := b }
  alarms d := d.backend.alarms
  work d := d.backend.work

def isRecording? (d : EventDesk) : Option Bool :=
  if d.isHeld then d.backend.isRecording? else none

def recording? (d : EventDesk) : Option Recording := d.backend.broadcaster?.bind (·.recording)

/-! ### Commands -/

inductive Command where
  | newRecorder (component : String)
  | newLegacyRecorder (source : Event.Source)
  | record (recorder : Nat) (remarks : List Event.Remark)
  | startRecording (stop : Token)
  | cancel (token : Token)
  | dropBackend
  | dropRecorder (recorder : Nat)
  | advance (ms : Nat)

inductive Reply where
  | done
  | number (n : Nat)
  | dropped
  | noBroadcaster
  | refused (fault : Event.Fault)

/-- Makes a recorder for a component, while the backend is held. -/
def newRecorder (d : EventDesk) (component : String) : EventDesk × Reply :=
  if d.isHeld then
    let (s, b) := d.backend.newRecorder d.surroundings component
    let recorders := d.recorders ++ [some (.ofBackend component)]
    ({ d with surroundings := s, backend := b, recorders := recorders },
      .number d.recorders.length)
  else (d, .dropped)

def newLegacyRecorder (d : EventDesk) (source : Event.Source) : EventDesk × Reply :=
  ({ d with
    surroundings := d.surroundings.call (.legacyRecorder source)
    recorders := d.recorders ++ [some (.legacy source)] }, .number d.recorders.length)

def emit (recorder : Recorder) (d : EventDesk) (remark : Event.Remark) : EventDesk :=
  match recorder with
  | .ofBackend component =>
    let (s, b) := d.backend.emit d.surroundings .outside component remark
    { d with surroundings := s, backend := b }
  | .legacy source =>
    { d with surroundings := Backend.emitLegacy d.surroundings source.component remark }

/-- Records remarks, one right after the other. -/
def record (d : EventDesk) (recorder : Nat) (remarks : List Event.Remark) : EventDesk × Reply :=
  match d.recorders[recorder]? with
  | some (some r) => (remarks.foldl (emit r) d, .done)
  | _ => (d, .dropped)

/-- Starts the recording, while the backend is held. -/
def startRecording (d : EventDesk) (stop : Token) : EventDesk × Reply :=
  match d.isHeld, d.backend with
  | true, .structured b =>
    match b.start stop with
    | .ok b => ({ d with backend := .structured b }, .done)
    | .error fault => (d, .refused fault)
  | _, _ => (d, .noBroadcaster)

def dropRecorder (d : EventDesk) (recorder : Nat) : EventDesk :=
  let d' := { d with recorders := d.recorders.set recorder none }
  match d.recorders[recorder]? with
  -- A legacy recorder is no sender of the backend.
  | some (some (.ofBackend _)) => { d' with backend := d.backend.release }
  | _ => d'

/-- Does what is asked, without letting the recording proceed. -/
def perform (d : EventDesk) : Command → EventDesk × Reply
  | .newRecorder component => d.newRecorder component
  | .newLegacyRecorder source => d.newLegacyRecorder source
  | .record recorder remarks => d.record recorder remarks
  | .startRecording stop => d.startRecording stop
  | .cancel token => ({ d with surroundings := d.surroundings.cancel token }, .done)
  | .dropBackend =>
    (if d.isHeld then { d with isHeld := false, backend := d.backend.release } else d, .done)
  | .dropRecorder recorder => (d.dropRecorder recorder, .done)
  | .advance ms => (Machine.advance ms d, .done)

end EventDesk

end SchedulerHost.Host
