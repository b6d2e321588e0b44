import SchedulerHost.Host.Scheduler.Construction
import SchedulerHost.Host.Scheduler.Drain

/-!
# Sessions

What can be asked of a scheduler. While a run is in progress no other run and no drain is begun.
-/

namespace SchedulerHost.Host

open Feed (FeedId GateFault)
open Json (Value)

namespace Scheduler

inductive Command where
  | run (ctx : Token)
  | cancel (token : Token)
  | advance (ms : Nat)
  | drain (ms : Nat)
  | register (feed : FeedId)
  | markSynced (feed : FeedId)
  | contents (feed : FeedId)
  | record (component : String) (remark : Event.Remark)
  | startRecording (stop : Token)

inductive Reply where
  | done
  | busy
  | outcome (outcome : Except Error Unit)
  | refused (fault : GateFault)
  | flag (b : Bool)
  | contents (contents : Option (List (String × Value)))
  | noBroadcaster
  | notStarted (fault : Event.Fault)

/-- Begins a run. It takes its first step later. -/
def beginRun (w : Scheduler) (ctx : Token) : Scheduler :=
  { w with run := .going ctx .entered, line := w.line.toBack .run }

def register (w : Scheduler) (feed : FeedId) : Scheduler × Reply :=
  match registerFeed w.surroundings w.cache feed with
  | .error fault => (w, .refused fault)
  | .ok (_, s, c) => ({ w.withCache true c with surroundings := s }, .done)

/-- Records a remark through a recorder that is made for it. -/
def record (w : Scheduler) (component : String) (remark : Event.Remark) : Scheduler :=
  let (s, b) := w.backend.newRecorder w.surroundings component
  let (s, b) := b.emit s .outside component remark
  { w with surroundings := s, backend := b.release }

def startRecordingBy (w : Scheduler) (stop : Token) : Scheduler × Reply :=
  match w.backend with
  | .structured b =>
    match b.start stop with
    | .ok b =>
      ({ w with backend := .structured b, line := w.line.toBack (.task .recording) }, .done)
    | .error fault => (w, .notStarted fault)
  | .legacy => (w, .noBroadcaster)

/-- Does what is asked, without letting anyone else proceed,
except while a drain waits or time passes. -/
def perform (w : Scheduler) : Command → Scheduler × Reply
  | .run ctx => if w.isRunning then (w, .busy) else (w.beginRun ctx, .done)
  | .cancel token => ({ w with surroundings := w.surroundings.cancel token }, .done)
  | .advance ms => (Machine.advance ms w, .done)
  | .drain ms =>
    if w.isRunning then (w, .busy)
    else
      let (w, outcome) := w.drain ms
      (w, .outcome outcome)
  | .register feed => w.register feed
  | .markSynced feed =>
    let (first, s, c) := reportSynced w.surroundings w.cache .outside feed
    ({ w.withCache first c with surroundings := s }, .flag first)
  | .contents feed => (w, .contents (w.cache.contentsOf? feed))
  | .record component remark => (w.record component remark, .done)
  | .startRecording stop => w.startRecordingBy stop

end Scheduler

end SchedulerHost.Host
