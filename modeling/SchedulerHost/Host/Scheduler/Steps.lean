import SchedulerHost.Host.Scheduler.Run

/-!
# The steps of a scheduler

A scheduler proceeds by the turns of its tasks and of its run.
-/

namespace SchedulerHost.Host

namespace Scheduler

def poll? (w : Scheduler) : Agent → Option Scheduler
  | .run => w.pollRun?
  | .task t => w.pollTask? t

/-- The moment at which the informer factory reports by itself. -/
def factoryAlarm (w : Scheduler) : List Nat :=
  match w.run with
  | .going _ (.awaitingFactory asked) => (w.parts.informerFactory.delay.map (asked + ·)).toList
  | _ => []

def alarms (w : Scheduler) : List Nat :=
  w.informers.flatMap (·.play.alarms) ++ (w.core.map (·.play.alarms)).getD [] ++
    w.factoryAlarm ++ w.backend.alarms

/-- A bound on the number of steps of the run to come, and of those it makes the recording take. -/
def runWork (w : Scheduler) : Nat :=
  match w.run with
  | .going _ .entered => 6
  | .going _ (.awaitingFactory _) => 3
  | .going _ .awaitingFeeds => 2
  | .going _ .serving => 1
  | _ => 0

def informersWork (w : Scheduler) : Nat :=
  let works :=
    if w.started then w.informers.map (·.work)
    else w.drivers.map fun d => (Performance.ofScript d.informer.script).work fun _ => 1
  works.foldr (· + ·) 0

/-- A bound on the number of steps of the core to come,
and of those it makes the recording take. -/
def coreWork (w : Scheduler) : Nat :=
  match w.core with
  | some t => t.work
  | none => (Performance.ofScript w.builder.script).work CoreTask.weight

def work (w : Scheduler) : Nat := w.runWork + w.informersWork + w.coreWork + w.backend.work

instance : Machine Scheduler Agent where
  now w := w.surroundings.now
  setNow t w := { w with surroundings := { w.surroundings with now := t } }
  line w := w.line
  setLine l w := { w with line := l }
  poll? a w := w.poll? a
  alarms := alarms
  work := work

end Scheduler

end SchedulerHost.Host
