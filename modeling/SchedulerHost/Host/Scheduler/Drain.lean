import SchedulerHost.Host.Scheduler.Steps

/-!
# Draining

The tasks that a run has launched are waited for in the order of their launch, all against one
deadline. A task that has ended by its turn is fine, also after the deadline; one that has not is
ended from outside and reported, also when it would go on at the very moment of the deadline.
Whoever drains many tasks without having to wait gives way in between, so that a task further down
may still end in time.
-/

namespace SchedulerHost.Host

namespace Scheduler

/-- Gives way when there is no patience left, and has all of it again then. -/
def takeBreath (w : Scheduler) : Nat → Scheduler × Nat
  | 0 => (Machine.giveWay w, Machine.patience)
  | patience => (w, patience)

/-- Waits for a task, until the deadline. A task that has ended is not waited for. Tells how much
patience is left: all but one of it after a wait. -/
def awaitTask (w : Scheduler) (deadline patience : Nat) (task : Task) : Scheduler × Nat :=
  let (w, patience) := w.takeBreath patience
  if (w.fate task).isOver ∨ deadline ≤ w.surroundings.now then (w, patience - 1)
  else (Machine.await (fun w => (w.fate task).isOver) deadline w, Machine.patience - 1)

/-- What becomes of a task: it has ended, or is ended and counts among the remaining. -/
def settleTask (w : Scheduler) (task : Task) : Scheduler × Option String :=
  match w.fate task with
  | .panicked message => (w.note (.taskFailed (w.taskName task) message), none)
  | .ended => (w.note (.taskStopped (w.taskName task)), none)
  -- It has not ended in time.
  | _ => (w.abort task, some (w.taskName task))

/-- Drains tasks one after the other, and tells the names of the remaining ones. -/
def drainTasks (w : Scheduler) (deadline patience : Nat) : List Task → Scheduler × List String
  | [] => (w, [])
  | task :: rest =>
    let (w, patience) := w.awaitTask deadline patience task
    let (w, left) := w.settleTask task
    let (w, remaining) := w.drainTasks deadline patience rest
    (w, left.toList ++ remaining)

/-- Waits for all tasks that have been launched, at most for a span of milliseconds. -/
def drain (w : Scheduler) (span : Nat) : Scheduler × Except Error Unit :=
  let begun := w.surroundings.now
  let (w, remaining) :=
    { w with outstanding := [] }.drainTasks (begun + span) Machine.patience w.outstanding
  if remaining = [] then (w.note .drained, .ok ())
  else
    (w.note (.drainTimedOut remaining),
      .error (.shutdownTimeout (.ofMillis (w.surroundings.now - begun)) remaining))

end Scheduler

end SchedulerHost.Host
