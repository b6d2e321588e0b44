import SchedulerHost.Proofs.Machine.Likeness
import SchedulerHost.Proofs.Scheduler.Soundness

/-!
# The journal is only written

Neither what has been entered into the journal nor which tasks are outstanding makes a difference to
what the tasks do.

* **Likeness** (`likeness_bare`): schedulers without a run that differ in nothing else stay alike.
-/

namespace SchedulerHost.Host

def Surroundings.bare (s : Surroundings) : Surroundings := { s with journal := [] }

/-- An informer does the same whatever the journal holds. -/
theorem InformerTask.bare_step? (s : Surroundings) (c : Cache) (t : InformerTask) :
    (t.step? s.bare c).map (fun (told, s, c, t) => (told, s.bare, c, t)) =
      (t.step? s c).map fun (told, s, c, t) => (told, s.bare, c, t) := by
  have now : s.bare.now = s.now := rfl
  have down : s.bare.isCancelled t.stop = s.isCancelled t.stop := rfl
  rw [step?, step?, now, down]
  cases t.play.next? s.now (s.isCancelled t.stop) with
  | none => rfl
  | some next =>
    obtain ⟨move, play⟩ := next
    cases move with
    | begin => rfl
    | finish => rfl
    | pass => rfl
    | act a =>
      cases a with
      | insert key object => rfl
      | remove key => rfl
      | replace listing => rfl
      | sync =>
        simp only [perform, reportSynced, noteSync]
        cases c.gate.syncOutcome t.feed <;> rfl

theorem Broadcaster.bare_receive? (s : Surroundings) (b : Broadcaster) (r : Recording) :
    (b.receive? s.bare r).map (fun (s, b) => (s.bare, b)) =
      (b.receive? s r).map fun (s, b) => (s.bare, b) := by
  have now : s.bare.now = s.now := rfl
  have down : s.bare.isCancelled r.stop = s.isCancelled r.stop := rfl
  rw [receive?, receive?, now, down]
  split
  · rfl
  · split
    · rfl
    · rfl
    · split
      · rfl
      · rfl

theorem Broadcaster.bare_deliver (s : Surroundings) (b : Broadcaster) (r : Recording)
    (event : Event) : ((b.deliver s.bare r event).1.bare, (b.deliver s.bare r event).2) =
      ((b.deliver s r event).1.bare, (b.deliver s r event).2) := by
  rw [deliver, deliver]
  split
  · rfl
  · rfl

theorem Broadcaster.bare_step? (s : Surroundings) (b : Broadcaster) :
    (b.step? s.bare).map (fun (s, b) => (s.bare, b)) =
      (b.step? s).map fun (s, b) => (s.bare, b) := by
  have now : s.bare.now = s.now := rfl
  rw [step?, step?]
  split
  · rfl
  · next r recording =>
    split
    · rfl
    · split
      · rfl
      · split
        · rfl
        · exact bare_receive? s b r
        · next event due _ =>
          rw [now]
          split
          · exact congrArg some (bare_deliver s b r event)
          · rfl
        · rfl

theorem Backend.bare_emit (s : Surroundings) (scope : Scope) (b : Backend) (component : String)
    (remark : Event.Remark) :
    ((b.emit s.bare scope component remark).1.bare, (b.emit s.bare scope component remark).2) =
      ((b.emit s scope component remark).1.bare, (b.emit s scope component remark).2) := by
  cases b with
  | legacy => rfl
  | structured b =>
    simp only [emit, Broadcaster.send]
    split
    · rfl
    · rfl

/-- The core does the same whatever the journal holds. -/
theorem CoreTask.bare_step? (s : Surroundings) (c : Cache) (b : Backend) (t : CoreTask) :
    (t.step? s.bare c b).map (fun (s, b, t) => (s.bare, b, t)) =
      (t.step? s c b).map fun (s, b, t) => (s.bare, b, t) := by
  have now : s.bare.now = s.now := rfl
  have down : s.bare.isCancelled .shutdown = s.isCancelled .shutdown := rfl
  rw [step?, step?, now, down]
  cases t.play.next? s.now (s.isCancelled .shutdown) with
  | none => rfl
  | some next =>
    obtain ⟨move, play⟩ := next
    cases move with
    | begin => rfl
    | finish => rfl
    | pass => rfl
    | act a =>
      cases a with
      | look => rfl
      | event remark =>
        have same := Backend.bare_emit s .core b t.component remark
        simp only [Prod.mk.injEq] at same
        simp only [Option.map_some, same.1, same.2]

namespace Scheduler

/-- A scheduler with an empty journal, of which no task is outstanding. -/
def bare (w : Scheduler) : Scheduler :=
  { w with surroundings := w.surroundings.bare, outstanding := [] }

variable {w v : Scheduler}

/-- Without a run nobody waits for the feeds. -/
theorem withCache_of_free (free : w.isRunning = false) (told : Bool) (c : Cache) :
    w.withCache told c = { w with cache := c } := by
  have waits : w.awaitsFeeds = false := by
    unfold awaitsFeeds
    unfold isRunning at free
    cases run : w.run with
    | idle => rfl
    | returned time outcome => rfl
    | going ctx phase => simp [run] at free
  rw [withCache, waits, Bool.and_false, if_neg Bool.false_ne_true]

/-- What a task does, but for what it writes. -/
theorem bare_pollTask? (free : w.isRunning = false) (task : Task) :
    (w.bare.pollTask? task).map bare = (w.pollTask? task).map bare := by
  cases task with
  | recording =>
    cases structured : w.backend with
    | legacy => simp [pollTask?, bare, structured, Backend.step?]
    | structured b =>
      have poll (s : Surroundings) (o : List Task) :
          (pollTask? { w with surroundings := s, outstanding := o } .recording).map bare =
            ((b.step? s).map fun (s, b) => (s.bare, b)).map fun (s, b) =>
              { w with surroundings := s, backend := .structured b, outstanding := [] } := by
        simp only [pollTask?, structured, Backend.step?, Option.map_map]
        rfl
      have same := poll w.surroundings w.outstanding
      rw [← Broadcaster.bare_step?, ← poll w.surroundings.bare []] at same
      exact same.symm
  | informer i =>
    cases found : w.informers[i]? with
    | none => simp [pollTask?, bare, found]
    | some t =>
      -- Without a run nobody waits for the feeds, so a report wakes nobody.
      have poll (s : Surroundings) (o : List Task) :
          (pollTask? { w with surroundings := s, outstanding := o } (.informer i)).map bare =
            ((t.step? s w.cache).map fun (told, s, c, t) => (told, s.bare, c, t)).map
              fun (_, s, c, t) =>
              { w with
                surroundings := s, cache := c, informers := w.informers.set i t
                outstanding := [] } := by
        have still : isRunning { w with surroundings := s, outstanding := o } = false := free
        simp only [pollTask?, found, withCache_of_free still, Option.map_map]
        rfl
      have same := poll w.surroundings w.outstanding
      rw [← InformerTask.bare_step?, ← poll w.surroundings.bare []] at same
      exact same.symm
  | core =>
    cases found : w.core with
    | none => simp [pollTask?, bare, found]
    | some t =>
      have poll (s : Surroundings) (o : List Task) :
          (pollTask? { w with surroundings := s, outstanding := o } .core).map bare =
            ((t.step? s w.cache w.backend).map fun (s, b, t) => (s.bare, b, t)).map fun (s, b, t) =>
              { w with surroundings := s, backend := b, core := some t, outstanding := [] } := by
        simp only [pollTask?, found, Option.map_map]
        rfl
      have same := poll w.surroundings w.outstanding
      rw [← CoreTask.bare_step?, ← poll w.surroundings.bare []] at same
      exact same.symm

/-! ## Likeness -/

/-- Schedulers without a run that differ in nothing but the journal and what is outstanding. -/
structure Alike (w v : Scheduler) : Prop where
  free : w.isRunning = false
  same : w.bare = v.bare

theorem Alike.refl (free : w.isRunning = false) : Alike w w := ⟨free, rfl⟩

theorem Alike.run (alike : Alike w v) : w.run = v.run := by
  have same := congrArg Scheduler.run alike.same
  exact same

theorem Alike.symm (alike : Alike w v) : Alike v w := by
  refine ⟨?_, alike.same.symm⟩
  rw [isRunning, ← alike.run]
  exact alike.free

theorem Alike.trans {u : Scheduler} (first : Alike w v) (last : Alike v u) : Alike w u :=
  ⟨first.free, first.same.trans last.same⟩

theorem Alike.fate (alike : Alike w v) (task : Task) : w.fate task = v.fate task := by
  have bare (u : Scheduler) : u.bare.fate task = u.fate task := by cases task <;> rfl
  rw [← bare w, alike.same, bare v]

theorem pollRun?_of_free (free : w.isRunning = false) : w.pollRun? = none := by
  unfold isRunning at free
  unfold pollRun?
  split
  · next going => simp [going] at free
  · rfl

/-- Schedulers that differ in the journal alone take the same steps. -/
theorem poll?_of_alike (alike : Alike w v) (a : Agent) :
    (w.poll? a).map bare = (v.poll? a).map bare := by
  cases a with
  | run =>
    rw [poll?, poll?, pollRun?_of_free alike.free, pollRun?_of_free alike.symm.free]
  | task task =>
    rw [poll?, poll?, ← bare_pollTask? alike.free, alike.same, bare_pollTask? alike.symm.free]

/-- **Likeness.** What has been written makes no difference to what happens. -/
theorem likeness_bare : Machine.Likeness Alike where
  line_eq alike := by
    have same := congrArg Scheduler.line alike.same
    exact same
  now_eq alike := by
    have same := congrArg (fun w : Scheduler => w.surroundings.now) alike.same
    exact same
  alarms_eq alike := by
    have same := congrArg Scheduler.alarms alike.same
    exact same
  work_eq alike := by
    have same := congrArg Scheduler.work alike.same
    exact same
  able_eq {w v} a alike := by
    have same := congrArg Option.isSome (poll?_of_alike alike a)
    rw [Option.isSome_map, Option.isSome_map] at same
    exact same
  of_line l alike := ⟨alike.free, congrArg (fun w : Scheduler => { w with line := l }) alike.same⟩
  of_time t alike := ⟨alike.free, congrArg (Machine.setNow t) alike.same⟩
  of_poll {a w v w' v'} alike next next' := by
    have same := poll?_of_alike alike a
    have next : w.poll? a = some w' := next
    have next' : v.poll? a = some v' := next'
    rw [next, next', Option.map_some, Option.map_some, Option.some.injEq] at same
    refine ⟨?_, same⟩
    cases a with
    | run =>
      rw [poll?, pollRun?_of_free alike.free] at next
      contradiction
    | task task =>
      rw [isRunning, (taskStep_of_pollTask? next).aside.run]
      exact alike.free

end Scheduler

end SchedulerHost.Host
