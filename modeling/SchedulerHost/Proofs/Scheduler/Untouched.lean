import SchedulerHost.Proofs.Scheduler.Aside

/-!
# One task at a time

What is done to one task is not done to another.

* `Untouched`: a task is as it was, and so is what can be said of it (`Untouched.fate`,
  `Untouched.isCut_iff`, `Untouched.hasTask_iff`).
* **Steps** (`TaskStep.untouched`): a step of a task leaves all others as they are, although the
  core may send an event to the recording.
* **Ending** (`untouched_cutShort`, `cut_cutShort`): so does ending a task from outside.
-/

namespace SchedulerHost.Host

def Recording.fate (r : Recording) : Fate := if r.phase = .ended then .ended else .going

namespace Performance

theorem abort_of_over {α : Type} {p : Performance α} (done : p.fate.isOver = true) :
    p.abort = p := by
  rw [abort, if_pos done]

theorem fate_abort {α : Type} {p : Performance α} (going : p.fate.isOver = false) :
    p.abort.fate = .aborted := by
  simp [abort, going]

end Performance

namespace Scheduler

variable {w w' : Scheduler} {task other : Task}

/-! ### The recording -/

theorem fate_recording (w : Scheduler) :
    w.fate .recording = (w.recording?.map (·.fate)).getD .pending := by
  unfold fate recording?
  cases w.backend.broadcaster?.bind (·.recording) <;> rfl

theorem recording?_of_structured {b : Broadcaster} (structured : w.backend = .structured b) :
    w.recording? = b.recording := by
  rw [recording?, structured]
  rfl

/-- What is sent to the recording does not change what it is at. -/
theorem recording?_emit (w : Scheduler) (s s' : Surroundings) (scope : Scope) (component : String)
    (remark : Event.Remark) :
    recording? { w with
      surroundings := s', backend := (w.backend.emit s scope component remark).2 } =
        w.recording? := by
  rcases Broadcaster.emit_cases s scope w.backend component remark with
    same | ⟨b, event, there, sent⟩
  · rw [same]
    rfl
  · rw [sent, recording?_of_structured there]
    rfl

/-! ### What can be said of a task -/

def HasTask (w : Scheduler) : Task → Prop
  | .recording => w.recording?.isSome
  | .informer i => i < w.informers.length
  | .core => w.core.isSome

/-- A task has been ended from outside. -/
def IsCut (w : Scheduler) : Task → Prop
  | .recording => ∃ r, w.recording? = some r ∧ r.aborted = true
  | task => w.fate task = .aborted

def Untouched (w w' : Scheduler) : Task → Prop
  | .recording => w'.recording? = w.recording?
  | .informer i => w'.informers[i]? = w.informers[i]?
  | .core => w'.core = w.core

theorem Untouched.of_same (informers : w'.informers = w.informers) (core : w'.core = w.core)
    (recording : w'.recording? = w.recording?) (task : Task) : Untouched w w' task := by
  cases task with
  | recording => exact recording
  | informer i => rw [Untouched, informers]
  | core => exact core

theorem Untouched.trans {w'' : Scheduler} (first : Untouched w w' task)
    (last : Untouched w' w'' task) : Untouched w w'' task := by
  cases task with
  | recording => exact Eq.trans last first
  | informer i => exact Eq.trans last first
  | core => exact Eq.trans last first

theorem Untouched.fate (same : Untouched w w' task) : w'.fate task = w.fate task := by
  cases task with
  | recording =>
    have same : w'.recording? = w.recording? := same
    rw [fate_recording, fate_recording, same]
  | informer i =>
    have same : w'.informers[i]? = w.informers[i]? := same
    rw [Scheduler.fate, Scheduler.fate, same]
  | core =>
    have same : w'.core = w.core := same
    rw [Scheduler.fate, Scheduler.fate, same]

theorem Untouched.isCut_iff (same : Untouched w w' task) : IsCut w' task ↔ IsCut w task := by
  cases task with
  | recording =>
    have same : w'.recording? = w.recording? := same
    rw [IsCut, IsCut, same]
  | informer i =>
    show w'.fate (.informer i) = .aborted ↔ w.fate (.informer i) = .aborted
    rw [same.fate]
  | core =>
    show w'.fate .core = .aborted ↔ w.fate .core = .aborted
    rw [same.fate]

theorem Untouched.hasTask_iff (same : Untouched w w' task) : w'.HasTask task ↔ w.HasTask task := by
  cases task with
  | recording =>
    have same : w'.recording? = w.recording? := same
    rw [HasTask, HasTask, same]
  | informer i =>
    have same : w'.informers[i]? = w.informers[i]? := same
    rw [HasTask, HasTask, ← Nat.not_le, ← Nat.not_le, ← List.getElem?_eq_none_iff,
      ← List.getElem?_eq_none_iff, same]
  | core =>
    have same : w'.core = w.core := same
    rw [HasTask, HasTask, same]

/-- A task that is not there has not begun. -/
theorem fate_of_absent (absent : ¬w.HasTask task) : w.fate task = .pending := by
  cases task with
  | recording =>
    have none : w.recording? = none := by simpa [HasTask] using absent
    rw [fate_recording, none]
    rfl
  | informer i =>
    have none : w.informers[i]? = none := by simpa [HasTask] using absent
    rw [fate, none]
  | core =>
    have none : w.core = none := by simpa [HasTask] using absent
    rw [fate, none]

theorem IsCut.hasTask (cut : IsCut w task) : w.HasTask task := by
  cases task with
  | recording =>
    obtain ⟨r, there, -⟩ := cut
    rw [HasTask, there]
    rfl
  | informer i =>
    by_cases there : w.HasTask (.informer i)
    · exact there
    · have cut : w.fate (.informer i) = .aborted := cut
      rw [fate_of_absent there] at cut
      contradiction
  | core =>
    by_cases there : w.HasTask .core
    · exact there
    · have cut : w.fate .core = .aborted := cut
      rw [fate_of_absent there] at cut
      contradiction

/-! ### Steps -/

/-- A step of a task leaves the others as they are. -/
theorem TaskStep.untouched (step : TaskStep w task w') (differs : other ≠ task) :
    Untouched w w' other := by
  cases step with
  | recording =>
    cases other with
    | recording => contradiction
    | informer i => rfl
    | core => rfl
  | @informer i t move play s c l told found next works =>
    cases other with
    | recording => rfl
    | informer j =>
      have apart : i ≠ j := by
        rintro rfl
        contradiction
      exact List.getElem?_set_ne apart
    | core => rfl
  | @core t move play s b found next told backend =>
    cases other with
    | recording =>
      rcases backend with rfl | ⟨remark, -, rfl⟩
      · rfl
      · exact recording?_emit w w.surroundings s .core t.component remark
    | informer i => rfl
    | core => contradiction

/-- Whoever takes a step is there, and not over. -/
theorem TaskStep.going (step : TaskStep w task w') :
    w.HasTask task ∧ (w.fate task).isOver = false := by
  cases step with
  | recording structured started stepped =>
    have there := (recording?_of_structured structured).trans started
    refine ⟨?_, ?_⟩
    · rw [HasTask, there]
      rfl
    · rw [fate_recording, there, Option.map_some, Option.getD_some, Recording.fate,
        if_neg stepped.going]
      rfl
  | @informer i t move play s c l told found next works =>
    refine ⟨(List.getElem?_eq_some_iff.1 found).1, ?_⟩
    rw [fate, found]
    cases done : t.play.fate.isOver with
    | false => rfl
    | true =>
      rw [Performance.next?_of_over done] at next
      contradiction
  | @core t move play s b found next told backend =>
    refine ⟨?_, ?_⟩
    · rw [HasTask, found]
      rfl
    · rw [fate, found]
      cases done : t.play.fate.isOver with
      | false => rfl
      | true =>
        rw [Performance.next?_of_over done] at next
        contradiction

/-- Whoever has taken a step is there, and has been ended from outside only if it had before. -/
theorem TaskStep.gone (step : TaskStep w task w') :
    w'.HasTask task ∧ (IsCut w' task → IsCut w task) := by
  cases step with
  | @recording b b' r s structured started stepped =>
    obtain ⟨phase, later⟩ := stepped.recording started
    have after : recording? { w with surroundings := s, backend := .structured b' } =
        some { r with phase := phase } := later
    refine ⟨?_, ?_⟩
    · rw [HasTask, after]
      rfl
    · rintro ⟨r', there, aborted⟩
      rw [after, Option.some.injEq] at there
      subst there
      exact ⟨r, (recording?_of_structured structured).trans started, aborted⟩
  | @informer i t move play s c l told found next works =>
    have inside := (List.getElem?_eq_some_iff.1 found).1
    refine ⟨by simpa [HasTask] using inside, ?_⟩
    intro cut
    simp only [IsCut, fate, List.getElem?_set_self inside] at cut
    exact absurd cut (Performance.stepped_of_next? next).fate_ne_aborted
  | core found next =>
    refine ⟨rfl, ?_⟩
    intro cut
    exact absurd cut (Performance.stepped_of_next? next).fate_ne_aborted

/-- A step of a task adds no task and takes none away. -/
theorem TaskStep.hasTask_iff (step : TaskStep w task w') (other : Task) :
    w'.HasTask other ↔ w.HasTask other := by
  by_cases same : other = task
  · rw [same]
    exact iff_of_true step.gone.1 step.going.1
  · exact (step.untouched same).hasTask_iff

/-! ### Ending a task from outside -/

/-- Nothing but the tasks is touched. -/
theorem exists_cutShort (w : Scheduler) (task : Task) : ∃ backend informers core,
    w.cutShort task = { w with backend := backend, informers := informers, core := core } := by
  cases task with
  | recording =>
    simp only [cutShort]
    split
    · exact ⟨_, _, _, rfl⟩
    · exact ⟨_, _, _, rfl⟩
  | informer i => exact ⟨_, _, _, rfl⟩
  | core => exact ⟨_, _, _, rfl⟩

theorem line_cutShort (w : Scheduler) (task : Task) : (w.cutShort task).line = w.line := by
  obtain ⟨backend, informers, core, same⟩ := w.exists_cutShort task
  rw [same]

theorem recording?_cutShort (w : Scheduler) :
    (w.cutShort .recording).recording? = w.recording?.map fun r => { r with aborted := true } := by
  simp only [cutShort]
  split
  · next b structured =>
    rw [recording?_of_structured structured]
    rfl
  · next legacy => simp [recording?, legacy, Backend.broadcaster?]

/-- Ending a task leaves the others as they are. -/
theorem untouched_cutShort (differs : other ≠ task) : Untouched w (w.cutShort task) other := by
  cases task with
  | recording =>
    simp only [cutShort]
    split
    · cases other with
      | recording => contradiction
      | informer j => rfl
      | core => rfl
    · exact .of_same rfl rfl rfl other
  | informer i =>
    cases other with
    | recording => rfl
    | informer j =>
      have apart : i ≠ j := by
        rintro rfl
        contradiction
      simp [Untouched, cutShort, apart]
    | core => rfl
  | core =>
    cases other with
    | recording => rfl
    | informer j => rfl
    | core => contradiction

theorem hasTask_cutShort : (w.cutShort task).HasTask other ↔ w.HasTask other := by
  by_cases same : other = task
  · subst same
    cases other with
    | recording => simp [HasTask, recording?_cutShort]
    | informer i => simp [HasTask, cutShort]
    | core => simp [HasTask, cutShort]
  · exact (untouched_cutShort same).hasTask_iff

/-- Whoever is over stays as it is. -/
theorem fate_cutShort (done : (w.fate task).isOver = true) :
    (w.cutShort task).fate task = w.fate task := by
  cases task with
  | recording =>
    rw [fate_recording, fate_recording, recording?_cutShort, Option.map_map]
    rfl
  | informer i =>
    simp only [fate, cutShort, List.getElem?_modify] at done ⊢
    cases found : w.informers[i]? with
    | none => rfl
    | some t =>
      simp only [found] at done
      simp [Performance.abort_of_over done]
  | core =>
    simp only [fate, cutShort] at done ⊢
    cases found : w.core with
    | none => rfl
    | some t =>
      simp only [found] at done
      simp [Performance.abort_of_over done]

/-- Whoever is not over is ended. -/
theorem cut_cutShort (there : w.HasTask task) (going : (w.fate task).isOver = false) :
    IsCut (w.cutShort task) task := by
  cases task with
  | recording =>
    obtain ⟨r, started⟩ := Option.isSome_iff_exists.1 there
    refine ⟨{ r with aborted := true }, ?_, rfl⟩
    rw [recording?_cutShort, started, Option.map_some]
  | informer i =>
    have inside : i < w.informers.length := there
    have found := List.getElem?_eq_getElem inside
    simp only [fate, found] at going
    simp [IsCut, fate, cutShort, found, Performance.fate_abort going]
  | core =>
    obtain ⟨t, found⟩ := Option.isSome_iff_exists.1 there
    simp only [fate, found] at going
    simp [IsCut, fate, cutShort, found, Performance.fate_abort going]

/-- Being done with a task is noted, or the task is ended. -/
theorem settleTask_cases (w : Scheduler) (task : Task) :
    (∃ n, (w.settleTask task).1 = w.note n) ∨ (w.settleTask task).1 = w.abort task := by
  unfold settleTask
  split
  · exact .inl ⟨_, rfl⟩
  · exact .inl ⟨_, rfl⟩
  · exact .inr rfl

end Scheduler

end SchedulerHost.Host
