import SchedulerHost.Proofs.Scheduler.Journal

/-!
# Without a run

What becomes of the tasks by themselves, while no run is in progress and none of them is
outstanding.

* **Soundness** (`sound_idle`): such a scheduler is a sound machine that ends no task from outside.
* **Lasting** (`lasts_iff_settle`, `lasts_giveWay`): which tasks outlast a moment is settled at its
  beginning, so it makes no difference who has had a turn already.
-/

namespace SchedulerHost.Host

namespace Scheduler

variable {w₀ v w w' : Scheduler} {task : Task}

/-! ### Soundness -/

/-- What stays whatever becomes of the tasks: what is there is still there, and what is over is
still over. -/
structure Kept (v w : Scheduler) : Prop where
  drivers : w.drivers = v.drivers
  started : w.started = v.started
  tasks (task : Task) : v.HasTask task → w.HasTask task
  final : Final v w

theorem Kept.refl (w : Scheduler) : Kept w w := ⟨rfl, rfl, fun _ there => there, .refl w⟩

theorem Kept.trans (first : Kept v w) (last : Kept w w') : Kept v w' where
  drivers := last.drivers.trans first.drivers
  started := last.started.trans first.started
  tasks task there := last.tasks task (first.tasks task there)
  final := first.final.trans last.final

theorem Kept.of_same (drivers : w'.drivers = w.drivers) (started : w'.started = w.started)
    (informers : w'.informers = w.informers) (core : w'.core = w.core)
    (recording : w'.recording? = w.recording?) : Kept w w' where
  drivers := drivers
  started := started
  tasks task there := (Untouched.of_same informers core recording task).hasTask_iff.2 there
  final := .of_same informers core recording

/-- A step of a task takes nobody away, and leaves what is over as it is. -/
theorem TaskStep.kept (step : TaskStep w task w') : Kept w w' :=
  ⟨step.aside.drivers, step.aside.started, fun other there => (step.hasTask_iff other).2 there,
    step.final⟩

/-- A scheduler without a run that has become of another by itself. -/
structure Idle (w₀ v w : Scheduler) : Prop where
  reached : Reached w₀ w
  free : w.isRunning = false
  outstanding : w.outstanding = []
  kept : Kept v w
  spares : Spares v w

theorem Idle.pollTask? (h : Idle w₀ v w) (next : w.pollTask? task = some w') : Idle w₀ v w' := by
  have step := taskStep_of_pollTask? next
  refine ⟨h.reached.pollTask? next, ?_, (outstanding_taskStep step).trans h.outstanding,
    h.kept.trans step.kept, fun other cut => h.spares other (step.spares other cut)⟩
  rw [isRunning, step.aside.run]
  exact h.free

theorem Idle.of_line (h : Idle w₀ v w) {l : Line Agent}
    (kept : ∀ a ∈ w.line.members, a ∈ l.members) : Idle w₀ v { w with line := l } where
  reached := ⟨h.reached.fit.of_line kept, h.reached.life.tail (.stirred (.lined _)),
    h.reached.intact⟩
  free := h.free
  outstanding := h.outstanding
  kept := h.kept.trans (.of_same rfl rfl rfl rfl rfl)
  spares := h.spares

theorem Idle.of_time (h : Idle w₀ v w) {t : Nat} (later : w.surroundings.now ≤ t) :
    Idle w₀ v (Machine.setNow t w) where
  reached := ⟨h.reached.fit.of_surroundings _, h.reached.life.tail (.elapsed _ later),
    h.reached.intact⟩
  free := h.free
  outstanding := h.outstanding
  kept := h.kept.trans (.of_same rfl rfl rfl rfl rfl)
  spares := h.spares

/-- **Soundness.** What becomes of a scheduler without a run becomes of it by its tasks alone. -/
theorem sound_idle (fresh : Fresh w₀) (v : Scheduler) : Machine.Sound (Idle w₀ v) where
  of_poll {a w w'} h next := by
    cases a with
    | run =>
      rw [show Machine.poll? Agent.run w = w.pollRun? from rfl, pollRun?_of_free h.free] at next
      contradiction
    | task task => exact h.pollTask? next
  of_line h kept := h.of_line kept
  of_time h later := h.of_time later
  now_poll h next := (sound_reached fresh).now_poll h.reached next
  work_poll h next := (sound_reached fresh).work_poll h.reached next
  able_mem h able := (sound_reached fresh).able_mem h.reached able
  able_of_due h alarm passed := (sound_reached fresh).able_of_due h.reached alarm passed
  due_of_able h later able := (sound_reached fresh).due_of_able h.reached later able

/-- Another view of the same scheduler. -/
theorem Idle.refl (h : Idle w₀ v w) : Idle w₀ w w :=
  ⟨h.reached, h.free, h.outstanding, .refl w, fun _ cut => cut⟩

/-! ### Lasting -/

/-- A task does not end now, having taken all steps it can take. -/
def Lasts (w : Scheduler) : Task → Prop
  | .recording => ∀ r, w.recording? = some r → r.Lasts w.surroundings
  | .informer i => ∀ t, w.informers[i]? = some t →
    t.play.Lasts w.surroundings.now (w.isCancelled t.stop)
  | .core => ∀ t, w.core = some t →
    t.play.Lasts w.surroundings.now (w.isCancelled .shutdown)

theorem Lasts.isOver (lasts : w.Lasts task) : (w.fate task).isOver = false := by
  cases task with
  | recording =>
    rw [fate_recording]
    cases recording : w.recording? with
    | none => rfl
    | some r =>
      rw [Option.map_some, Option.getD_some, Recording.fate, if_neg (lasts r recording).going]
      rfl
  | informer i =>
    rw [fate]
    cases found : w.informers[i]? with
    | none => rfl
    | some t => exact (lasts t found).isOver
  | core =>
    rw [fate]
    cases found : w.core with
    | none => rfl
    | some t => exact (lasts t found).isOver

/-- A task that can take no step and is not over lasts. -/
theorem lasts_of_stuck (stuck : w.canGoOn (.task task) = false)
    (going : (w.fate task).isOver = false) : w.Lasts task := by
  cases task with
  | recording =>
    intro r recording
    cases structured : w.backend with
    | legacy => simp [recording?, structured, Backend.broadcaster?] at recording
    | structured b =>
      have started := (recording?_of_structured structured).symm.trans recording
      rw [fate_recording, recording, Option.map_some, Option.getD_some, Recording.fate] at going
      rw [canGoOn, structured, Backend.step?, Option.isSome_map, Option.isSome_eq_false_iff,
        Option.isNone_iff_eq_none] at stuck
      refine Broadcaster.lasts_of_stuck started ?_ stuck
      intro ended
      rw [if_pos ended] at going
      contradiction
  | informer i =>
    intro t found
    rw [fate, found] at going
    rw [canGoOn, found, Option.any_some, Option.isSome_eq_false_iff, Option.isNone_iff_eq_none]
      at stuck
    exact .waits going stuck
  | core =>
    intro t found
    rw [fate, found] at going
    rw [canGoOn, found, Option.any_some, Option.isSome_eq_false_iff, Option.isNone_iff_eq_none]
      at stuck
    exact .waits going stuck

/-- Whether a recording lasts does not hang on what is entered meanwhile. -/
theorem Recording.lasts_congr {s s' : Surroundings} {r : Recording} (told : s.Extends s') :
    r.Lasts s ↔ r.Lasts s' := by
  constructor
  · rintro ⟨going, kept, waits⟩
    refine ⟨going, kept, ?_⟩
    rw [told.now, told.isCancelled]
    exact waits
  · rintro ⟨going, kept, waits⟩
    refine ⟨going, kept, ?_⟩
    rw [told.now, told.isCancelled] at waits
    exact waits

/-- A task that is as it was lasts if it did. -/
theorem Untouched.lasts_iff (same : Untouched w w' task)
    (told : w.surroundings.Extends w'.surroundings) : w.Lasts task ↔ w'.Lasts task := by
  have down (token : Token) : w'.isCancelled token = w.isCancelled token := told.isCancelled token
  cases task with
  | recording =>
    have same : w'.recording? = w.recording? := same
    simp only [Lasts, same, Recording.lasts_congr told]
  | informer i =>
    have same : w'.informers[i]? = w.informers[i]? := same
    simp only [Lasts, same, told.now, down]
  | core =>
    have same : w'.core = w.core := same
    simp only [Lasts, same, told.now, down]

/-- Whether a task lasts does not depend on who has had a turn already. -/
theorem TaskStep.lasts_iff (fit : Fit w) (step : TaskStep w task w') (other : Task) :
    w.Lasts other ↔ w'.Lasts other := by
  by_cases same : other = task
  · subst same
    have told := step.extends
    have down (token : Token) : w'.isCancelled token = w.isCancelled token :=
      told.isCancelled token
    -- Lasting looks ahead over all steps of a moment, so taking one of them does not decide it.
    cases step with
    | @recording b b' r s structured started stepped =>
      obtain ⟨phase, later⟩ := stepped.recording started
      have before := (recording?_of_structured structured).trans started
      have after : recording? { w with surroundings := s, backend := .structured b' } =
          some { r with phase := phase } := later
      simp only [Lasts, before, after, Option.some.injEq, forall_eq',
        ← Recording.lasts_congr told]
      exact Broadcaster.lasts_iff_of_stepped (fit.backend b structured) started stepped later
    | @informer i t move play s c l told found next works =>
      have inside := (List.getElem?_eq_some_iff.1 found).1
      have now : s.now = w.surroundings.now := told.now
      simp only [Lasts, found, List.getElem?_set_self inside, down, now, Option.some.injEq,
        forall_eq']
      exact Performance.lasts_iff_of_next? next
    | @core t move play s b found next told' backend =>
      have now : s.now = w.surroundings.now := told.now
      simp only [Lasts, found, down, now, Option.some.injEq, forall_eq']
      exact Performance.lasts_iff_of_next? next
  · exact (step.untouched same).lasts_iff step.extends

/-- Who lasts at a moment does so whatever is done at that moment. -/
def Abides (w₀ v w : Scheduler) : Prop := Idle w₀ v w ∧ ∀ task, v.Lasts task ↔ w.Lasts task

/-- Whatever is done at a moment, whoever lasts goes on to last. -/
theorem keeps_abides (fresh : Fresh w₀) (v : Scheduler) : Machine.Keeps (Abides w₀ v) where
  of_poll {a w w'} h next := by
    refine ⟨(sound_idle fresh v).of_poll h.1 next, fun other => (h.2 other).trans ?_⟩
    cases a with
    | run =>
      rw [show Machine.poll? Agent.run w = w.pollRun? from rfl, pollRun?_of_free h.1.free] at next
      contradiction
    | task task => exact (taskStep_of_pollTask? next).lasts_iff h.1.reached.fit other
  of_line h kept := by
    refine ⟨h.1.of_line kept, fun other => (h.2 other).trans ?_⟩
    exact (Untouched.of_same rfl rfl rfl other).lasts_iff (.refl _)

/-- **Lasting.** The tasks that last are those that are not over once all has settled. -/
theorem lasts_iff_settle (fresh : Fresh w₀) (h : Idle w₀ v w) (roused : Machine.Roused w) :
    w.Lasts task ↔ ((Machine.settle w).fate task).isOver = false := by
  have abides := (keeps_abides fresh w).settle ⟨h.refl, fun _ => .rfl⟩
  rw [abides.2 task]
  constructor
  · exact Lasts.isOver
  · intro going
    have still := (sound_idle fresh v).still_settle h roused
    have unable := still.unable (.task task)
    rw [isAble_eq] at unable
    exact lasts_of_stuck unable going

theorem lasts_giveWay (fresh : Fresh w₀) (h : Idle w₀ v w) :
    w.Lasts task ↔ (Machine.giveWay w).Lasts task :=
  ((keeps_abides fresh w).giveWay ⟨h.refl, fun _ => .rfl⟩).2 task

end Scheduler

end SchedulerHost.Host
