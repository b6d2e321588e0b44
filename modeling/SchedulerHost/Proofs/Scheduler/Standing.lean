import SchedulerHost.Proofs.Scheduler.Admission
import SchedulerHost.Proofs.Scheduler.Launching
import SchedulerHost.Proofs.Scheduler.Untouched

/-!
# How the tasks stand

What is over stays over in the whole life of a scheduler, and the outstanding tasks are those that
have been launched, in the order of their launch.

* **Finality** (`Life.final`): a task that is over stays as it is.
* **No further step** (`IsCut.pollTask?`): a task that has been cut short does nothing any more.
* **The roster** (`Listed.life`): either all tasks that were launched are outstanding, or none is.
-/

namespace SchedulerHost.Host

open Relation (ReflTransGen)

def RunPhase.awaitsCaches : RunPhase → Bool
  | .awaitingFactory _ | .awaitingFeeds => true
  | .entered | .serving => false

namespace Scheduler

variable {mark : Nat} {w w' w'' : Scheduler} {task : Task}

/-! ### Finality -/

/-- What is over stays as it is. -/
structure Final (w w' : Scheduler) : Prop where
  fate (task : Task) : (w.fate task).isOver = true → w'.fate task = w.fate task
  recording : IsCut w .recording → IsCut w' .recording

theorem Final.refl (w : Scheduler) : Final w w := ⟨fun _ _ => rfl, id⟩

theorem Final.trans (first : Final w w') (last : Final w' w'') : Final w w'' where
  fate task done := by
    have same := first.fate task done
    rw [← same] at done ⊢
    exact last.fate task done
  recording cut := last.recording (first.recording cut)

theorem Final.isOver (final : Final w w') (done : (w.fate task).isOver = true) :
    (w'.fate task).isOver = true := by
  rw [final.fate task done]
  exact done

theorem Final.isCut (final : Final w w') (cut : IsCut w task) : IsCut w' task := by
  cases task with
  | recording => exact final.recording cut
  | informer i =>
    have cut : w.fate (.informer i) = .aborted := cut
    exact (final.fate _ (by rw [cut]; rfl)).trans cut
  | core =>
    have cut : w.fate .core = .aborted := cut
    exact (final.fate _ (by rw [cut]; rfl)).trans cut

/-- Whoever is there is left alone. Whoever is not there has not begun. -/
theorem Final.of_untouched (same : ∀ task, w.HasTask task → Untouched w w' task) :
    Final w w' where
  fate task done := by
    by_cases there : w.HasTask task
    · exact (same task there).fate
    · rw [fate_of_absent there] at done
      contradiction
  recording cut := (same .recording cut.hasTask).isCut_iff.2 cut

theorem Final.of_same (informers : w'.informers = w.informers) (core : w'.core = w.core)
    (recording : w'.recording? = w.recording?) : Final w w' :=
  .of_untouched fun task _ => .of_same informers core recording task

/-- A step of a task, which is not over, leaves all others as they are. -/
theorem TaskStep.final (step : TaskStep w task w') : Final w w' where
  fate other done := by
    by_cases same : other = task
    · rw [same, step.going.2] at done
      contradiction
    · exact (step.untouched same).fate
  recording cut := by
    cases step with
    | recording structured started stepped =>
      obtain ⟨r', there, aborted⟩ := cut
      rw [recording?_of_structured structured, started, Option.some.injEq] at there
      subst there
      obtain ⟨phase, later⟩ := stepped.recording started
      exact ⟨_, later, aborted⟩
    | informer found next works members =>
      have step := TaskStep.informer found next works members
      exact (step.untouched (by simp)).isCut_iff.2 cut
    | core found next told backend =>
      have step := TaskStep.core found next told backend
      exact (step.untouched (by simp)).isCut_iff.2 cut

/-- Whoever is there is left alone by what is asked for at a moment. -/
theorem Asked.untouched (asked : Asked w w') (there : w.HasTask task) : Untouched w w' task := by
  cases asked with
  | touches => exact .of_same rfl rfl rfl task
  | records structured event =>
    apply Untouched.of_same
    · rfl
    · rfl
    · rw [recording?_of_structured structured]
      rfl
  | starts structured unrecorded stop =>
    cases task with
    | recording =>
      rw [HasTask, recording?_of_structured structured, unrecorded] at there
      contradiction
    | informer i => rfl
    | core => rfl

/-- To ask for something reopens nothing that is over. -/
theorem Asked.final (asked : Asked w w') : Final w w' :=
  .of_untouched fun _ there => asked.untouched there

theorem final_cutShort (w : Scheduler) (task : Task) : Final w (w.cutShort task) where
  fate other done := by
    by_cases same : other = task
    · subst same
      exact fate_cutShort done
    · exact (untouched_cutShort same).fate
  recording cut := by
    by_cases same : task = .recording
    · obtain ⟨r, there, -⟩ := cut
      rw [same, IsCut, recording?_cutShort, there]
      exact ⟨_, rfl, rfl⟩
    · exact (untouched_cutShort (Ne.symm same)).isCut_iff.2 cut

theorem final_settleTask (w : Scheduler) (task : Task) : Final w (w.settleTask task).1 := by
  rcases settleTask_cases w task with ⟨n, same⟩ | same
  · rw [same]
    exact .of_same rfl rfl rfl
  · rw [same]
    exact (final_cutShort w task).trans (.of_same rfl rfl rfl)

/-- A turn of the run leaves alone whoever is there. -/
theorem Turned.untouched (none : w.core = none) (turned : Turned w w') (there : w.HasTask task) :
    Untouched w w' task := by
  cases turned with
  | waits => exact .of_same rfl rfl rfl task
  | admits =>
    cases task with
    | recording => rfl
    | informer i => rfl
    | core =>
      rw [HasTask, none] at there
      contradiction

theorem untouched_launchAll (nobody : w.informers = []) (there : w.HasTask task) :
    Untouched w w.launchAll task := by
  obtain ⟨s, c, b, first, l, recorded, -, same⟩ := w.exists_launchAll
  rw [same]
  cases task with
  | recording =>
    cases recorded with
    | starts structured unrecorded =>
      rw [HasTask, recording?_of_structured structured, unrecorded] at there
      contradiction
    | leaves => rfl
  | informer i =>
    rw [HasTask, nobody] at there
    contradiction
  | core => rfl

/-- The run leaves alone whoever is there. -/
theorem untouched_pollRun? (order : InOrder mark w) (next : w.pollRun? = some w')
    (there : w.HasTask task) : Untouched w w' task := by
  obtain ⟨ctx, phase, going, -, rfl⟩ := exists_of_pollRun? next
  have run := order.run
  rw [going] at run
  cases phase with
  | entered =>
    cases started : w.started with
    | true =>
      rw [proceed, enter, if_pos started]
      exact .of_same rfl rfl rfl task
    | false =>
      obtain ⟨core, informers⟩ := order.orderly.unstarted started
      have launches := untouched_launchAll informers there
      have core' : w.launchAll.core = none := by
        obtain ⟨s, c, b, first, l, -, -, same⟩ := w.exists_launchAll
        rw [same]
        exact core
      have there' := launches.hasTask_iff.2 there
      rw [proceed, enter_of_fresh started]
      exact launches.trans ((turned_awaitCaches _ ctx).untouched core' there')
  | awaitingFactory asked => exact (turned_awaitFactory w ctx asked).untouched run.2.1 there
  | awaitingFeeds => exact (turned_awaitFeeds w ctx).untouched run.2.1 there
  | serving =>
    rw [proceed, serve]
    split
    · exact .of_same rfl rfl rfl task
    · exact .of_same rfl rfl rfl task

/-- What is over is over for good. -/
theorem Step.final (order : InOrder mark w) (step : Step w w') : Final w w' := by
  cases step with
  | stirred stir =>
    rcases stir.kinds with turn | ⟨task, step⟩ | asked | ⟨l, rfl⟩
    · exact .of_untouched fun _ there => untouched_pollRun? order turn there
    · exact step.final
    · exact asked.final
    · exact .of_same rfl rfl rfl
  | elapsed t later => exact .of_same rfl rfl rfl
  | begun ctx free => exact .of_same rfl rfl rfl
  | takenOver free => exact .of_same rfl rfl rfl
  | settled task => exact final_settleTask w task
  | concluded n notice => exact .of_same rfl rfl rfl

/-- **Finality.** What is over stays as it is, whatever happens. -/
theorem Life.final (order : InOrder mark w) (life : Life w w') : Final w w' := by
  induction life with
  | refl => exact .refl w
  | tail before step ih => exact ih.trans (step.final (order.life before))

/-- **No further step.** A task that has been cut short does nothing any more; the recording is put
away when it is called. -/
theorem IsCut.pollTask? (cut : IsCut w task) (next : w.pollTask? task = some w') :
    task = .recording ∧ ∃ b r, w.backend = .structured b ∧ b.recording = some r ∧
      w' = { w with backend := .structured (b.enter r .ended) } := by
  have step := taskStep_of_pollTask? next
  -- The name is needed for the step of the play.
  clear next
  cases step with
  | @recording b b' r s structured started stepped =>
    obtain ⟨r', there, aborted⟩ := cut
    rw [recording?_of_structured structured, started, Option.some.injEq] at there
    subst there
    obtain ⟨rfl, rfl⟩ := stepped.of_aborted aborted
    exact ⟨rfl, b, r, structured, started, rfl⟩
  | @informer i t move play s c l told found next =>
    have cut : w.fate (.informer i) = .aborted := cut
    simp only [fate, found] at cut
    rw [Performance.next?_of_over (by rw [cut]; rfl)] at next
    contradiction
  | @core t move play s b found next =>
    have cut : w.fate .core = .aborted := cut
    simp only [fate, found] at cut
    rw [Performance.next?_of_over (by rw [cut]; rfl)] at next
    contradiction

/-! ### The roster -/

/-- The tasks that are there, in the order of their launch. The recording may have been started by
someone else. -/
def roster (w : Scheduler) (records : Bool) : List Task :=
  (if records then [.recording] else []) ++ (List.range w.informers.length).map .informer ++
    (if w.core.isSome then [.core] else [])

/-- All tasks that a run has launched are outstanding. -/
def Enlisted (w : Scheduler) : Prop := ∃ records, w.outstanding = w.roster records

/-- Either all tasks that have been launched are outstanding, or none is. -/
structure Listed (w : Scheduler) : Prop where
  unstarted : w.started = false → w.outstanding = []
  started : w.started = true → w.informers.length = w.drivers.length
  waiting (ctx : Token) (phase : RunPhase) : w.run = .going ctx phase →
    phase.awaitsCaches = true → Enlisted w
  all : w.outstanding = [] ∨ Enlisted w

theorem roster_congr (informers : w'.informers.length = w.informers.length)
    (core : w'.core.isSome = w.core.isSome) (records : Bool) :
    w'.roster records = w.roster records := by
  rw [roster, roster, informers, core]

theorem Listed.of_same (h : Listed w) (started : w'.started = w.started)
    (drivers : w'.drivers = w.drivers) (informers : w'.informers.length = w.informers.length)
    (core : w'.core.isSome = w.core.isSome) (outstanding : w'.outstanding = w.outstanding)
    (run : ∀ ctx phase, w'.run = .going ctx phase → phase.awaitsCaches = true → w'.run = w.run) :
    Listed w' := by
  have enlisted : Enlisted w → Enlisted w' := by
    rintro ⟨records, all⟩
    exact ⟨records, by rw [outstanding, all, roster_congr informers core]⟩
  refine ⟨?_, ?_, ?_, ?_⟩
  · rw [started, outstanding]
    exact h.unstarted
  · rw [started, informers, drivers]
    exact h.started
  · intro ctx phase going waits
    rw [run ctx phase going waits] at going
    exact enlisted (h.waiting ctx phase going waits)
  · rw [outstanding]
    exact h.all.imp id enlisted

/-- The core is the last to be launched. -/
theorem Turned.listed (none : w.core = none) (turned : Turned w w')
    (started : w.started = true) (informers : w.informers.length = w.drivers.length)
    (enlisted : Enlisted w) : Listed w' := by
  have enlisted' : Enlisted w' := by
    obtain ⟨records, all⟩ := enlisted
    refine ⟨records, ?_⟩
    cases turned with
    | waits => exact all
    | admits => simp [roster, all, none]
  cases turned with
  | waits => exact ⟨fun never => by simp [started] at never, fun _ => informers,
      fun _ _ _ _ => enlisted', .inr enlisted'⟩
  | admits => exact ⟨fun never => by simp [started] at never, fun _ => informers,
      fun _ _ _ _ => enlisted', .inr enlisted'⟩

theorem listed_enter (order : InOrder mark w) (listed : Listed w) (ctx : Token) :
    Listed (w.enter ctx) := by
  cases started : w.started with
  | true =>
    rw [enter, if_pos started]
    exact listed.of_same rfl rfl rfl rfl rfl fun _ _ going => by cases going
  | false =>
    obtain ⟨core, informers⟩ := order.orderly.unstarted started
    have nothing := listed.unstarted started
    rw [enter_of_fresh started]
    have turned := w.launchAll.turned_awaitCaches ctx
    obtain ⟨s, c, b, first, l, recorded, -, same⟩ := w.exists_launchAll
    rw [same, informers] at turned ⊢
    refine Turned.listed ?_ turned rfl ?_ ?_
    · exact core
    · simp
    · -- The recording is on the roster only if this run has started it.
      cases recorded with
      | starts => exact ⟨true, by simp [roster, nothing, core, List.range_eq_range']⟩
      | leaves => exact ⟨false, by simp [roster, nothing, core, List.range_eq_range']⟩

/-- The core becomes outstanding when it is launched. -/
theorem listed_pollRun? (order : InOrder mark w) (listed : Listed w)
    (next : w.pollRun? = some w') : Listed w' := by
  obtain ⟨ctx, phase, going, -, rfl⟩ := exists_of_pollRun? next
  have run := order.run
  rw [going] at run
  cases phase with
  | entered => exact listed_enter order listed ctx
  | awaitingFactory asked =>
    exact (turned_awaitFactory w ctx asked).listed run.2.1 run.1 (listed.started run.1)
      (listed.waiting _ _ going rfl)
  | awaitingFeeds =>
    exact (turned_awaitFeeds w ctx).listed run.2.1 run.1 (listed.started run.1)
      (listed.waiting _ _ going rfl)
  | serving =>
    rw [proceed, serve]
    split
    · exact listed.of_same rfl rfl rfl rfl rfl fun _ _ going => by cases going
    · refine listed.of_same rfl rfl rfl rfl rfl ?_
      intro _ _ going waits
      cases going
      contradiction

theorem Listed.taskStep (h : Listed w) (step : TaskStep w task w') : Listed w' := by
  cases step with
  | recording => exact h.of_same rfl rfl rfl rfl rfl fun _ _ _ _ => rfl
  | informer => exact h.of_same rfl rfl (by simp) rfl rfl fun _ _ _ _ => rfl
  | core found => exact h.of_same rfl rfl rfl (by simp [found]) rfl fun _ _ _ _ => rfl

theorem Listed.abort (h : Listed w) (task : Task) : Listed (w.abort task) := by
  cases task with
  | recording =>
    simp only [Scheduler.abort, cutShort]
    split
    · exact h.of_same rfl rfl rfl rfl rfl fun _ _ _ _ => rfl
    · exact h.of_same rfl rfl rfl rfl rfl fun _ _ _ _ => rfl
  | informer i =>
    exact h.of_same rfl rfl (by simp [Scheduler.abort, cutShort]) rfl rfl fun _ _ _ _ => rfl
  | core =>
    exact h.of_same rfl rfl rfl (by simp [Scheduler.abort, cutShort]) rfl fun _ _ _ _ => rfl

theorem Listed.step (order : InOrder mark w) (h : Listed w) (step : Step w w') : Listed w' := by
  cases step with
  | stirred stir =>
    rcases stir.kinds with turn | ⟨task, step⟩ | asked | ⟨l, rfl⟩
    · exact listed_pollRun? order h turn
    · exact h.taskStep step
    · cases asked with
      | touches => exact h.of_same rfl rfl rfl rfl rfl fun _ _ _ _ => rfl
      | records => exact h.of_same rfl rfl rfl rfl rfl fun _ _ _ _ => rfl
      | starts => exact h.of_same rfl rfl rfl rfl rfl fun _ _ _ _ => rfl
    · exact h.of_same rfl rfl rfl rfl rfl fun _ _ _ _ => rfl
  | elapsed t later => exact h.of_same rfl rfl rfl rfl rfl fun _ _ _ _ => rfl
  | begun ctx free =>
    refine h.of_same rfl rfl rfl rfl rfl ?_
    intro _ _ going waits
    cases going
    contradiction
  | takenOver free =>
    refine ⟨fun _ => rfl, h.started, ?_, .inl rfl⟩
    -- No run waits for the caches meanwhile, so nothing more will be launched.
    intro ctx phase going
    simp [isRunning, show w.run = .going ctx phase from going] at free
  | settled task =>
    rcases settleTask_cases w task with ⟨n, same⟩ | same
    · rw [same]
      exact h.of_same rfl rfl rfl rfl rfl fun _ _ _ _ => rfl
    · rw [same]
      exact h.abort task
  | concluded n notice => exact h.of_same rfl rfl rfl rfl rfl fun _ _ _ _ => rfl

/-- **The roster.** In the life of a scheduler, the outstanding tasks are all that have been
launched or none. -/
theorem Listed.life (order : InOrder mark w) (h : Listed w) (life : Life w w') : Listed w' := by
  induction life with
  | refl => exact h
  | tail before step ih => exact ih.step (order.life before) step

theorem Fresh.listed (fresh : Fresh w) : Listed w := by
  refine ⟨fun _ => fresh.outstanding, ?_, ?_, .inl fresh.outstanding⟩
  · intro started
    rw [fresh.started] at started
    contradiction
  · intro ctx phase going
    rw [fresh.run] at going
    contradiction

/-- The tasks of a scheduler that has been drained after its first run are gone for good. -/
structure Cleared (w : Scheduler) : Prop where
  started : w.started = true
  outstanding : w.outstanding = []
  run (ctx : Token) (phase : RunPhase) : w.run = .going ctx phase → phase.awaitsCaches = false

theorem Cleared.of_same (h : Cleared w) (started : w'.started = w.started)
    (outstanding : w'.outstanding = w.outstanding) (run : w'.run = w.run) : Cleared w' :=
  ⟨started.trans h.started, outstanding.trans h.outstanding, by rw [run]; exact h.run⟩

theorem Cleared.pollRun? (h : Cleared w) (next : w.pollRun? = some w') : Cleared w' := by
  obtain ⟨ctx, phase, going, -, rfl⟩ := exists_of_pollRun? next
  have awaits := h.run ctx phase going
  cases phase with
  | entered =>
    rw [proceed, enter, if_pos h.started]
    exact ⟨h.started, h.outstanding, fun _ _ going => by cases going⟩
  | awaitingFactory asked => contradiction
  | awaitingFeeds => contradiction
  | serving =>
    rw [proceed, serve]
    split
    · exact ⟨h.started, h.outstanding, fun _ _ going => by cases going⟩
    · refine ⟨h.started, h.outstanding, ?_⟩
      intro _ _ going
      cases going
      rfl

theorem Cleared.step (h : Cleared w) (step : Step w w') : Cleared w' := by
  cases step with
  | stirred stir =>
    rcases stir.kinds with turn | ⟨task, step⟩ | asked | ⟨l, rfl⟩
    · exact h.pollRun? turn
    · cases step <;> exact h.of_same rfl rfl rfl
    · cases asked <;> exact h.of_same rfl rfl rfl
    · exact h.of_same rfl rfl rfl
  | elapsed t later => exact h.of_same rfl rfl rfl
  | begun ctx free =>
    refine ⟨h.started, h.outstanding, ?_⟩
    intro _ _ going
    cases going
    rfl
  | takenOver free => exact ⟨h.started, rfl, h.run⟩
  | settled task =>
    rcases settleTask_cases w task with ⟨n, same⟩ | same
    · rw [same]
      exact h.of_same rfl rfl rfl
    · obtain ⟨backend, informers, core, cut⟩ := w.exists_cutShort task
      rw [same, abort, cut]
      exact h.of_same rfl rfl rfl
  | concluded n notice => exact h.of_same rfl rfl rfl

/-- What has been drained after the first run is gone for life. -/
theorem Cleared.life (h : Cleared w) (life : Life w w') : Cleared w' := by
  induction life with
  | refl => exact h
  | tail _ step ih => exact ih.step step

/-! ### Sparing -/

/-- Nobody is ended from outside. -/
def Spares (w w' : Scheduler) : Prop := ∀ task, IsCut w' task → IsCut w task

/-- A task that is outstanding is there, and has not been ended from outside. -/
def Intact (w : Scheduler) : Prop := ∀ task ∈ w.outstanding, w.HasTask task ∧ ¬IsCut w task

/-- Whoever is left alone is not ended. -/
theorem Spares.of_untouched (same : ∀ task, IsCut w' task → Untouched w w' task) :
    Spares w w' :=
  fun task cut => (same task cut).isCut_iff.1 cut

theorem Spares.of_same (informers : w'.informers = w.informers) (core : w'.core = w.core)
    (recording : w'.recording? = w.recording?) : Spares w w' :=
  .of_untouched fun task _ => .of_same informers core recording task

theorem TaskStep.spares (step : TaskStep w task w') : Spares w w' := by
  intro other cut
  by_cases same : other = task
  · subst same
    exact step.gone.2 cut
  · exact (step.untouched same).isCut_iff.1 cut

theorem Asked.spares (asked : Asked w w') : Spares w w' := by
  cases asked with
  | touches => exact .of_same rfl rfl rfl
  | records structured event =>
    refine .of_same rfl rfl ?_
    rw [recording?_of_structured structured]
    rfl
  | starts structured unrecorded stop =>
    apply Spares.of_untouched
    intro task cut
    cases task with
    | recording =>
      obtain ⟨r, there, aborted⟩ := cut
      cases there
      contradiction
    | informer i => rfl
    | core => rfl

theorem Intact.of_spares (h : Intact w) (spares : Spares w w')
    (tasks : ∀ task, w.HasTask task → w'.HasTask task)
    (same : w'.outstanding = w.outstanding) : Intact w' := by
  intro task there
  rw [same] at there
  exact ⟨tasks task (h task there).1, fun cut => (h task there).2 (spares task cut)⟩

theorem Intact.of_same (h : Intact w) (informers : w'.informers = w.informers)
    (core : w'.core = w.core) (recording : w'.recording? = w.recording?)
    (outstanding : w'.outstanding = w.outstanding) : Intact w' := by
  refine h.of_spares (.of_same informers core recording) ?_ outstanding
  intro task there
  exact (Untouched.of_same informers core recording task).hasTask_iff.2 there

/-- A turn of a run ends nobody who is outstanding. -/
theorem Intact.turned (h : Intact w) (turned : Turned w w') : Intact w' := by
  cases turned with
  | waits => exact h.of_same rfl rfl rfl rfl
  | admits s c run ready feeds =>
    intro task there
    cases task with
    | recording => exact h .recording (by simpa using there)
    | informer i => exact h (.informer i) (by simpa using there)
    | core => exact ⟨rfl, fun cut => by contradiction⟩

theorem intact_launchAll (nothing : w.outstanding = []) (nobody : w.informers = []) :
    Intact w.launchAll := by
  obtain ⟨s, c, b, first, l, recorded, -, same⟩ := w.exists_launchAll
  rw [same, nothing, nobody]
  intro task there
  cases task with
  | recording =>
    cases recorded with
    | starts =>
      refine ⟨rfl, ?_⟩
      intro cut
      obtain ⟨r, started, aborted⟩ := cut
      cases started
      contradiction
    | leaves => simp at there
  | informer i =>
    have inside : i < w.drivers.length := by
      cases recorded with
      | starts => simpa using there
      | leaves => simpa using there
    refine ⟨by simpa [HasTask] using inside, ?_⟩
    intro cut
    simp [IsCut, fate, List.getElem?_eq_getElem inside, Driver.task, Performance.ofScript] at cut
  | core =>
    cases recorded with
    | starts => simp at there
    | leaves => simp at there

/-- The run ends nobody from outside. -/
theorem intact_pollRun? (order : InOrder mark w) (listed : Listed w) (h : Intact w)
    (next : w.pollRun? = some w') : Intact w' := by
  obtain ⟨ctx, phase, going, -, rfl⟩ := exists_of_pollRun? next
  cases phase with
  | entered =>
    cases started : w.started with
    | true =>
      rw [proceed, enter, if_pos started]
      exact h.turned (.waits _ _ _ _)
    | false =>
      rw [proceed, enter_of_fresh started]
      exact (intact_launchAll (listed.unstarted started)
        (order.orderly.unstarted started).2).turned (turned_awaitCaches _ ctx)
  | awaitingFactory asked => exact h.turned (turned_awaitFactory w ctx asked)
  | awaitingFeeds => exact h.turned (turned_awaitFeeds w ctx)
  | serving => exact h.turned (turned_serve w ctx)

end Scheduler

end SchedulerHost.Host
