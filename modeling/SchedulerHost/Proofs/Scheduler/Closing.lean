import SchedulerHost.Proofs.Scheduler.Idling

/-!
# The deadline of a drain

What a drain does to a task when it does not wait for it, and to all tasks that are left when the
deadline is there.

* **Settling a task** (`settleTask_of_over`, `settleTask_of_going`): a task that is over is left as
  it is; any other is ended from outside, and no other task notices.
* **The deadline** (`Closing.drainTasks`): from the deadline on, exactly the tasks that last are
  ended and reported, although those who are drained in between may have turns.
-/

namespace SchedulerHost.Host

namespace Scheduler

variable {w₀ v w w' : Scheduler} {task other : Task} {late : Task → Bool} {tasks rest : List Task}

/-! ### Ending a task from outside -/

/-- To take from a task what it would still do leaves what is over as it is. -/
theorem kept_cutShort (w : Scheduler) (task : Task) : Kept w (w.cutShort task) := by
  have aside := aside_cutShort w task
  exact ⟨aside.drivers, aside.started, fun _ there => hasTask_cutShort.2 there,
    final_cutShort w task⟩

theorem Fit.cutShort (fit : Fit w) (task : Task) : Fit (w.cutShort task) := by
  have stands (other : Task) (there : (w.cutShort task).HasTask other) :
      .task other ∈ w.line.members := fit.tasks other (hasTask_cutShort.1 there)
  cases task with
  | recording =>
    cases structured : w.backend with
    | legacy =>
      simp only [Scheduler.cutShort, structured]
      exact fit
    | structured b =>
      have sane := fit.backend b structured
      simp only [Scheduler.cutShort, structured] at stands ⊢
      refine ⟨fit.run, stands, ?_, fit.informers, fit.core⟩
      intro b' same
      cases same
      exact ⟨sane.senders, sane.capacity⟩
  | informer i =>
    refine ⟨fit.run, stands, fit.backend, ?_, fit.core⟩
    intro t there
    obtain ⟨j, found⟩ := List.mem_iff_getElem?.1 there
    simp only [Scheduler.cutShort, List.getElem?_modify, Option.map_eq_map,
      Option.map_eq_some_iff] at found
    obtain ⟨t', found, rfl⟩ := found
    have sane := fit.informers t' (List.mem_of_getElem? found)
    split
    · exact sane.abort
    · exact sane
  | core =>
    refine ⟨fit.run, stands, fit.backend, fit.informers, ?_⟩
    intro t there
    simp only [Scheduler.cutShort, Option.map_eq_some_iff] at there
    obtain ⟨t', found, rfl⟩ := there
    exact (fit.core t' found).abort

theorem Fit.abort (fit : Fit w) (task : Task) : Fit (w.abort task) := by
  refine (fit.cutShort task).of_line ?_
  intro a member
  rw [line_cutShort] at member
  rw [Line.members_wake]
  exact member

/-- A task that is ended is outstanding as before. -/
theorem outstanding_abort (w : Scheduler) (task : Task) :
    (w.abort task).outstanding = w.outstanding := by
  obtain ⟨backend, informers, core, cut⟩ := w.exists_cutShort task
  rw [Scheduler.abort, cut]

/-- Nobody else becomes able to go on. -/
theorem canGoOn_of_cutShort {a : Agent} (able : (w.cutShort task).canGoOn a = true) :
    a = .task task ∨ w.canGoOn a = true := by
  by_cases same : a = .task task
  · exact .inl same
  · right
    cases task with
    | recording =>
      simp only [cutShort] at able
      split at able
      · cases a with
        | run => exact able
        | task other =>
          cases other with
          | recording => contradiction
          | informer i => exact able
          | core => exact able
      · exact able
    | informer i =>
      cases a with
      | run => exact able
      | task other =>
        cases other with
        | recording => exact able
        | informer j =>
          have differs : Task.informer j ≠ .informer i := by
            rintro ⟨⟩
            contradiction
          have found : (w.cutShort (.informer i)).informers[j]? = w.informers[j]? :=
            untouched_cutShort differs
          rw [canGoOn, found] at able
          exact able
        | core => exact able
    | core =>
      cases a with
      | run => exact able
      | task other =>
        cases other with
        | recording => exact able
        | informer i => exact able
        | core => contradiction

theorem Lasts.cutShort (lasts : w.Lasts other) (differs : other ≠ task) :
    (w.cutShort task).Lasts other := by
  have told : w.surroundings.Extends (w.cutShort task).surroundings := by
    obtain ⟨backend, informers, core, same⟩ := w.exists_cutShort task
    rw [same]
    exact .refl _
  exact ((untouched_cutShort differs).lasts_iff told).1 lasts

/-- Exactly one task is ended. -/
theorem cut_cutShort_iff (there : w.HasTask task) (going : (w.fate task).isOver = false) :
    IsCut (w.cutShort task) other ↔ IsCut w other ∨ other = task := by
  by_cases same : other = task
  · subst same
    exact iff_of_true (cut_cutShort there going) (.inr rfl)
  · rw [(untouched_cutShort same).isCut_iff, or_iff_left same]

theorem cut_line_iff (l : Line Agent) : IsCut { w with line := l } task ↔ IsCut w task :=
  (Untouched.of_same rfl rfl rfl task).isCut_iff

theorem cut_note_iff (n : Notice) : IsCut (w.note n) task ↔ IsCut w task :=
  (Untouched.of_same rfl rfl rfl task).isCut_iff

/-! ### Settling a task -/

/-- Whoever is over without having been ended from outside has ended or panicked. -/
theorem fate_of_over (done : (w.fate task).isOver = true) (whole : ¬IsCut w task) :
    w.fate task = .ended ∨ ∃ message, w.fate task = .panicked message := by
  cases fate : w.fate task with
  | pending => simp [fate, Fate.isOver] at done
  | going => simp [fate, Fate.isOver] at done
  | ended => exact .inl rfl
  | panicked message => exact .inr ⟨message, rfl⟩
  | aborted =>
    cases task with
    | recording =>
      rw [fate_recording] at fate
      cases recording : w.recording? with
      | none => simp [recording] at fate
      | some r =>
        rw [recording, Option.map_some, Option.getD_some, Recording.fate] at fate
        split at fate
        · contradiction
        · contradiction
    | informer i => exact absurd fate whole
    | core => exact absurd fate whole

/-- A task that is over is left as it is. -/
theorem settleTask_of_over (done : (w.fate task).isOver = true) (whole : ¬IsCut w task) :
    ∃ n, w.settleTask task = (w.note n, none) := by
  rcases fate_of_over done whole with fate | ⟨message, fate⟩
  · exact ⟨_, by rw [settleTask, fate]⟩
  · exact ⟨_, by rw [settleTask, fate]⟩

/-- A task that is not over is ended from outside, and reported. -/
theorem settleTask_of_going (going : (w.fate task).isOver = false) :
    w.settleTask task = (w.abort task, some (w.taskName task)) := by
  cases fate : w.fate task with
  | pending => rw [settleTask, fate]
  | going => rw [settleTask, fate]
  | ended => simp [fate, Fate.isOver] at going
  | panicked message => simp [fate, Fate.isOver] at going
  | aborted => simp [fate, Fate.isOver] at going

theorem now_settleTask (w : Scheduler) (task : Task) :
    (w.settleTask task).1.surroundings.now = w.surroundings.now := by
  rcases settleTask_cases w task with ⟨n, same⟩ | same
  · rw [same]
    rfl
  · obtain ⟨backend, informers, core, cut⟩ := w.exists_cutShort task
    rw [same, abort, cut]

theorem kept_note (w : Scheduler) (n : Notice) : Kept w (w.note n) := .of_same rfl rfl rfl rfl rfl

theorem kept_settleTask (w : Scheduler) (task : Task) : Kept w (w.settleTask task).1 := by
  rcases settleTask_cases w task with ⟨n, same⟩ | same
  · rw [same]
    exact kept_note w n
  · rw [same]
    exact (kept_cutShort w task).trans (.of_same rfl rfl rfl rfl rfl)

/-- Names are given by the drivers. -/
theorem taskName_congr (kept : Kept v w) (task : Task) : w.taskName task = v.taskName task := by
  cases task with
  | recording => rfl
  | informer i => rw [taskName, taskName, kept.drivers]
  | core => rfl

/-! ### Poise -/

/-- A scheduler without a run, of which whoever can go on has been woken. -/
structure Poised (w₀ v w : Scheduler) : Prop where
  idle : Idle w₀ v w
  roused : Machine.Roused w

theorem Poised.refl (h : Poised w₀ v w) : Poised w₀ w w := ⟨h.idle.refl, h.roused⟩

theorem Idle.trans (first : Idle w₀ v w) (last : Idle w₀ w w') : Idle w₀ v w' :=
  ⟨last.reached, last.free, last.outstanding, first.kept.trans last.kept,
    fun other cut => first.spares other (last.spares other cut)⟩

/-- Entries of the journal wake nobody. -/
theorem roused_note (free : w.isRunning = false) (roused : Machine.Roused w) (n : Notice) :
    Machine.Roused (w.note n) := by
  intro a able
  have alike : Alike (w.note n) w := ⟨free, rfl⟩
  rw [likeness_bare.able_eq a alike] at able
  exact roused a able

/-- Whoever can go on after a task has been ended is woken,
the task that is to be put away included. -/
theorem roused_abort (fit : Fit w) (roused : Machine.Roused w) (task : Task) :
    Machine.Roused (w.abort task) := by
  intro a able
  rw [isAble_eq] at able
  change (w.cutShort task).canGoOn a = true at able
  show a ∈ (w.line.wake (· = .task task)).woken
  rw [Line.mem_woken_wake]
  -- Only the one who is ended can have become able, and it is woken.
  rcases canGoOn_of_cutShort able with rfl | before
  · refine .inr ⟨?_, by simp⟩
    have stands := (fit.cutShort task).mem_of_canGoOn able
    rw [line_cutShort] at stands
    exact stands
  · refine .inl (roused a ?_)
    rw [isAble_eq]
    exact before

/-- A drain may go on to the next task once it is done with one. -/
theorem Poised.settleTask (h : Poised w₀ v w) (task : Task) :
    Poised w₀ (w.settleTask task).1 (w.settleTask task).1 := by
  have life := h.idle.reached.life.tail (.settled task)
  have aside := aside_settleTask w task
  have free : (w.settleTask task).1.isRunning = false := by
    rw [isRunning, aside.run]
    exact h.idle.free
  obtain ⟨fit, nothing, roused⟩ : Fit (w.settleTask task).1 ∧
      (w.settleTask task).1.outstanding = [] ∧ Machine.Roused (w.settleTask task).1 := by
    rcases settleTask_cases w task with ⟨n, same⟩ | same
    · rw [same]
      exact ⟨h.idle.reached.fit.of_surroundings _, h.idle.outstanding,
        roused_note h.idle.free h.roused n⟩
    · rw [same]
      exact ⟨h.idle.reached.fit.abort task, (w.outstanding_abort task).trans h.idle.outstanding,
        roused_abort h.idle.reached.fit h.roused task⟩
  refine ⟨⟨⟨fit, life, ?_⟩, free, nothing, .refl _, fun _ cut => cut⟩, roused⟩
  intro other there
  rw [nothing] at there
  contradiction

/-! ### What a drain comes to -/

/-- What has become of a scheduler that was drained of some tasks, of which some were too late. -/
structure Closed (v : Scheduler) (late : Task → Bool) (tasks : List Task) (w : Scheduler)
    (remaining : List String) : Prop where
  kept : Kept v w
  names : remaining = (tasks.filter late).map v.taskName
  cut (task : Task) : IsCut w task ↔ IsCut v task ∨ task ∈ tasks ∧ late task = true

/-- No task has been drained yet. -/
theorem Idle.closed (h : Idle w₀ v w) (late : Task → Bool) : Closed v late [] w [] where
  kept := h.kept
  names := rfl
  cut task := by
    constructor
    · intro cut
      exact .inl (h.spares task cut)
    · rintro (cut | ⟨never, -⟩)
      · exact h.kept.final.isCut cut
      · cases never

/-- Drains of some tasks, one after the other, are one drain of all. -/
theorem Closed.append {first second : List String} (closed : Closed v late tasks w first)
    (further : Closed w late rest w' second) :
    Closed v late (tasks ++ rest) w' (first ++ second) where
  kept := closed.kept.trans further.kept
  names := by
    have same : w.taskName = v.taskName := funext (taskName_congr closed.kept)
    rw [closed.names, further.names, same, List.filter_append, List.map_append]
  cut task := by
    rw [further.cut, closed.cut, List.mem_append, or_and_right, or_assoc]

/-- A task that is over is drained. -/
theorem closed_of_over (done : (w.fate task).isOver = true) (whole : ¬IsCut w task)
    (early : late task = false) :
    Closed w late [task] (w.settleTask task).1 (w.settleTask task).2.toList := by
  obtain ⟨n, same⟩ := settleTask_of_over done whole
  rw [same]
  refine ⟨kept_note w n, by simp [early], ?_⟩
  intro other
  rw [cut_note_iff]
  constructor
  · exact .inl
  · rintro (cut | ⟨member, tardy⟩)
    · exact cut
    · rw [List.mem_singleton.1 member, early] at tardy
      contradiction

/-- A task that lasts is ended and reported. -/
theorem closed_of_lasts (there : w.HasTask task) (lasts : w.Lasts task)
    (tardy : late task = true) :
    Closed w late [task] (w.settleTask task).1 (w.settleTask task).2.toList := by
  have kept := kept_settleTask w task
  rw [settleTask_of_going lasts.isOver] at kept ⊢
  refine ⟨kept, by simp [tardy], ?_⟩
  intro other
  rw [abort, cut_line_iff, cut_cutShort_iff there lasts.isOver, List.mem_singleton]
  constructor
  · rintro (cut | rfl)
    · exact .inl cut
    · exact .inr ⟨rfl, tardy⟩
  · rintro (cut | ⟨rfl, -⟩)
    · exact .inl cut
    · exact .inr rfl

/-! ### The deadline -/

/-- A scheduler at a deadline, with the tasks that are still to be drained. -/
structure Closing (w₀ : Scheduler) (late : Task → Bool) (w : Scheduler) (tasks : List Task) :
    Prop where
  poised : Poised w₀ w w
  there (task : Task) : task ∈ tasks → w.HasTask task ∧ ¬IsCut w task
  done (task : Task) : task ∈ tasks → late task = false → (w.fate task).isOver = true
  lasts (task : Task) : task ∈ tasks → late task = true → w.Lasts task

/-- Settling a task makes no difference to the others. -/
theorem Lasts.settleTask (lasts : w.Lasts other) (differs : other ≠ task) :
    (w.settleTask task).1.Lasts other := by
  rcases settleTask_cases w task with ⟨n, same⟩ | same
  · rw [same]
    have untouched : Untouched w (w.note n) other := .of_same rfl rfl rfl other
    exact (untouched.lasts_iff (.note _ _ _)).1 lasts
  · rw [same]
    have untouched : Untouched (w.cutShort task) (w.abort task) other := .of_same rfl rfl rfl other
    exact (untouched.lasts_iff (.refl _)).1 (lasts.cutShort differs)

/-- At the deadline a task that lasts is ended, and one that is over is left alone. -/
theorem Closing.closed (h : Closing w₀ late w (task :: rest)) :
    Closed w late [task] (w.settleTask task).1 (w.settleTask task).2.toList := by
  obtain ⟨there, whole⟩ := h.there task List.mem_cons_self
  cases tardy : late task with
  | false => exact closed_of_over (h.done task List.mem_cons_self tardy) whole tardy
  | true => exact closed_of_lasts there (h.lasts task List.mem_cons_self tardy) tardy

/-- One task is drained, the others are still to be. -/
theorem Closing.settleTask (h : Closing w₀ late w (task :: rest)) (nodup : (task :: rest).Nodup) :
    Closing w₀ late (w.settleTask task).1 rest := by
  have closed := h.closed
  have kept := closed.kept
  refine ⟨h.poised.settleTask task, ?_, ?_, ?_⟩
  · -- No task is drained twice, so this one is none of the others.
    intro other member
    obtain ⟨there, whole⟩ := h.there other (List.mem_cons_of_mem _ member)
    refine ⟨kept.tasks other there, ?_⟩
    intro cut
    rcases (closed.cut other).1 cut with before | ⟨same, -⟩
    · exact whole before
    · rw [List.mem_singleton.1 same] at member
      exact (List.nodup_cons.1 nodup).1 member
  · intro other member early
    exact kept.final.isOver (h.done other (List.mem_cons_of_mem _ member) early)
  · intro other member tardy
    refine (h.lasts other (List.mem_cons_of_mem _ member) tardy).settleTask ?_
    rintro rfl
    exact (List.nodup_cons.1 nodup).1 member

/-- To give way lets others go on, which settling would have done as well. -/
theorem Poised.giveWay (fresh : Fresh w₀) (h : Poised w₀ v w) :
    Poised w₀ v (Machine.giveWay w) ∧
      (Machine.giveWay w).surroundings.now = w.surroundings.now ∧
        Machine.settle (Machine.giveWay w) = Machine.settle w := by
  obtain ⟨idle, roused, now, same⟩ := (sound_idle fresh v).giveWay_facts h.idle h.roused
  exact ⟨⟨idle, roused⟩, now, same⟩

/-- Whoever takes breath gives way or does nothing. -/
theorem takeBreath_cases (w : Scheduler) (patience : Nat) :
    (w.takeBreath patience).1 = w ∨ (w.takeBreath patience).1 = Machine.giveWay w := by
  cases patience with
  | zero =>
    right
    rw [takeBreath]
  | succ n => exact .inl rfl

/-- Giving way decides nothing about the tasks that are too late, and cuts nobody short. -/
theorem Closing.takeBreath (fresh : Fresh w₀) (h : Closing w₀ late w tasks) (patience : Nat) :
    Closing w₀ late (w.takeBreath patience).1 tasks ∧
      Closed w late [] (w.takeBreath patience).1 [] ∧
        (w.takeBreath patience).1.surroundings.now = w.surroundings.now := by
  rcases takeBreath_cases w patience with same | same
  · rw [same]
    exact ⟨h, h.poised.idle.closed late, rfl⟩
  · obtain ⟨poised, now, -⟩ := h.poised.giveWay fresh
    rw [same]
    refine ⟨⟨poised.refl, ?_, ?_, ?_⟩, poised.idle.closed late, now⟩
    · intro task member
      obtain ⟨there, whole⟩ := h.there task member
      exact ⟨poised.idle.kept.tasks task there, fun cut => whole (poised.idle.spares task cut)⟩
    · intro task member early
      exact poised.idle.kept.final.isOver (h.done task member early)
    · intro task member tardy
      exact (lasts_giveWay fresh h.poised.idle).1 (h.lasts task member tardy)

/-- Nobody is waited for at the deadline. -/
theorem awaitTask_of_passed (task : Task) {deadline patience : Nat}
    (passed : deadline ≤ w.surroundings.now)
    (now : (w.takeBreath patience).1.surroundings.now = w.surroundings.now) :
    (w.awaitTask deadline patience task).1 = (w.takeBreath patience).1 := by
  simp only [awaitTask]
  rw [if_pos (.inr (by omega))]

/-- The first task is waited for and settled, then the others are drained. -/
theorem drainTasks_cons {deadline patience : Nat}
    (waited : (w.awaitTask deadline patience task).1 = w') (rest : List Task) :
    ∃ left : Nat, w.drainTasks deadline patience (task :: rest) =
      (((w'.settleTask task).1.drainTasks deadline left rest).1,
        (w'.settleTask task).2.toList ++
          ((w'.settleTask task).1.drainTasks deadline left rest).2) :=
  ⟨(w.awaitTask deadline patience task).2, by rw [← waited]; rfl⟩

/-- **The deadline.** From the deadline on, exactly the tasks that last are ended and reported, in
their order, and no time passes. -/
theorem Closing.drainTasks (fresh : Fresh w₀) {deadline : Nat} (h : Closing w₀ late w tasks)
    (nodup : tasks.Nodup) (passed : deadline ≤ w.surroundings.now) (patience : Nat) :
    Closed w late tasks (w.drainTasks deadline patience tasks).1
        (w.drainTasks deadline patience tasks).2 ∧
      (w.drainTasks deadline patience tasks).1.surroundings.now = w.surroundings.now := by
  induction tasks generalizing w patience with
  | nil => exact ⟨h.poised.idle.closed late, rfl⟩
  | cons task rest ih =>
    -- Nobody is waited for, but while breath is taken the others may go on.
    obtain ⟨closing, breath, now⟩ := h.takeBreath fresh patience
    obtain ⟨left, same⟩ := drainTasks_cons (awaitTask_of_passed task passed now) rest
    have settled := now_settleTask (w.takeBreath patience).1 task
    obtain ⟨closed, unmoved⟩ := ih (closing.settleTask nodup) (List.nodup_cons.1 nodup).2
      (by omega) left
    rw [same]
    exact ⟨(breath.append closing.closed).append closed, unmoved.trans (settled.trans now)⟩

end Scheduler

end SchedulerHost.Host
