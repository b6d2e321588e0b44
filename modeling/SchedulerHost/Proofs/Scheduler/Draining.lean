import SchedulerHost.Proofs.Scheduler.Closing

/-!
# Before the deadline

Whoever drains tasks one after the other only looks on while they go on by themselves, until the
deadline is there.

* `isOverAfter`: how a task stands after a number of milliseconds, if nobody asks anything.
* **On course** (`OnCourse`): what has been drained so far makes no difference to the others.
* **Exactness** (`drainTasks_exact`): the drain of many tasks comes to what waiting for all of them
  at once would come to.
-/

namespace SchedulerHost.Host

namespace Scheduler

variable {w₀ v w w' : Scheduler} {task : Task} {tasks rest : List Task} {k m n d : Nat}

/-! ### The course of the tasks -/

/-- Is a task over a number of milliseconds from now, if nobody asks anything? -/
def isOverAfter (w : Scheduler) (n : Nat) (task : Task) : Bool :=
  ((Machine.after n w).fate task).isOver

def isLate (w : Scheduler) (d : Nat) (task : Task) : Bool := !w.isOverAfter d task

/-- A task does not end at the very moment of the deadline: if it is over then, it was over before,
or is over now. -/
def EndsApart (w : Scheduler) (d : Nat) (task : Task) : Prop :=
  w.isOverAfter d task = true → (w.fate task).isOver = true ∨ ∃ n < d, w.isOverAfter n task = true

/-- A scheduler without a run stays so while time passes. -/
theorem Poised.after (fresh : Fresh w₀) (h : Poised w₀ v w) (n : Nat) :
    Poised w₀ v (Machine.after n w) := by
  obtain ⟨idle, still, -⟩ := (sound_idle fresh v).after_facts h.idle h.roused n
  exact ⟨idle, still.roused⟩

theorem Poised.now_after (fresh : Fresh w₀) (h : Poised w₀ v w) (n : Nat) :
    (Machine.after n w).surroundings.now = w.surroundings.now + n :=
  ((sound_idle fresh v).after_facts h.idle h.roused n).2.2

theorem Poised.advance (fresh : Fresh w₀) (h : Poised w₀ v w) (n : Nat) :
    Poised w₀ v (Machine.advance n w) := by
  obtain ⟨idle, roused, -⟩ := (sound_idle fresh v).advance_facts h.idle h.roused n
  exact ⟨idle, roused⟩

theorem Poised.now_advance (fresh : Fresh w₀) (h : Poised w₀ v w) (n : Nat) :
    (Machine.advance n w).surroundings.now = w.surroundings.now + n :=
  ((sound_idle fresh v).advance_facts h.idle h.roused n).2.2

/-- What is over stays over. -/
theorem Poised.isOverAfter_mono (fresh : Fresh w₀) (h : Poised w₀ v w) (later : m ≤ n)
    (done : w.isOverAfter m task = true) : w.isOverAfter n task = true := by
  have course := (sound_idle fresh v).after_after h.idle h.roused m (n - m)
  rw [Nat.add_sub_cancel' later] at course
  rw [isOverAfter, ← course]
  exact ((h.after fresh m).refl.after fresh (n - m)).idle.kept.final.isOver done

theorem Poised.isOverAfter_of_over (fresh : Fresh w₀) (h : Poised w₀ v w)
    (done : (w.fate task).isOver = true) : w.isOverAfter n task = true :=
  (h.refl.after fresh n).idle.kept.final.isOver done

/-! ### On course -/

/-- A scheduler that some tasks have been drained of, and that is how it would be without it. -/
structure OnCourse (w₀ v : Scheduler) (m : Nat) (w : Scheduler) : Prop where
  poised : Poised w₀ v w
  now : w.surroundings.now = v.surroundings.now + m
  alike : Alike (Machine.settle w) (Machine.after m v)

theorem Poised.onCourse (fresh : Fresh w₀) (h : Poised w₀ v v) : OnCourse w₀ v 0 v where
  poised := h
  now := rfl
  alike := by
    rw [Machine.after_zero]
    refine .refl ?_
    rw [← Machine.after_zero]
    exact (h.after fresh 0).idle.free

theorem OnCourse.after (fresh : Fresh w₀) (start : Poised w₀ v v) (h : OnCourse w₀ v m w)
    (n : Nat) : OnCourse w₀ v (m + n) (Machine.after n w) where
  poised := h.poised.after fresh n
  now := by
    rw [h.poised.now_after fresh, h.now]
    omega
  alike := by
    have sound := sound_idle fresh v
    have still := (sound.after_facts h.poised.idle h.poised.roused n).2.1
    have here := sound.after_after h.poised.idle h.poised.roused 0 n
    have there := sound.after_after start.idle start.roused m n
    rw [Nat.zero_add, Machine.after_zero] at here
    -- What is alike stays alike when as much time passes for both.
    rw [Machine.settle_of_still still, ← here, ← there]
    exact likeness_bare.after h.alike n

/-- Whether a task will be over in time can be asked at the beginning of a drain or in
the middle of it. -/
theorem OnCourse.isOverAfter (fresh : Fresh w₀) (start : Poised w₀ v v)
    (h : OnCourse w₀ v m w) (n : Nat) (task : Task) :
    w.isOverAfter n task = v.isOverAfter (m + n) task := by
  have still := ((sound_idle fresh v).after_facts h.poised.idle h.poised.roused n).2.1
  have alike := (h.after fresh start n).alike
  rw [Machine.settle_of_still still] at alike
  rw [Scheduler.isOverAfter, Scheduler.isOverAfter, alike.fate]

theorem OnCourse.isOverAfter_of_over (fresh : Fresh w₀) (start : Poised w₀ v v)
    (h : OnCourse w₀ v m w) (done : (w.fate task).isOver = true) :
    v.isOverAfter m task = true := by
  rw [← Nat.add_zero m, ← h.isOverAfter fresh start]
  exact h.poised.isOverAfter_of_over fresh done

theorem OnCourse.takeBreath (fresh : Fresh w₀) (h : OnCourse w₀ v m w) (patience : Nat) :
    OnCourse w₀ v m (w.takeBreath patience).1 := by
  rcases takeBreath_cases w patience with same | same
  · rw [same]
    exact h
  · obtain ⟨poised, now, settled⟩ := h.poised.giveWay fresh
    rw [same]
    refine ⟨poised, now.trans h.now, ?_⟩
    rw [settled]
    exact h.alike

/-- Nobody notices that a task which is over is drained. -/
theorem OnCourse.settleTask (h : OnCourse w₀ v m w) (done : (w.fate task).isOver = true)
    (whole : ¬IsCut w task) :
    OnCourse w₀ v m (w.settleTask task).1 ∧ (w.settleTask task).2 = none := by
  have poised := h.poised.settleTask task
  obtain ⟨n, same⟩ := settleTask_of_over done whole
  rw [same] at poised ⊢
  have alike : Alike (w.note n) w := ⟨h.poised.idle.free, rfl⟩
  have idle : Idle w₀ w (w.note n) :=
    ⟨poised.idle.reached, poised.idle.free, poised.idle.outstanding, kept_note w n,
      .of_same rfl rfl rfl⟩
  exact ⟨⟨⟨h.poised.idle.trans idle, poised.roused⟩, h.now,
    (likeness_bare.settle alike).trans h.alike⟩, rfl⟩

/-! ### Reaching the deadline -/

/-- Before the deadline, whoever is not late is over. -/
theorem OnCourse.over_of_apart (fresh : Fresh w₀) (start : Poised w₀ v v)
    (h : OnCourse w₀ v m w) (before : m < d) (apart : v.EndsApart d task)
    (early : v.isLate d task = false) :
    (v.fate task).isOver = true ∨ ∃ n, m + n < d ∧ w.isOverAfter n task = true := by
  rw [isLate, Bool.not_eq_false'] at early
  refine (apart early).imp id ?_
  rintro ⟨n, less, done⟩
  -- It may have been over before `w` was attained.
  refine ⟨max n m - m, by omega, ?_⟩
  rw [h.isOverAfter fresh start]
  exact start.isOverAfter_mono fresh (by omega) done

/-- The tasks are let go on until the deadline. -/
theorem OnCourse.closing (fresh : Fresh w₀) (start : Poised w₀ v v) (h : OnCourse w₀ v m w)
    (before : m < d) (apart : ∀ task ∈ tasks, v.EndsApart d task)
    (intact : ∀ task ∈ tasks, v.HasTask task ∧ ¬IsCut v task) :
    Closing w₀ (v.isLate d) (Machine.advance (d - m) w) tasks := by
  have poised := h.poised.advance fresh (d - m)
  refine ⟨poised.refl, ?_, ?_, ?_⟩
  · intro task member
    obtain ⟨there, whole⟩ := intact task member
    exact ⟨poised.idle.kept.tasks task there, fun cut => whole (poised.idle.spares task cut)⟩
  · intro task member early
    rcases h.over_of_apart fresh start before (apart task member) early with done | ⟨n, less, done⟩
    · exact poised.idle.kept.final.isOver done
    · -- What is over before the deadline is over when the deadline comes.
      have course := (sound_idle fresh v).advance_after h.poised.idle h.poised.roused n
        (n := d - m - n) (by omega)
      rw [show n + (d - m - n) = d - m by omega] at course
      rw [← course]
      exact ((h.poised.after fresh n).refl.advance fresh _).idle.kept.final.isOver done
  · intro task member tardy
    rw [isLate, Bool.not_eq_true'] at tardy
    rw [lasts_iff_settle fresh poised.idle poised.roused]
    have same := h.isOverAfter fresh start (d - m) task
    rw [Nat.add_sub_cancel' (Nat.le_of_lt before), tardy] at same
    exact same

/-- A drain without any patience finds the deadline there already. -/
theorem Poised.closing (fresh : Fresh w₀) (start : Poised w₀ v v)
    (apart : ∀ task ∈ tasks, v.EndsApart 0 task)
    (intact : ∀ task ∈ tasks, v.HasTask task ∧ ¬IsCut v task) :
    Closing w₀ (v.isLate 0) v tasks := by
  refine ⟨start, intact, ?_, ?_⟩
  · intro task member early
    rw [isLate, Bool.not_eq_false'] at early
    rcases apart task member early with done | ⟨n, never, -⟩
    · exact done
    · exact absurd never (Nat.not_lt_zero n)
  · intro task member tardy
    rw [isLate, Bool.not_eq_true', isOverAfter, Machine.after_zero] at tardy
    exact (lasts_iff_settle fresh start.idle start.roused).2 tardy

/-! ### Waiting -/

/-- A task that is over is not waited for. -/
theorem awaitTask_of_over {deadline patience : Nat}
    (done : ((w.takeBreath patience).1.fate task).isOver = true) :
    (w.awaitTask deadline patience task).1 = (w.takeBreath patience).1 := by
  simp only [awaitTask]
  rw [if_pos (.inl done)]

theorem awaitTask_of_going {deadline patience : Nat}
    (going : ((w.takeBreath patience).1.fate task).isOver = false)
    (before : (w.takeBreath patience).1.surroundings.now < deadline) :
    (w.awaitTask deadline patience task).1 =
      Machine.await (fun w => (w.fate task).isOver) deadline (w.takeBreath patience).1 := by
  simp only [awaitTask]
  rw [if_neg]
  rintro (done | passed)
  · rw [going] at done
    contradiction
  · omega

/-- Whoever waits for a task goes on as soon as it is over, or at the deadline if it is late. -/
theorem OnCourse.awaitTask (fresh : Fresh w₀) (start : Poised w₀ v v) (h : OnCourse w₀ v m w)
    (before : m < d) (apart : v.EndsApart d task) (patience : Nat) :
    (∃ k, m ≤ k ∧ k < d ∧
      OnCourse w₀ v k (w.awaitTask (v.surroundings.now + d) patience task).1 ∧
      ((w.awaitTask (v.surroundings.now + d) patience task).1.fate task).isOver = true ∧
      ∀ n, m ≤ n → n < k → v.isOverAfter n task = false) ∨
    v.isLate d task = true ∧ ∃ x, OnCourse w₀ v m x ∧
      (w.awaitTask (v.surroundings.now + d) patience task).1 = Machine.advance (d - m) x := by
  have course := h.takeBreath fresh patience
  cases done : ((w.takeBreath patience).1.fate task).isOver with
  | true =>
    rw [awaitTask_of_over done]
    exact .inl ⟨m, Nat.le_refl m, before, course, done, fun n later earlier => by omega⟩
  | false =>
    have now : Machine.now (w.takeBreath patience).1 = v.surroundings.now + m := course.now
    have early : Machine.now (w.takeBreath patience).1 < v.surroundings.now + d := by omega
    rw [awaitTask_of_going done early]
    rcases (sound_idle fresh v).await_cases (fun w => (w.fate task).isOver)
        (fun _ _ => by cases task <;> rfl) course.poised.idle course.poised.roused early with
      ⟨n, early, there, first, same⟩ | ⟨never, same⟩
    · left
      rw [same]
      refine ⟨m + n, by omega, by omega, course.after fresh start n, there, ?_⟩
      intro j later earlier
      have before := course.isOverAfter fresh start (j - m) task
      rw [Nat.add_sub_cancel' later] at before
      rw [← before]
      exact first (j - m) (by omega)
    · right
      rw [same]
      refine ⟨?_, _, course, ?_⟩
      · cases early : v.isLate d task with
        | true => rfl
        | false =>
          rcases course.over_of_apart fresh start before apart early with already | ⟨n, less, there⟩
          · rw [course.poised.idle.kept.final.isOver already] at done
            contradiction
          · rw [Scheduler.isOverAfter, never n (by omega)] at there
            contradiction
      · congr 1
        omega

/-! ### One task after the other -/

/-- A task that is in time makes no difference to what a drain comes to. -/
theorem Closed.cons {late : Task → Bool} {remaining : List String}
    (closed : Closed v late rest w remaining) (early : late task = false) :
    Closed v late (task :: rest) w remaining where
  kept := closed.kept
  names := by
    rw [List.filter_cons_of_neg (by simp [early])]
    exact closed.names
  cut other := by
    rw [closed.cut, List.mem_cons]
    constructor
    · rintro (cut | ⟨member, tardy⟩)
      · exact .inl cut
      · exact .inr ⟨.inr member, tardy⟩
    · rintro (cut | ⟨rfl | member, tardy⟩)
      · exact .inl cut
      · rw [early] at tardy
        contradiction
      · exact .inr ⟨member, tardy⟩

/-- When the drain of some tasks is over that was begun after `m` milliseconds, with `d`
milliseconds for all: as soon as all of them are over, or at the deadline if one of them is late. -/
inductive Concluded (v : Scheduler) (d m : Nat) (tasks : List Task) (now : Nat) : Prop
  | inTime (k : Nat) (later : m ≤ k) (before : k ≤ d) (there : now = v.surroundings.now + k)
    (all : ∀ task ∈ tasks, v.isOverAfter k task = true)
    (first : ∀ n, m ≤ n → n < k → ∃ task ∈ tasks, v.isOverAfter n task = false)
  | tooLate (late : ∃ task ∈ tasks, v.isLate d task = true) (there : now = v.surroundings.now + d)

/-- A task was waited for that is over now. -/
theorem Concluded.cons {now : Nat} (fresh : Fresh w₀) (start : Poised w₀ v v)
    (concluded : Concluded v d k rest now) (later : m ≤ k)
    (done : v.isOverAfter k task = true)
    (first : ∀ n, m ≤ n → n < k → v.isOverAfter n task = false) :
    Concluded v d m (task :: rest) now := by
  cases concluded with
  | inTime j later' before there all first' =>
    refine .inTime j (Nat.le_trans later later') before there ?_ ?_
    · rintro other (_ | ⟨_, member⟩)
      · exact start.isOverAfter_mono fresh later' done
      · exact all other member
    · intro n begun earlier
      by_cases waited : n < k
      · exact ⟨task, List.mem_cons_self, first n begun waited⟩
      · obtain ⟨other, member, going⟩ := first' n (by omega) earlier
        exact ⟨other, List.mem_cons_of_mem _ member, going⟩
  | tooLate late there =>
    obtain ⟨other, member, tardy⟩ := late
    exact .tooLate ⟨other, List.mem_cons_of_mem _ member, tardy⟩ there

/-- One task after the other is waited for, until one is late. From then on the deadline is there,
and the tasks behind it have had all the time they would have had anyway. -/
theorem OnCourse.drainTasks (fresh : Fresh w₀) (start : Poised w₀ v v) (h : OnCourse w₀ v m w)
    (before : m < d) (apart : ∀ task ∈ tasks, v.EndsApart d task)
    (intact : ∀ task ∈ tasks, v.HasTask task ∧ ¬IsCut v task) (nodup : tasks.Nodup)
    (patience : Nat) :
    Closed v (v.isLate d) tasks (w.drainTasks (v.surroundings.now + d) patience tasks).1
        (w.drainTasks (v.surroundings.now + d) patience tasks).2 ∧
      Concluded v d m tasks
        (w.drainTasks (v.surroundings.now + d) patience tasks).1.surroundings.now := by
  induction tasks generalizing w m patience with
  | nil =>
    refine ⟨h.poised.idle.closed _, .inTime m (Nat.le_refl m) (Nat.le_of_lt before) h.now ?_ ?_⟩
    · exact fun task never => (List.not_mem_nil never).elim
    · exact fun n later earlier => by omega
  | cons task rest ih =>
    rcases h.awaitTask fresh start before (apart task List.mem_cons_self) patience with
      ⟨k, later, earlier, course, done, first⟩ | ⟨tardy, x, course, same⟩
    · obtain ⟨left, same⟩ := drainTasks_cons
        (rfl : (w.awaitTask (v.surroundings.now + d) patience task).1 = _) rest
      have whole := (intact task List.mem_cons_self).2
      obtain ⟨settled, nothing⟩ :=
        course.settleTask done fun cut => whole (course.poised.idle.spares task cut)
      obtain ⟨closed, concluded⟩ := ih settled earlier
        (fun other member => apart other (List.mem_cons_of_mem _ member))
        (fun other member => intact other (List.mem_cons_of_mem _ member))
        (List.nodup_cons.1 nodup).2 left
      have ended := course.isOverAfter_of_over fresh start done
      have early : v.isLate d task = false := by
        rw [isLate, start.isOverAfter_mono fresh (Nat.le_of_lt earlier) ended]
        rfl
      rw [same, nothing]
      exact ⟨closed.cons early, concluded.cons fresh start later ended first⟩
    · -- This task takes all the time there is, and the deadline is there for the others.
      obtain ⟨left, split⟩ := drainTasks_cons same rest
      have closing := course.closing fresh start before apart intact
      have waited := course.poised.advance fresh (d - m)
      have there := course.poised.now_advance fresh (d - m)
      have now := course.now
      have unmoved := now_settleTask (Machine.advance (d - m) x) task
      have passed : v.surroundings.now + d ≤
          ((Machine.advance (d - m) x).settleTask task).1.surroundings.now := by omega
      obtain ⟨closed, still⟩ := (closing.settleTask nodup).drainTasks fresh
        (List.nodup_cons.1 nodup).2 passed left
      rw [split]
      refine ⟨((waited.idle.closed _).append closing.closed).append closed,
        .tooLate ⟨task, List.mem_cons_self, tardy⟩ ?_⟩
      rw [still]
      omega

/-- **Exactness.** Draining tasks one after the other under one deadline ends and reports exactly
those that are late, in their order, and is over as soon as all are over, or at the deadline. -/
theorem drainTasks_exact (fresh : Fresh w₀) (start : Poised w₀ v v)
    (apart : ∀ task ∈ tasks, v.EndsApart d task)
    (intact : ∀ task ∈ tasks, v.HasTask task ∧ ¬IsCut v task) (nodup : tasks.Nodup)
    (patience : Nat) :
    Closed v (v.isLate d) tasks (v.drainTasks (v.surroundings.now + d) patience tasks).1
        (v.drainTasks (v.surroundings.now + d) patience tasks).2 ∧
      Concluded v d 0 tasks
        (v.drainTasks (v.surroundings.now + d) patience tasks).1.surroundings.now := by
  rcases Nat.eq_zero_or_pos d with rfl | pos
  · obtain ⟨closed, still⟩ :=
      (start.closing fresh apart intact).drainTasks fresh nodup (Nat.le_refl _) patience
    refine ⟨closed, ?_⟩
    rw [Nat.add_zero, still]
    by_cases tardy : ∃ task ∈ tasks, v.isLate 0 task = true
    · exact .tooLate tardy rfl
    · refine .inTime 0 (Nat.le_refl 0) (Nat.le_refl 0) rfl ?_
        fun n _ never => absurd never (Nat.not_lt_zero n)
      intro task member
      cases done : v.isOverAfter 0 task with
      | true => rfl
      | false => exact absurd ⟨task, member, by rw [isLate, done]; rfl⟩ tardy
  · exact (start.onCourse fresh).drainTasks fresh start pos apart intact nodup patience

/-! ### Whatever the tasks do -/

theorem Poised.takeBreath (fresh : Fresh w₀) (h : Poised w₀ v w) (patience : Nat) :
    Poised w₀ v (w.takeBreath patience).1 := by
  rcases takeBreath_cases w patience with same | same
  · rw [same]
    exact h
  · rw [same]
    exact (h.giveWay fresh).1

/-- Whoever has waited for a task has waited until it was over or the deadline was there. -/
theorem Poised.awaitTask_cases (fresh : Fresh w₀) (h : Poised w₀ v w) (deadline patience : Nat)
    (task : Task) :
    (((w.awaitTask deadline patience task).1.fate task).isOver = true ∨
        deadline ≤ (w.awaitTask deadline patience task).1.surroundings.now) ∧
      ((w.awaitTask deadline patience task).1 = (w.takeBreath patience).1 ∨
        (∃ n, (w.awaitTask deadline patience task).1 =
          Machine.after n (w.takeBreath patience).1) ∨
        ∃ n, (w.awaitTask deadline patience task).1 =
          Machine.advance n (w.takeBreath patience).1) := by
  have breath := h.takeBreath fresh patience
  by_cases ready : ((w.takeBreath patience).1.fate task).isOver = true ∨
      deadline ≤ (w.takeBreath patience).1.surroundings.now
  · have same : (w.awaitTask deadline patience task).1 = (w.takeBreath patience).1 := by
      simp only [awaitTask]
      rw [if_pos ready]
    rw [same]
    exact ⟨ready, .inl rfl⟩
  · rw [not_or, Bool.not_eq_true] at ready
    have before : Machine.now (w.takeBreath patience).1 < deadline := Nat.lt_of_not_le ready.2
    rw [awaitTask_of_going ready.1 before]
    rcases (sound_idle fresh v).await_cases (fun w => (w.fate task).isOver)
        (fun _ _ => by cases task <;> rfl) breath.idle breath.roused before with
      ⟨n, -, done, -, same⟩ | ⟨-, same⟩
    · rw [same]
      exact ⟨.inl done, .inr (.inl ⟨n, rfl⟩)⟩
    · have there := breath.now_advance fresh (deadline - Machine.now (w.takeBreath patience).1)
      rw [same]
      refine ⟨.inr ?_, .inr (.inr ⟨_, rfl⟩)⟩
      rw [there]
      exact Nat.le_of_eq (Nat.add_sub_cancel' (Nat.le_of_lt before)).symm

theorem Poised.awaitTask (fresh : Fresh w₀) (h : Poised w₀ v w) (deadline patience : Nat)
    (task : Task) : Poised w₀ v (w.awaitTask deadline patience task).1 := by
  have breath := h.takeBreath fresh patience
  rcases (h.awaitTask_cases fresh deadline patience task).2 with same | ⟨n, same⟩ | ⟨n, same⟩
  · rw [same]
    exact breath
  · rw [same]
    exact breath.after fresh n
  · rw [same]
    exact breath.advance fresh n

/-- A drain leaves whoever can go on woken, whatever the tasks do. -/
theorem Poised.drainTasks (fresh : Fresh w₀) (h : Poised w₀ v w) (deadline patience : Nat)
    (tasks : List Task) :
    Poised w₀ (w.drainTasks deadline patience tasks).1
      (w.drainTasks deadline patience tasks).1 := by
  induction tasks generalizing v w patience with
  | nil => exact h.refl
  | cons task rest ih =>
    exact ih ((h.awaitTask fresh deadline patience task).settleTask task) _

end Scheduler

end SchedulerHost.Host
