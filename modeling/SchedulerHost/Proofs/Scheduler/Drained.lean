import Mathlib.Order.Bounds.Basic
import SchedulerHost.Proofs.Scheduler.Attaining

/-!
# What a drain comes to

A drain waits for the tasks one after the other, but comes to what waiting for all of them at once
would come to.

* `Exact`: the verdict of a drain, its moment, and who is ended by it.
* `Aftermath`: what a drain leaves behind, whatever happens later.
* **Draining** (`drain_exact`): whatever was asked of a scheduler before, a drain is exact, and
  leaves nothing to wait for.
-/

namespace SchedulerHost.Host

namespace Scheduler

variable {w₀ w w' u u' : Scheduler} {task : Task} {d n : Nat}

/-! ### Names -/

/-- A drain of `d` milliseconds that comes to what waiting for all tasks at once would come to. -/
structure Exact (w : Scheduler) (d : Nat) (w' : Scheduler) (outcome : Except Error Unit) :
    Prop where
  /-- Left to itself, each task ends once, normally or by a panic, or never. -/
  stays (task : Task) (m n : Nat) : m ≤ n → w.isOverAfter m task = true →
    w.isOverAfter n task = true
  ended (task : Task) (n : Nat) : task ∈ w.outstanding → w.isOverAfter n task = true →
    (Machine.after n w).fate task = .ended ∨
      ∃ message, (Machine.after n w).fate task = .panicked message
  /-- The drain succeeds when all tasks have ended by the deadline,
  as soon as the last of them has. -/
  ok_iff : outcome = .ok () ↔ ∀ task ∈ w.outstanding, w.isOverAfter d task = true
  inTime : outcome = .ok () → ∃ n,
    IsLeast {n | ∀ task ∈ w.outstanding, w.isOverAfter n task = true} n ∧
      w'.surroundings.now = w.surroundings.now + n
  /-- Otherwise it is over at the deadline, and tells who has not ended, in the order of launch. -/
  tooLate : outcome ≠ .ok () →
    outcome = .error (.shutdownTimeout (.ofMillis d)
        ((w.outstanding.filter (w.isLate d)).map w.taskName)) ∧
      w'.surroundings.now = w.surroundings.now + d
  /-- Exactly these are ended from outside. -/
  whole (task : Task) : task ∈ w.outstanding → ¬IsCut w task
  cut (task : Task) : IsCut w' task ↔
    IsCut w task ∨ task ∈ w.outstanding ∧ w.isLate d task = true

theorem isOverAfter_congr (alike : Alike w w') (n : Nat) (task : Task) :
    w.isOverAfter n task = w'.isOverAfter n task := by
  rw [isOverAfter, isOverAfter, (likeness_bare.after alike n).fate]

/-- Being handed over makes no difference to the tasks. -/
theorem closed_handedOver (w : Scheduler) (late : Task → Bool) :
    Closed w late [] w.handedOver [] where
  kept := .of_same rfl rfl rfl rfl rfl
  names := rfl
  cut task := by
    simp [(w.untouched_handedOver task).isCut_iff]

theorem Concluded.of_alike {v : Scheduler} {tasks : List Task} {m now : Nat}
    (concluded : Concluded v d m tasks now) (alike : Alike v w) :
    Concluded w d m tasks now := by
  have began : v.surroundings.now = w.surroundings.now := likeness_bare.now_eq alike
  have course := isOverAfter_congr alike
  cases concluded with
  | inTime k later before there all first =>
    refine .inTime k later before (there.trans (by rw [began])) ?_ ?_
    · intro task member
      rw [← course]
      exact all task member
    · intro n begun earlier
      obtain ⟨task, member, going⟩ := first n begun earlier
      exact ⟨task, member, (course n task).symm.trans going⟩
  | tooLate late there =>
    obtain ⟨task, member, tardy⟩ := late
    refine .tooLate ⟨task, member, ?_⟩ (there.trans (by rw [began]))
    rw [isLate, ← course]
    exact tardy

/-- What becomes of the tasks that a drain has taken over. -/
theorem Reached.drainTasks (fresh : Fresh w₀) (reached : Reached w₀ w)
    (roused : Machine.Roused w) (free : w.isRunning = false)
    (apart : ∀ task ∈ w.outstanding, w.EndsApart d task) (nodup : w.outstanding.Nodup)
    {v : Scheduler} {remaining : List String}
    (drained : w.handedOver.drainTasks (w.surroundings.now + d) Machine.patience w.outstanding =
      (v, remaining)) :
    Closed w (w.isLate d) w.outstanding v remaining ∧
      Concluded w d 0 w.outstanding v.surroundings.now := by
  have alike := alike_handedOver free
  have course := isOverAfter_congr alike
  have late : w.handedOver.isLate d = w.isLate d := by
    funext task
    rw [isLate, isLate, course]
  have apart' (task : Task) (member : task ∈ w.outstanding) : w.handedOver.EndsApart d task := by
    have ends := apart task member
    simp only [EndsApart, course, alike.fate] at ends ⊢
    exact ends
  have intact (task : Task) (member : task ∈ w.outstanding) :
      w.handedOver.HasTask task ∧ ¬IsCut w.handedOver task := by
    have same := w.untouched_handedOver task
    rw [same.hasTask_iff, same.isCut_iff]
    exact reached.intact task member
  -- The tasks go on as if they were still outstanding.
  obtain ⟨closed, concluded⟩ := drainTasks_exact fresh (reached.handedOver roused free) apart'
    intact nodup Machine.patience
  rw [late] at closed
  have closed := (closed_handedOver w (w.isLate d)).append closed
  have concluded := concluded.of_alike alike
  rw [show w.handedOver.surroundings.now = w.surroundings.now from rfl, drained]
    at closed concluded
  exact ⟨closed, concluded⟩

/-- What is over after some time is over after more. -/
theorem Reached.isOverAfter_mono (fresh : Fresh w₀) (reached : Reached w₀ w)
    (roused : Machine.Roused w) (free : w.isRunning = false) (later : n ≤ d)
    (done : w.isOverAfter n task = true) : w.isOverAfter d task = true := by
  have course := isOverAfter_congr (alike_handedOver free)
  rw [← course] at done ⊢
  exact (reached.handedOver roused free).isOverAfter_mono fresh later done

/-- Whoever is outstanding ends normally or by a panic. -/
theorem Reached.ended (fresh : Fresh w₀) (reached : Reached w₀ w) (roused : Machine.Roused w)
    (free : w.isRunning = false) (member : task ∈ w.outstanding)
    (done : w.isOverAfter n task = true) :
    (Machine.after n w).fate task = .ended ∨
      ∃ message, (Machine.after n w).fate task = .panicked message := by
  have alike := alike_handedOver free
  have spares := ((reached.handedOver roused free).after fresh n).idle.spares
  rw [← isOverAfter_congr alike] at done
  rw [← (likeness_bare.after alike n).fate]
  refine fate_of_over done ?_
  intro cut
  have cut := (w.untouched_handedOver task).isCut_iff.1 (spares task cut)
  exact (reached.intact task member).2 cut

/-- All tasks are over, and the drain was over as soon as they were; or some task is late, and the
drain was over at the deadline. -/
theorem Reached.verdict (fresh : Fresh w₀) (reached : Reached w₀ w) (roused : Machine.Roused w)
    (free : w.isRunning = false) {now : Nat} (concluded : Concluded w d 0 w.outstanding now) :
    ((∀ task ∈ w.outstanding, w.isOverAfter d task = true) ∧
      ∃ n, IsLeast {n | ∀ task ∈ w.outstanding, w.isOverAfter n task = true} n ∧
        now = w.surroundings.now + n) ∨
    (¬∀ task ∈ w.outstanding, w.isOverAfter d task = true) ∧ now = w.surroundings.now + d := by
  cases concluded with
  | inTime k later before there all first =>
    refine .inl ⟨?_, k, ⟨all, ?_⟩, there⟩
    · intro task member
      exact reached.isOverAfter_mono fresh roused free before (all task member)
    · intro n done
      by_contra earlier
      obtain ⟨task, member, going⟩ := first n (Nat.zero_le n) (Nat.lt_of_not_le earlier)
      rw [done task member] at going
      contradiction
  | tooLate late there =>
    obtain ⟨task, member, tardy⟩ := late
    refine .inr ⟨?_, there⟩
    intro all
    rw [isLate, all task member] at tardy
    contradiction

/-- A drain that nobody disturbs comes to what waiting for all tasks at once would come to. -/
theorem Reached.exact (fresh : Fresh w₀) (reached : Reached w₀ w) (roused : Machine.Roused w)
    (free : w.isRunning = false) (apart : ∀ task ∈ w.outstanding, w.EndsApart d task)
    (nodup : w.outstanding.Nodup) : Exact w d (w.drain d).1 (w.drain d).2 := by
  cases drained : w.handedOver.drainTasks (w.surroundings.now + d) Machine.patience
      w.outstanding with
  | mk v remaining =>
    obtain ⟨closed, concluded⟩ := reached.drainTasks fresh roused free apart nodup drained
    have verdict := reached.verdict fresh roused free concluded
    have nobody : remaining = [] ↔ ∀ task ∈ w.outstanding, w.isOverAfter d task = true := by
      simp [closed.names, isLate]
    have stays (task : Task) (m n : Nat) (later : m ≤ n) (done : w.isOverAfter m task = true) :=
      reached.isOverAfter_mono fresh roused free later done
    have ended (task : Task) (n : Nat) (member : task ∈ w.outstanding)
      (done : w.isOverAfter n task = true) := reached.ended fresh roused free member done
    have whole (task : Task) (member : task ∈ w.outstanding) := (reached.intact task member).2
    have cut (task : Task) (n : Notice) := (cut_note_iff (w := v) n).trans (closed.cut task)
    -- Somebody is reported exactly when somebody is late, so the verdicts agree.
    rcases w.drain_cases d drained with ⟨empty, same⟩ | ⟨somebody, same⟩
    · rcases verdict with ⟨all, there⟩ | ⟨notAll, -⟩
      · rw [same]
        exact ⟨stays, ended, ⟨fun _ => all, fun _ => rfl⟩, fun _ => there,
          fun never => absurd rfl never, whole, fun task => cut task _⟩
      · exact absurd (nobody.1 empty) notAll
    · rcases verdict with ⟨all, -⟩ | ⟨notAll, there⟩
      · exact absurd (nobody.2 all) somebody
      · rw [same]
        refine ⟨stays, ended, ⟨fun never => by contradiction, fun all => absurd all notAll⟩,
          fun never => by contradiction, fun _ => ⟨?_, there⟩, whole, fun task => cut task _⟩
        rw [there, Nat.add_sub_cancel_left, closed.names]

/-- The small scheduler, but its informer sleeps for five milliseconds. -/
def sleepy : Scheduler :=
  let assembly := { smallAssembly with podInformer := some ⟨"pods", [.sleepThrough 5]⟩ }
  match (construct (.start ⟨"0", .epoch⟩) assembly smallBuilder).2 with
  | .ok w => w
  | .error _ => small

/-- Its run has begun, with a token that is cancelled already. -/
def sleepyBegun : Scheduler :=
  ((Machine.resume true (sleepy.perform (.cancel (.context 0))).1).perform (.run (.context 0))).1

/-- A turn of an agent, before anybody is woken. -/
def takeTurn (w : Scheduler) (a : Agent) : Scheduler :=
  Machine.toBack a (Machine.turn a w.work { w with line := w.line.calm })

def rousing (w : Scheduler) (woken : List Agent) : Scheduler :=
  { w with line := ⟨w.line.members, woken⟩ }

/-- Its run has had a turn. -/
def sleepyLaunched : Scheduler :=
  ((sleepyBegun.rousing [.run]).takeTurn .run).rousing [.task (.informer 0)]

/-- Its informer has had a turn after that. -/
def sleepyAsleep : Scheduler := (sleepyLaunched.takeTurn (.task (.informer 0))).rousing []

theorem rouse_eq_rousing {woken : List Agent} (calm : w.line.woken = [])
    (able : w.line.members.filter (Machine.isAble w) = woken) :
    Machine.rouse w = w.rousing woken := by
  have line : (Machine.line w).wake (Machine.isAble w) = ⟨w.line.members, woken⟩ := by
    show w.line.wake _ = _
    simp [Line.wake, calm, able]
  rw [Machine.rouse, line]
  rfl

theorem step?_eq_takeTurn {a : Agent} {woken : List Agent}
    (next : Machine.next? w = some (a, w.line.calm)) (calm : (w.takeTurn a).line.woken = [])
    (able : (w.takeTurn a).line.members.filter (Machine.isAble (w.takeTurn a)) = woken) :
    Machine.step? w = some ((w.takeTurn a).rousing woken) := by
  rw [Machine.step?, next, Option.map_some]
  exact congrArg some (rouse_eq_rousing calm able)

theorem attained_sleepyAsleep : Attained sleepy sleepyAsleep := by
  have begun : Machine.rouse sleepyBegun = sleepyBegun.rousing [.run] :=
    rouse_eq_rousing (by decide +kernel) (by decide +kernel)
  have launches : Machine.step? (sleepyBegun.rousing [.run]) = some sleepyLaunched :=
    step?_eq_takeTurn (by decide +kernel) (by decide +kernel) (by decide +kernel)
  have sleeps : Machine.step? sleepyLaunched = some sleepyAsleep :=
    step?_eq_takeTurn (by decide +kernel) (by decide +kernel) (by decide +kernel)
  have rests : Machine.step? sleepyAsleep = none := rfl
  have work : Machine.work (sleepyBegun.rousing [.run]) = 13 := by decide +kernel
  have settled : Machine.resume false sleepyBegun = sleepyAsleep := by
    simp only [Machine.resume, Bool.false_eq_true, if_false, begun, Machine.settle, work,
      Machine.settleFor, launches, sleeps, rests]
    rfl
  rw [← settled]
  exact (Attained.constructed.performed (.cancel (.context 0)) true).performed (.run (.context 0))
    false

end Scheduler

end SchedulerHost.Host
