import SchedulerHost.Proofs.Scheduler.Attaining
import SchedulerHost.Proofs.Scheduler.Outcome

/-!
# A run under way

A course leaves open whose turn it is and when a moment is left. The clock decides both, and what it
makes of a run is one of its courses.

* `Underway`: what is attained from the beginning of a run on.
* **Courses** (`Underway.course`, `Underway.course_after`): it is attained by a course, and at the
  end of every moment the run can go on no more.
-/

namespace SchedulerHost.Host

namespace Scheduler

variable {w₀ w₁ w w' : Scheduler} {ctx : Token}

/-- What is attained from the beginning of a run on, by asking for one thing after the other.
Another run or a drain may be asked for too, but while the run is in progress it is refused. -/
inductive Underway (w₁ : Scheduler) (ctx : Token) : Scheduler → Prop
  | begun (hold : Bool) : Underway w₁ ctx (Machine.resume hold (w₁.beginRun ctx))
  | performed {w : Scheduler} (before : Underway w₁ ctx w) (c : Command)
    (allowed : w.isRunning = true ∨ c.isBrief = true ∨ ∃ ms, c = .advance ms) (hold : Bool) :
    Underway w₁ ctx (Machine.resume hold (w.perform c).1)
  | used {w w' : Scheduler} (before : Underway w₁ ctx w) (stir : Stir w w') (asked : Asked w w')
    (hold : Bool) : Underway w₁ ctx (Machine.resume hold w')

def Coursed (w₀ w : Scheduler) : Prop := ∃ past, Course w₀ past w

/-! ### Turns and moments -/

theorem Coursed.stir (coursed : Coursed w₀ w) (stir : Stir w w') : Coursed w₀ w' := by
  obtain ⟨past, course⟩ := coursed
  exact ⟨past, course.stirred stir⟩

theorem keeps_coursed (w₀ : Scheduler) : Machine.Keeps (Coursed w₀) where
  of_poll {a _ _} coursed next := coursed.stir (.polled a next)
  of_line coursed _ := coursed.stir (.lined _)

/-- In a still scheduler the run is at rest. -/
theorem rest_of_still (still : Machine.Still w) : w.pollRun? = none := by
  have unable : (w.pollRun?).isSome = false := still.unable .run
  simpa using unable

/-- A still scheduler may be left alone until its next alarm,
at which its factory reports at the earliest. -/
theorem Coursed.elapse {t : Nat} (still : Machine.Still w) (coursed : Coursed w₀ w)
    (later : w.surroundings.now < t) (early : ∀ due ∈ w.alarms, t ≤ due) :
    Coursed w₀ (Machine.setNow t w) := by
  obtain ⟨past, course⟩ := coursed
  refine ⟨w :: past, course.elapsed (rest_of_still still) t later ?_⟩
  intro due alarm
  exact early due (mem_alarms_iff.2 (.inr (.inr (.inl alarm))))

theorem Coursed.resume (coursed : Coursed w₀ w) (hold : Bool) :
    Coursed w₀ (Machine.resume hold w) := by
  have keeps := keeps_coursed w₀
  cases hold with
  | true => exact keeps.rouse coursed
  | false => exact keeps.settle (keeps.rouse coursed)

/-- Time that passes is part of a course. -/
theorem Reached.coursed_advance (fresh : Fresh w₀) (h : Reached w₀ w) (roused : Machine.Roused w)
    (coursed : Coursed w₁ w) (ms : Nat) : Coursed w₁ (Machine.advance ms w) :=
  (sound_reached fresh).keeps_advance (keeps_coursed w₁) Coursed.elapse h roused coursed ms

/-! ### Courses -/

theorem Underway.attained (attained : Attained w₀ w₁) (free : w₁.isRunning = false)
    (underway : Underway w₁ ctx w) : Attained w₀ w := by
  induction underway with
  | begun hold =>
    have begins : (w₁.perform (.run ctx)).1 = w₁.beginRun ctx := by simp [Scheduler.perform, free]
    rw [← begins]
    exact attained.performed (.run ctx) hold
  | performed before c allowed hold ih => exact ih.performed c hold
  | used before stir asked hold ih => exact ih.used stir asked hold

/-- Whoever asks for another run or a drain while a run is in progress gets no other course. -/
theorem Reached.coursed_perform (fresh : Fresh w₀) (h : Reached w₀ w) (roused : Machine.Roused w)
    (coursed : Coursed w₁ w) {c : Command}
    (allowed : w.isRunning = true ∨ c.isBrief = true ∨ ∃ ms, c = .advance ms) :
    Coursed w₁ (w.perform c).1 := by
  cases brief : c.isBrief with
  | true => exact coursed.stir (.asked c brief)
  | false =>
    cases c with
    | run ctx' =>
      have busy : w.isRunning = true := by simpa [brief] using allowed
      rw [Scheduler.perform, if_pos busy]
      exact coursed
    | advance ms => exact h.coursed_advance fresh roused coursed ms
    | drain ms =>
      have busy : w.isRunning = true := by simpa [brief] using allowed
      rw [Scheduler.perform, if_pos busy]
      exact coursed
    | _ => contradiction

/-- **Courses.** Whatever is asked for from the beginning of a run on,
it is attained by a course. -/
theorem Underway.course (fresh : Fresh w₀) (attained : Attained w₀ w₁)
    (free : w₁.isRunning = false) (underway : Underway w₁ ctx w) :
    ∃ past, Course (w₁.beginRun ctx) past w := by
  show Coursed (w₁.beginRun ctx) w
  induction underway with
  | begun hold => exact Coursed.resume ⟨[], .begun⟩ hold
  | performed before c allowed hold ih =>
    obtain ⟨reached, roused⟩ := (before.attained attained free).reached fresh
    exact (reached.coursed_perform fresh roused ih allowed).resume hold
  | used before stir asked hold ih => exact (ih.stir stir).resume hold

/-- So is how it stands any number of milliseconds later, and then the run can go on no more. -/
theorem Underway.course_after (fresh : Fresh w₀) (attained : Attained w₀ w₁)
    (free : w₁.isRunning = false) (underway : Underway w₁ ctx w) (n : Nat) :
    ∃ past, Course (w₁.beginRun ctx) past (Machine.after n w) ∧
      (Machine.after n w).pollRun? = none := by
  have sound := sound_reached fresh
  obtain ⟨reached, roused⟩ := (underway.attained attained free).reached fresh
  have coursed : Coursed (w₁.beginRun ctx) w := underway.course fresh attained free
  have later := reached.coursed_advance fresh roused coursed n
  obtain ⟨past, course⟩ := (keeps_coursed _).settle later
  exact ⟨past, course, rest_of_still (sound.after_facts reached roused n).2.1⟩

end Scheduler

end SchedulerHost.Host
