import Mathlib.Data.Nat.Find
import SchedulerHost.Proofs.Machine.Settling

/-!
# The passing of time

How a machine stands after a number of milliseconds, if nobody asks anything of it: `after`.

* **Time is made of moments** (`after_after`, `advance_after`): what passes in two spans is what
  passes in their sum.
* **Waiting** (`await_cases`): whoever waits for something goes on at the first moment at which it
  is there, and at the deadline if it is not there before.

Between two alarms nothing changes but the time, and each alarm leads to a turn, so the bound on the
number of moves is no bound in fact.
-/

namespace SchedulerHost.Host

namespace Machine

variable {σ α : Type} [Machine σ α] [DecidableEq α] [Hashable α]

/-- How a machine stands a number of milliseconds later,
all that can be done by then being done. -/
def after (n : Nat) (s : σ) : σ := settle (advance n s)

variable [LawfulMachine σ] {P : σ → Prop} {s : σ} {t : Nat}

/-! ### From one alarm to the next -/

omit [DecidableEq α] [Hashable α] in
/-- What is still stays so until the next alarm. -/
theorem Sound.still_setNow (sound : Sound P) (h : P s) (still : Still s) (later : now s ≤ t)
    (early : ∀ due ∈ alarms s, t < due) : Still (setNow t s) := by
  constructor
  · intro a
    cases able : isAble (setNow t s) a with
    | false => rfl
    | true =>
      rcases sound.due_of_able h later able with already | ⟨due, alarm, passed⟩
      · rw [still.unable a] at already
        contradiction
      · have := early due alarm
        omega
  · rw [LawfulMachine.line_setNow]
    exact still.calm

/-- Nobody is woken before the next alarm. -/
theorem Sound.moveTo_of_early (sound : Sound P) (h : P s) (still : Still s) (later : now s ≤ t)
    (early : ∀ due ∈ alarms s, t < due) : moveTo t s = setNow t s := by
  have quiet := sound.still_setNow h still later early
  rw [moveTo, rouse, wake_of_unable quiet.unable, LawfulMachine.setLine_line]

/-- When a moment has come, whoever can go on is woken, and nothing has been done yet. -/
theorem Sound.moveTo_facts (sound : Sound P) (h : P s) (later : now s ≤ t) :
    P (moveTo t s) ∧ Roused (moveTo t s) ∧ now (moveTo t s) = t ∧ work (moveTo t s) = work s := by
  have held : P (setNow t s) := sound.of_time h later
  refine ⟨sound.keeps.rouse held, sound.roused_rouse held, ?_, ?_⟩
  · rw [moveTo, rouse, LawfulMachine.now_setLine, LawfulMachine.now_setNow]
  · rw [moveTo, rouse, LawfulMachine.work_setLine, LawfulMachine.work_setNow]

omit [DecidableEq α] [Hashable α] [LawfulMachine σ] in
theorem mem_of_nextAlarm? {due : Nat} (h : nextAlarm? s = some due) :
    due ∈ alarms s ∧ ∀ other ∈ alarms s, due ≤ other := by
  rw [nextAlarm?, List.min?_eq_some_iff] at h
  exact h

omit [DecidableEq α] [Hashable α] [LawfulMachine σ] in
/-- In a still machine no alarm is due. -/
theorem Sound.lt_of_mem_alarms (sound : Sound P) (h : P s) (still : Still s) {due : Nat}
    (alarm : due ∈ alarms s) : now s < due := by
  by_contra passed
  obtain ⟨a, able⟩ := sound.able_of_due h alarm (by omega)
  rw [still.unable a] at able
  contradiction

/-- Each alarm leads to a turn. -/
theorem Sound.work_settle_of_due (sound : Sound P) (h : P s) (roused : Roused s) {due : Nat}
    (alarm : due ∈ alarms s) (passed : due ≤ now s) : work (settle s) < work s := by
  obtain ⟨a, able⟩ := sound.able_of_due h alarm passed
  cases stepped : step? s with
  | none =>
    rw [unable_of_step?_eq_none roused stepped a] at able
    contradiction
  | some next =>
    have used := (sound.step_facts h stepped).2
    have rest := (sound.settle_facts (sound.keeps.step h stepped)
      (sound.roused_step h stepped)).2.2
    rw [sound.settle_step h stepped] at rest
    omega

/-- An alarm leads to a step, which uses up work. -/
theorem Sound.work_settle_moveTo (sound : Sound P) (h : P s) (still : Still s) {due : Nat}
    (alarm : due ∈ alarms s) : work (settle (moveTo due s)) < work s := by
  have later := sound.lt_of_mem_alarms h still alarm
  obtain ⟨held, roused, moved, same⟩ := sound.moveTo_facts h (Nat.le_of_lt later)
  have alarm' : due ∈ alarms (moveTo due s) := by
    rw [moveTo, rouse, LawfulMachine.alarms_setLine, LawfulMachine.alarms_setNow]
    exact alarm
  have used := sound.work_settle_of_due held roused alarm' (by omega)
  omega

/-! ### The bound on the number of moves -/

/-- More moves than there is work for change nothing. -/
theorem Sound.awaitFor_congr (sound : Sound P) (done : σ → Bool) (deadline : Nat) {m n : Nat}
    (h : P s) (roused : Roused s) (hm : work (settle s) < m) (hn : work (settle s) < n) :
    awaitFor done deadline m s = awaitFor done deadline n s := by
  induction m generalizing s n with
  | zero => omega
  | succ m ih =>
    obtain ⟨n, rfl⟩ : ∃ k, n = k + 1 := ⟨n - 1, by omega⟩
    have held : P (settle s) := (sound.settle_facts h roused).1
    have still : Still (settle s) := sound.still_settle h roused
    rw [awaitFor, awaitFor]
    cases done (settle s) with
    | true => rfl
    | false =>
      simp only [Bool.false_eq_true, if_false]
      cases next : nextAlarm? (settle s) with
      | none => rfl
      | some due =>
        simp only
        by_cases early : due < deadline
        · rw [if_pos early, if_pos early]
          -- The alarm leads to a turn, so the moves that are left are still enough.
          have alarm := (mem_of_nextAlarm? next).1
          have used := sound.work_settle_moveTo held still alarm
          have later := sound.lt_of_mem_alarms held still alarm
          obtain ⟨held', roused', -, -⟩ := sound.moveTo_facts held (Nat.le_of_lt later)
          exact ih held' roused' (by omega) (by omega)
        · rw [if_neg early, if_neg early]

/-- Waiting goes from alarm to alarm. -/
theorem Sound.await_eq (sound : Sound P) (done : σ → Bool) {deadline : Nat} (h : P s)
    (roused : Roused s) (before : now s < deadline) :
    await done deadline s =
      if done (settle s) then settle s
      else
        match nextAlarm? (settle s) with
        | none => moveTo deadline (settle s)
        | some due =>
          if due < deadline then await done deadline (moveTo due (settle s))
          else moveTo deadline (settle s) := by
  obtain ⟨held, unmoved, less⟩ := sound.settle_facts h roused
  have still : Still (settle s) := sound.still_settle h roused
  rw [await, if_neg (by omega), awaitFor]
  cases done (settle s) with
  | true => rfl
  | false =>
    simp only [Bool.false_eq_true, if_false]
    cases next : nextAlarm? (settle s) with
    | none => rfl
    | some due =>
      simp only
      by_cases early : due < deadline
      · rw [if_pos early, if_pos early]
        have alarm := (mem_of_nextAlarm? next).1
        have used := sound.work_settle_moveTo held still alarm
        have later := sound.lt_of_mem_alarms held still alarm
        obtain ⟨held', roused', moved, same⟩ := sound.moveTo_facts held (Nat.le_of_lt later)
        rw [await, if_neg (by omega)]
        exact sound.awaitFor_congr done deadline held' roused' (by omega) (by omega)
      · rw [if_neg early, if_neg early]

/-- An induction along the alarms: a machine may be looked at together with how it stands when its
next alarm is due. -/
theorem Sound.alarm_induction (sound : Sound P) {motive : σ → Prop}
    (step : ∀ s, P s → Roused s →
      (∀ due, nextAlarm? (settle s) = some due → motive (moveTo due (settle s))) → motive s)
    (h : P s) (roused : Roused s) : motive s := by
  generalize bound : work (settle s) = n
  induction n using Nat.strongRecOn generalizing s with
  | ind n ih =>
    apply step s h roused
    intro due next
    have held : P (settle s) := (sound.settle_facts h roused).1
    have still : Still (settle s) := sound.still_settle h roused
    have alarm := (mem_of_nextAlarm? next).1
    have later := sound.lt_of_mem_alarms held still alarm
    have used := sound.work_settle_moveTo held still alarm
    obtain ⟨held', roused', -, -⟩ := sound.moveTo_facts held (Nat.le_of_lt later)
    exact ih _ (by omega) held' roused' rfl

/-! ### Moments -/

omit [LawfulMachine σ] in
theorem after_zero (s : σ) : after 0 s = settle s := by
  rw [after, advance_zero]

/-- Letting time pass goes from alarm to alarm. -/
theorem Sound.advance_eq (sound : Sound P) (h : P s) (roused : Roused s) {n : Nat} (pos : 0 < n) :
    advance n s =
      match nextAlarm? (settle s) with
      | none => moveTo (now s + n) (settle s)
      | some due =>
        if due < now s + n then advance (now s + n - due) (moveTo due (settle s))
        else moveTo (now s + n) (settle s) := by
  have held : P (settle s) := (sound.settle_facts h roused).1
  have still : Still (settle s) := sound.still_settle h roused
  rw [advance, sound.await_eq _ h roused (by omega)]
  simp only [Bool.false_eq_true, if_false]
  cases next : nextAlarm? (settle s) with
  | none => rfl
  | some due =>
    simp only
    by_cases early : due < now s + n
    · have later := sound.lt_of_mem_alarms held still (mem_of_nextAlarm? next).1
      have moved := (sound.moveTo_facts held (Nat.le_of_lt later)).2.2.1
      rw [if_pos early, if_pos early, advance, moved, Nat.add_sub_cancel' (Nat.le_of_lt early)]
    · rw [if_neg early, if_neg early]

theorem Sound.advance_facts (sound : Sound P) (h : P s) (roused : Roused s) (n : Nat) :
    P (advance n s) ∧ Roused (advance n s) ∧ now (advance n s) = now s + n := by
  revert n
  apply sound.alarm_induction ?_ h roused
  intro s h roused ih n
  rcases Nat.eq_zero_or_pos n with rfl | pos
  · rw [advance_zero]
    exact ⟨h, roused, rfl⟩
  · obtain ⟨held, unmoved, -⟩ := sound.settle_facts h roused
    have still : Still (settle s) := sound.still_settle h roused
    have moved := sound.moveTo_facts held (t := now s + n) (by omega)
    rw [sound.advance_eq h roused pos]
    cases next : nextAlarm? (settle s) with
    | none => exact ⟨moved.1, moved.2.1, moved.2.2.1⟩
    | some due =>
      simp only
      by_cases early : due < now s + n
      · have later := sound.lt_of_mem_alarms held still (mem_of_nextAlarm? next).1
        obtain ⟨held', roused', there⟩ := ih due next (now s + n - due)
        rw [if_pos early]
        refine ⟨held', roused', ?_⟩
        rw [there, (sound.moveTo_facts held (Nat.le_of_lt later)).2.2.1]
        omega
      · rw [if_neg early]
        exact ⟨moved.1, moved.2.1, moved.2.2.1⟩

/-- What the steps keep, and what is kept when a still machine is left alone until its next alarm,
is kept when time passes. -/
theorem Sound.keeps_advance (sound : Sound P) {Q : σ → Prop} (keeps : Keeps Q)
    (pass : ∀ {s : σ} {t : Nat}, Still s → Q s → now s < t → (∀ due ∈ alarms s, t ≤ due) →
      Q (setNow t s))
    (h : P s) (roused : Roused s) (holds : Q s) (n : Nat) : Q (advance n s) := by
  revert holds n
  apply sound.alarm_induction ?_ h roused
  intro s h roused ih holds n
  rcases Nat.eq_zero_or_pos n with rfl | pos
  · rw [advance_zero]
    exact holds
  · obtain ⟨held, unmoved, -⟩ := sound.settle_facts h roused
    have still : Still (settle s) := sound.still_settle h roused
    have moves (t : Nat) (later : now (settle s) < t) (early : ∀ due ∈ alarms (settle s), t ≤ due) :
        Q (moveTo t (settle s)) :=
      keeps.rouse (pass still (keeps.settle holds) later early)
    rw [sound.advance_eq h roused pos]
    cases next : nextAlarm? (settle s) with
    | none =>
      have silent : alarms (settle s) = [] := List.min?_eq_none_iff.1 next
      refine moves _ (by omega) ?_
      rw [silent]
      exact fun due there => by cases there
    | some due =>
      obtain ⟨alarm, least⟩ := mem_of_nextAlarm? next
      simp only
      by_cases early : due < now s + n
      · rw [if_pos early]
        exact ih due next (moves due (sound.lt_of_mem_alarms held still alarm) least) _
      · rw [if_neg early]
        refine moves _ (by omega) ?_
        intro other there
        have := least other there
        omega

theorem Sound.after_facts (sound : Sound P) (h : P s) (roused : Roused s) (n : Nat) :
    P (after n s) ∧ Still (after n s) ∧ now (after n s) = now s + n := by
  obtain ⟨held, awake, there⟩ := sound.advance_facts h roused n
  obtain ⟨held', unmoved, -⟩ := sound.settle_facts held awake
  exact ⟨held', sound.still_settle held awake, unmoved.trans there⟩

/-- Before the next alarm nothing changes but the time. -/
theorem Sound.after_of_early (sound : Sound P) (h : P s) (roused : Roused s) {n : Nat}
    (early : ∀ due ∈ alarms (settle s), now s + n < due) :
    after n s = setNow (now s + n) (settle s) := by
  obtain ⟨held, unmoved, -⟩ := sound.settle_facts h roused
  have still : Still (settle s) := sound.still_settle h roused
  rcases Nat.eq_zero_or_pos n with rfl | pos
  · rw [after_zero, Nat.add_zero, ← unmoved, LawfulMachine.setNow_now]
  · have goes : advance n s = moveTo (now s + n) (settle s) := by
      rw [sound.advance_eq h roused pos]
      cases next : nextAlarm? (settle s) with
      | none => rfl
      | some due =>
        have := early due (mem_of_nextAlarm? next).1
        simp only
        rw [if_neg (by omega)]
    rw [after, goes, sound.moveTo_of_early held still (by omega) early]
    exact settle_of_still (sound.still_setNow held still (by omega) early)

/-- What happens from the next alarm on is what happens from there. -/
theorem Sound.after_of_due (sound : Sound P) (h : P s) (roused : Roused s) {n due : Nat}
    (next : nextAlarm? (settle s) = some due) (late : due ≤ now s + n) :
    after n s = after (now s + n - due) (moveTo due (settle s)) := by
  obtain ⟨held, unmoved, -⟩ := sound.settle_facts h roused
  have still : Still (settle s) := sound.still_settle h roused
  have later := sound.lt_of_mem_alarms held still (mem_of_nextAlarm? next).1
  rw [after, after, sound.advance_eq h roused (by omega), next]
  simp only
  by_cases early : due < now s + n
  · rw [if_pos early]
  · have now_eq : due = now s + n := by omega
    rw [if_neg early, ← now_eq, Nat.sub_self, advance_zero]

omit [DecidableEq α] [Hashable α] [LawfulMachine σ] in
/-- Is the next alarm due by a moment? -/
theorem due_or_early (s : σ) (t : Nat) :
    (∃ due, nextAlarm? s = some due ∧ due ≤ t) ∨ ∀ due ∈ alarms s, t < due := by
  cases next : nextAlarm? s with
  | none =>
    right
    intro due alarm
    rw [nextAlarm?, List.min?_eq_none_iff] at next
    rw [next] at alarm
    cases alarm
  | some due =>
    by_cases late : due ≤ t
    · exact .inl ⟨due, rfl, late⟩
    · right
      intro other alarm
      have := (mem_of_nextAlarm? next).2 other alarm
      omega

/-- **Time is made of moments.** What passes in two spans is what passes in their sum. -/
theorem Sound.advance_after (sound : Sound P) (h : P s) (roused : Roused s) (m : Nat) {n : Nat}
    (pos : 0 < n) : advance n (after m s) = advance (m + n) s := by
  revert m
  apply sound.alarm_induction ?_ h roused
  intro s h roused ih m
  obtain ⟨held, unmoved, -⟩ := sound.settle_facts h roused
  have still : Still (settle s) := sound.still_settle h roused
  -- Either both sides go to the same alarm first, or there is none in the first span.
  rcases due_or_early (settle s) (now s + m) with ⟨due, next, late⟩ | early
  · rw [sound.after_of_due h roused next late, ih due next, sound.advance_eq h roused (by omega),
      next]
    simp only
    rw [if_pos (by omega)]
    congr 1
    omega
  · have quiet := sound.still_setNow held still (t := now s + m) (by omega) early
    have kept : P (setNow (now s + m) (settle s)) := sound.of_time held (by omega)
    have same (t : Nat) :
        moveTo t (setNow (now s + m) (settle s)) = moveTo t (settle s) := by
      rw [moveTo, moveTo, LawfulMachine.setNow_setNow]
    have alarm : nextAlarm? (setNow (now s + m) (settle s)) = nextAlarm? (settle s) := by
      rw [nextAlarm?, nextAlarm?, LawfulMachine.alarms_setNow]
    rw [sound.after_of_early h roused early, sound.advance_eq kept quiet.roused pos,
      sound.advance_eq h roused (by omega), settle_of_still quiet, alarm]
    simp only [same, LawfulMachine.now_setNow, Nat.add_assoc]

theorem Sound.after_after (sound : Sound P) (h : P s) (roused : Roused s) (m n : Nat) :
    after n (after m s) = after (m + n) s := by
  rcases Nat.eq_zero_or_pos n with rfl | pos
  · rw [after_zero, Nat.add_zero]
    exact settle_of_still (sound.after_facts h roused m).2.1
  · rw [after, sound.advance_after h roused m pos, after]

/-! ### Waiting -/

/-- Whoever waits goes on at the first moment at which all is done. -/
theorem Sound.await_of_first (sound : Sound P) {done : σ → Bool}
    (timeless : ∀ t s, done (setNow t s) = done s) {deadline n : Nat} (h : P s) (roused : Roused s)
    (before : now s + n < deadline) (there : done (after n s) = true)
    (first : ∀ m < n, done (after m s) = false) : await done deadline s = after n s := by
  revert n
  apply sound.alarm_induction ?_ h roused
  intro s h roused ih n before there first
  obtain ⟨held, unmoved, -⟩ := sound.settle_facts h roused
  have still : Still (settle s) := sound.still_settle h roused
  rw [sound.await_eq done h roused (by omega)]
  cases already : done (settle s) with
  | true =>
    have zero : n = 0 := by
      by_contra pos
      have := first 0 (by omega)
      rw [after_zero, already] at this
      contradiction
    rw [if_pos rfl, zero, after_zero]
  | false =>
    rw [if_neg (by simp)]
    -- Without an alarm by then, all would have been done before already.
    rcases due_or_early (settle s) (now s + n) with ⟨due, next, late⟩ | early
    · have later := sound.lt_of_mem_alarms held still (mem_of_nextAlarm? next).1
      have moved := (sound.moveTo_facts held (Nat.le_of_lt later)).2.2.1
      have same := sound.after_of_due h roused next late
      rw [next]
      simp only
      rw [if_pos (by omega), same]
      apply ih due next
      · rw [moved]
        omega
      · rw [← same]
        exact there
      · -- The moments are counted from the alarm on.
        intro m less
        have shifted := sound.after_of_due h roused (n := due - now s + m) next (by omega)
        rw [show now s + (due - now s + m) - due = m by omega] at shifted
        rw [← shifted]
        exact first _ (by omega)
    · rw [sound.after_of_early h roused early, timeless, already] at there
      contradiction

/-- Whoever waits in vain goes on at the deadline. -/
theorem Sound.await_of_never (sound : Sound P) {done : σ → Bool} {deadline : Nat} (h : P s)
    (roused : Roused s) (before : now s < deadline)
    (never : ∀ n, now s + n < deadline → done (after n s) = false) :
    await done deadline s = advance (deadline - now s) s := by
  revert before never
  apply sound.alarm_induction ?_ h roused
  intro s h roused ih before never
  obtain ⟨held, unmoved, -⟩ := sound.settle_facts h roused
  have still : Still (settle s) := sound.still_settle h roused
  have there : now s + (deadline - now s) = deadline := by omega
  have pending : done (settle s) = false := by
    rw [← after_zero]
    exact never 0 (by omega)
  rw [sound.await_eq done h roused before, sound.advance_eq h roused (by omega), pending, there]
  simp only [Bool.false_eq_true, if_false]
  cases next : nextAlarm? (settle s) with
  | none => rfl
  | some due =>
    simp only
    by_cases early : due < deadline
    · have later := sound.lt_of_mem_alarms held still (mem_of_nextAlarm? next).1
      have moved := (sound.moveTo_facts held (Nat.le_of_lt later)).2.2.1
      rw [if_pos early, if_pos early, ih due next (by rw [moved]; exact early), moved]
      intro m less
      rw [moved] at less
      have shifted := sound.after_of_due h roused (n := due - now s + m) next (by omega)
      rw [show now s + (due - now s + m) - due = m by omega] at shifted
      rw [← shifted]
      exact never _ (by omega)
    · rw [if_neg early, if_neg early]

/-- Whoever waits goes on at the first moment at which all is done, or at the deadline. -/
theorem Sound.await_cases (sound : Sound P) (done : σ → Bool)
    (timeless : ∀ t s, done (setNow t s) = done s) {deadline : Nat} (h : P s) (roused : Roused s)
    (before : now s < deadline) :
    (∃ n, now s + n < deadline ∧ done (after n s) = true ∧ (∀ m < n, done (after m s) = false) ∧
      await done deadline s = after n s) ∨
    (∀ n, now s + n < deadline → done (after n s) = false) ∧
      await done deadline s = advance (deadline - now s) s := by
  by_cases there : ∃ n, now s + n < deadline ∧ done (after n s) = true
  · obtain ⟨early, holds⟩ := Nat.find_spec there
    have first (m : Nat) (less : m < Nat.find there) : done (after m s) = false := by
      have earlier := Nat.find_min there less
      simpa [show now s + m < deadline by omega] using earlier
    exact .inl ⟨Nat.find there, early, holds, first,
      sound.await_of_first timeless h roused early holds first⟩
  · have never (n : Nat) (early : now s + n < deadline) : done (after n s) = false := by
      cases holds : done (after n s) with
      | false => rfl
      | true => exact absurd ⟨n, early, holds⟩ there
    exact .inr ⟨never, sound.await_of_never h roused before never⟩

end Machine

end SchedulerHost.Host
