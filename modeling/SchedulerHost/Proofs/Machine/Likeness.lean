import SchedulerHost.Proofs.Machine.Passing

/-!
# Likeness

Two states of a machine that are alike in all that its course depends on: whatever the machine does,
they stay alike. This is how a machine is shown not to depend on some part of its state.
-/

namespace SchedulerHost.Host

namespace Machine

variable {σ α : Type} [Machine σ α]

/-- A relation between states that every step keeps, and that leaves no room for a difference in the
line, the time, the alarms, the work and the abilities. -/
structure Likeness (R : σ → σ → Prop) : Prop where
  line_eq {s t : σ} : R s t → line s = line t
  now_eq {s t : σ} : R s t → now s = now t
  alarms_eq {s t : σ} : R s t → alarms s = alarms t
  work_eq {s t : σ} : R s t → work s = work t
  able_eq {s t : σ} (a : α) : R s t → isAble s a = isAble t a
  of_line {s t : σ} (l : Line α) : R s t → R (setLine l s) (setLine l t)
  of_time {s t : σ} (n : Nat) : R s t → R (setNow n s) (setNow n t)
  of_poll {a : α} {s t s' t' : σ} : R s t → poll? a s = some s' → poll? a t = some t' → R s' t'

variable {R : σ → σ → Prop} {s t : σ} {a : α}

/-- Likeness leaves no room for a step on one side only. -/
theorem Likeness.poll?_cases (like : Likeness R) (h : R s t) (a : α) :
    (poll? a s = none ∧ poll? a t = none) ∨
      ∃ s' t', poll? a s = some s' ∧ poll? a t = some t' ∧ R s' t' := by
  have able := like.able_eq a h
  simp only [isAble] at able
  cases left : poll? a s with
  | none =>
    cases right : poll? a t with
    | none => exact .inl ⟨rfl, rfl⟩
    | some t' => simp [left, right] at able
  | some s' =>
    cases right : poll? a t with
    | none => simp [left, right] at able
    | some t' => exact .inr ⟨s', t', rfl, rfl, like.of_poll h left right⟩

theorem Likeness.turn (like : Likeness R) (h : R s t) (a : α) (n : Nat) :
    R (turn a n s) (turn a n t) := by
  induction n generalizing s t with
  | zero => exact h
  | succ n ih =>
    rw [Machine.turn, Machine.turn]
    rcases like.poll?_cases h a with ⟨left, right⟩ | ⟨s', t', left, right, h'⟩
    · rw [left, right]
      exact h
    · rw [left, right]
      exact ih h'

theorem Likeness.calm (like : Likeness R) (h : R s t) : R (calm s) (calm t) := by
  rw [Machine.calm, Machine.calm, like.line_eq h]
  exact like.of_line _ h

theorem Likeness.able_funext (like : Likeness R) (h : R s t) : isAble s = isAble t := by
  funext a
  exact like.able_eq a h

variable [DecidableEq α] [Hashable α]

theorem Likeness.rouse (like : Likeness R) (h : R s t) : R (rouse s) (rouse t) := by
  rw [Machine.rouse, Machine.rouse, like.line_eq h, like.able_funext h]
  exact like.of_line _ h

omit [Hashable α] in
theorem Likeness.toBack (like : Likeness R) (h : R s t) (a : α) :
    R (toBack a s) (toBack a t) := by
  rw [Machine.toBack, Machine.toBack, like.line_eq h]
  exact like.of_line _ h

/-- The turn of one agent, as settling and calling have it. -/
theorem Likeness.wholeTurn (like : Likeness R) (h : R s t) (a : α) (rest : Line α) :
    R (Machine.rouse (Machine.toBack a (Machine.turn a (work s) (setLine rest s))))
      (Machine.rouse (Machine.toBack a (Machine.turn a (work t) (setLine rest t)))) := by
  rw [like.work_eq h]
  exact like.rouse (like.toBack (like.turn (like.of_line rest h) a _) a)

theorem Likeness.settleFor (like : Likeness R) (h : R s t) (n : Nat) :
    R (settleFor n s) (settleFor n t) := by
  induction n generalizing s t with
  | zero => exact h
  | succ n ih =>
    have same : next? s = next? t := by
      rw [next?, next?, like.line_eq h, like.able_funext h]
    rw [Machine.settleFor, Machine.settleFor, step?, step?, same]
    cases found : next? t with
    | none => exact h
    | some turn =>
      obtain ⟨a, rest⟩ := turn
      exact ih (like.wholeTurn h a rest)

theorem Likeness.settle (like : Likeness R) (h : R s t) : R (settle s) (settle t) := by
  rw [Machine.settle, Machine.settle, like.work_eq h]
  exact like.calm (like.settleFor h _)

theorem Likeness.moveTo (like : Likeness R) (h : R s t) (n : Nat) :
    R (moveTo n s) (moveTo n t) :=
  like.rouse (like.of_time n h)

theorem Likeness.awaitFor (like : Likeness R) {done : σ → Bool}
    (agree : ∀ {s t}, R s t → done s = done t) (h : R s t) (deadline n : Nat) :
    R (awaitFor done deadline n s) (awaitFor done deadline n t) := by
  induction n generalizing s t with
  | zero => exact like.moveTo h deadline
  | succ n ih =>
    have settled := like.settle h
    rw [Machine.awaitFor, Machine.awaitFor, agree settled]
    split
    · exact settled
    · have same : nextAlarm? (Machine.settle s) = nextAlarm? (Machine.settle t) := by
        rw [nextAlarm?, nextAlarm?, like.alarms_eq settled]
      rw [same]
      cases nextAlarm? (Machine.settle t) with
      | none => exact like.moveTo settled deadline
      | some due =>
        simp only
        split
        · exact ih (like.moveTo settled due)
        · exact like.moveTo settled deadline

theorem Likeness.await (like : Likeness R) {done : σ → Bool}
    (agree : ∀ {s t}, R s t → done s = done t) (h : R s t) (deadline : Nat) :
    R (await done deadline s) (await done deadline t) := by
  rw [Machine.await, Machine.await, like.now_eq h, like.work_eq h]
  split
  · exact h
  · exact like.awaitFor agree h deadline _

theorem Likeness.advance (like : Likeness R) (h : R s t) (n : Nat) :
    R (advance n s) (advance n t) := by
  rw [Machine.advance, Machine.advance, like.now_eq h]
  exact like.await (fun _ => rfl) h _

theorem Likeness.after (like : Likeness R) (h : R s t) (n : Nat) : R (after n s) (after n t) :=
  like.settle (like.advance h n)

end Machine

end SchedulerHost.Host
