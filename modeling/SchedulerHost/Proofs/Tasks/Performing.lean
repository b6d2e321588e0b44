import SchedulerHost.Host.Script

/-!
# The steps of a performance

What a step of a performance does, what it uses up, and which moment a performance waits for.

* `Performance.Stepped` lists the steps, and `stepped_of_next?` says that there are no others.
* **Work** (`work_of_stepped`): every step leaves less to do.
* **Alarms** (`isSome_next?_of_due`, `due_of_isSome_next?`): whoever waits for a moment goes on when
  it has come, and not before.
* **Lasting** (`Performance.Lasts`): a performance that does not end now, whenever it has its turns.
-/

namespace SchedulerHost.Host

def Move.cost {α : Type} (weight : α → Nat) : Move α → Nat
  | .act a => weight a
  | _ => 1

/-- Does a line of a script let time pass? -/
def Action.IsSleep {α : Type} (ms : Nat) (action : Action α) : Prop :=
  action = .sleep ms ∨ action = .sleepThrough ms

namespace Performance

variable {α : Type} {now later : Nat} {down : Bool} {p p' : Performance α} {move : Move α}

/-! ### Steps -/

inductive Stepped (now : Nat) (down : Bool) (p : Performance α) : Move α → Performance α → Prop
  | begins (pending : p.fate = .pending) : Stepped now down p .begin { p with fate := .going }
  | finishes (going : p.fate = .going) (todo : p.todo = []) :
    Stepped now down p .finish { p with fate := .ended }
  | breaksOff (going : p.fate = .going) {ms : Nat} {rest : List (Action α)}
    (todo : p.todo = .sleep ms :: rest) (isDown : down = true) :
    Stepped now down p .finish ⟨[], none, .ended⟩
  | fallsAsleep (going : p.fate = .going) {ms : Nat} {action : Action α} {rest : List (Action α)}
    (todo : p.todo = action :: rest) (sleep : action.IsSleep ms) (unset : p.alarm = none) :
    Stepped now down p .pass { p with alarm := some (now + ms) }
  | wakesUp (going : p.fate = .going) {ms due : Nat} {action : Action α} {rest : List (Action α)}
    (todo : p.todo = action :: rest) (sleep : action.IsSleep ms) (alarm : p.alarm = some due)
    (passed : due ≤ now) : Stepped now down p .pass p.proceed
  | goesOn (going : p.fate = .going) {rest : List (Action α)}
    (todo : p.todo = .untilShutdown :: rest) : Stepped now down p .pass p.proceed
  | panics (going : p.fate = .going) {message : String} {rest : List (Action α)}
    (todo : p.todo = .panic message :: rest) :
    Stepped now down p .pass { p with fate := .panicked message }
  | acts (going : p.fate = .going) {a : α} {rest : List (Action α)}
    (todo : p.todo = .act a :: rest) : Stepped now down p (.act a) p.proceed

theorem stepped_of_rest? (going : p.fate = .going) {ms : Nat} {action : Action α}
    {rest : List (Action α)} (todo : p.todo = action :: rest) (sleep : action.IsSleep ms)
    (h : p.rest? now ms = some (move, p')) : Stepped now down p move p' := by
  unfold rest? at h
  split at h
  · next unset =>
    simp only [Option.some.injEq, Prod.mk.injEq] at h
    obtain ⟨rfl, rfl⟩ := h
    exact .fallsAsleep going todo sleep unset
  · next due alarm =>
    simp only [Option.ite_none_right_eq_some, Option.some.injEq, Prod.mk.injEq] at h
    obtain ⟨passed, rfl, rfl⟩ := h
    exact .wakesUp going todo sleep alarm passed

/-- There are no other steps. -/
theorem stepped_of_next? (h : p.next? now down = some (move, p')) :
    Stepped now down p move p' := by
  unfold next? at h
  split at h
  · next pending =>
    simp only [Option.some.injEq, Prod.mk.injEq] at h
    obtain ⟨rfl, rfl⟩ := h
    exact .begins pending
  · next going =>
    split at h
    · next todo =>
      simp only [Option.some.injEq, Prod.mk.injEq] at h
      obtain ⟨rfl, rfl⟩ := h
      exact .finishes going todo
    · next ms rest todo =>
      split at h
      · next isDown =>
        simp only [Option.some.injEq, Prod.mk.injEq] at h
        obtain ⟨rfl, rfl⟩ := h
        exact .breaksOff going todo isDown
      · exact stepped_of_rest? going todo (.inl rfl) h
    · next ms rest todo => exact stepped_of_rest? going todo (.inr rfl) h
    · next rest todo =>
      simp only [Option.ite_none_right_eq_some, Option.some.injEq, Prod.mk.injEq] at h
      obtain ⟨-, rfl, rfl⟩ := h
      exact .goesOn going todo
    · contradiction
    · next message rest todo =>
      simp only [Option.some.injEq, Prod.mk.injEq] at h
      obtain ⟨rfl, rfl⟩ := h
      exact .panics going todo
    · next a rest todo =>
      simp only [Option.some.injEq, Prod.mk.injEq] at h
      obtain ⟨rfl, rfl⟩ := h
      exact .acts going todo
  · contradiction

theorem next?_of_pending (h : p.fate = .pending) :
    p.next? now down = some (.begin, { p with fate := .going }) := by
  rw [next?, h]

/-- After a step a performance is pending no more. -/
theorem Stepped.fate_ne_pending (h : Stepped now down p move p') : p'.fate ≠ .pending := by
  cases h with
  | begins => simp
  | finishes => simp
  | breaksOff => simp
  | fallsAsleep going => simp [going]
  | wakesUp going => simp [proceed, going]
  | goesOn going => simp [proceed, going]
  | panics => simp
  | acts going => simp [proceed, going]

/-- No step ends a performance from outside. -/
theorem Stepped.fate_ne_aborted (h : Stepped now down p move p') : p'.fate ≠ .aborted := by
  cases h with
  | begins => simp
  | finishes => simp
  | breaksOff => simp
  | fallsAsleep going => simp [going]
  | wakesUp going => simp [proceed, going]
  | goesOn going => simp [proceed, going]
  | panics => simp
  | acts going => simp [proceed, going]

/-! ### Work -/

/-- An alarm is set only by a sleep that has begun. -/
def Sane (p : Performance α) : Prop :=
  p.alarm.isSome → p.fate.isOver = false →
    p.fate = .going ∧ ∃ ms action rest, p.todo = action :: rest ∧ action.IsSleep ms

theorem sane_of_unset (unset : p.alarm = none) : p.Sane := by
  intro set
  rw [unset] at set
  contradiction

theorem sane_of_over (done : p.fate.isOver = true) : p.Sane := by
  intro _ going
  rw [done] at going
  contradiction

theorem sane_ofScript (script : List (Action α)) : (ofScript script).Sane := sane_of_unset rfl

theorem Sane.abort (sane : p.Sane) : p.abort.Sane := by
  unfold Performance.abort
  split
  · exact sane
  · exact sane_of_over rfl

/-- No alarm is set where no sleep has begun. -/
theorem Sane.unset (sane : p.Sane) (going : p.fate = .going) {action : Action α}
    {rest : List (Action α)} (todo : p.todo = action :: rest)
    (awake : ∀ ms, ¬action.IsSleep ms) : p.alarm = none := by
  cases set : p.alarm with
  | none => rfl
  | some due =>
    obtain ⟨-, ms, other, others, head, sleep⟩ := sane (by rw [set]; rfl) (by rw [going]; rfl)
    rw [todo, List.cons.injEq] at head
    rw [← head.1] at sleep
    exact absurd sleep (awake ms)

theorem Sane.unset_of_pending (sane : p.Sane) (pending : p.fate = .pending) : p.alarm = none := by
  cases set : p.alarm with
  | none => rfl
  | some due =>
    have going := (sane (by rw [set]; rfl) (by rw [pending]; rfl)).1
    rw [pending] at going
    contradiction

theorem Sane.stepped (sane : p.Sane) (h : Stepped now down p move p') : p'.Sane := by
  cases h with
  | begins pending => exact sane_of_unset (sane.unset_of_pending pending)
  | finishes => exact sane_of_over rfl
  | breaksOff => exact sane_of_over rfl
  | @fallsAsleep going ms action rest todo sleep =>
    exact fun _ _ => ⟨going, ms, action, rest, todo, sleep⟩
  | wakesUp => exact sane_of_unset rfl
  | goesOn => exact sane_of_unset rfl
  | panics => exact sane_of_over rfl
  | acts => exact sane_of_unset rfl

theorem work_of_over (weight : α → Nat) (done : p.fate.isOver = true) : p.work weight = 0 := by
  simp [work, done]

/-- A sane performance that has not ended has something left to do. -/
theorem work_pos (weight : α → Nat) (sane : p.Sane) (going : p.fate.isOver = false) :
    0 < p.work weight := by
  unfold work
  rw [if_neg (by simp [going])]
  cases set : p.alarm with
  | none =>
    simp only [Option.isSome_none, Bool.false_eq_true, if_false]
    split <;> omega
  | some due =>
    obtain ⟨begun, ms, action, rest, todo, rfl | rfl⟩ := sane (by rw [set]; rfl) going
    · simp only [todo, begun, List.map_cons, List.foldr_cons, reduceCtorEq, if_false,
        Option.isSome_some, if_true]
      omega
    · simp only [todo, begun, List.map_cons, List.foldr_cons, reduceCtorEq, if_false,
        Option.isSome_some, if_true]
      omega

/-- **Work.** Every step uses up what it costs. -/
theorem work_of_stepped (weight : α → Nat) (sane : p.Sane) (h : Stepped now down p move p') :
    p'.work weight + move.cost weight ≤ p.work weight := by
  cases h with
  | begins pending =>
    have unset := sane.unset_of_pending pending
    simp [work, pending, unset, Fate.isOver, Move.cost]
  | finishes going =>
    rw [work_of_over weight rfl]
    exact work_pos weight sane (by rw [going]; rfl)
  | breaksOff going =>
    rw [work_of_over weight rfl]
    exact work_pos weight sane (by rw [going]; rfl)
  | fallsAsleep going todo sleep unset =>
    rcases sleep with rfl | rfl
    · simp [work, going, unset, todo, Fate.isOver, Move.cost]
    · simp [work, going, unset, todo, Fate.isOver, Move.cost]
  | wakesUp going todo sleep alarm =>
    rcases sleep with rfl | rfl
    · simp only [work, going, alarm, todo, proceed, Fate.isOver, Move.cost, List.drop_one,
        List.tail_cons, List.map_cons, List.foldr_cons, Bool.false_eq_true, reduceCtorEq,
        if_false, Option.isSome_none, Option.isSome_some, if_true]
      omega
    · simp only [work, going, alarm, todo, proceed, Fate.isOver, Move.cost, List.drop_one,
        List.tail_cons, List.map_cons, List.foldr_cons, Bool.false_eq_true, reduceCtorEq,
        if_false, Option.isSome_none, Option.isSome_some, if_true]
      omega
  | goesOn going todo =>
    have unset := sane.unset going todo fun ms => by simp [Action.IsSleep]
    simp only [work, going, unset, todo, proceed, Fate.isOver, Move.cost, List.drop_one,
      List.tail_cons, List.map_cons, List.foldr_cons, Bool.false_eq_true, reduceCtorEq, if_false,
      Option.isSome_none]
    omega
  | panics going =>
    rw [work_of_over weight rfl]
    exact work_pos weight sane (by rw [going]; rfl)
  | acts going todo =>
    have unset := sane.unset going todo fun ms => by simp [Action.IsSleep]
    simp only [work, going, unset, todo, proceed, Fate.isOver, Move.cost, List.drop_one,
      List.tail_cons, List.map_cons, List.foldr_cons, Bool.false_eq_true, reduceCtorEq, if_false,
      Option.isSome_none]
    omega

/-! ### Alarms -/

/-- A sleep that has begun is over when its alarm is due. -/
theorem isSome_next?_of_due (sane : p.Sane) {due : Nat} (alarm : due ∈ p.alarms)
    (passed : due ≤ now) : (p.next? now down).isSome := by
  unfold alarms at alarm
  split at alarm
  · cases alarm
  · next going =>
    rw [Option.mem_toList] at alarm
    obtain ⟨begun, ms, action, rest, todo, rfl | rfl⟩ :=
      sane (by rw [alarm]; rfl) (by simpa using going)
    · cases down <;> simp [next?, begun, todo, rest?, alarm, passed]
    · simp [next?, begun, todo, rest?, alarm, passed]

/-- Whoever can go on later, but not now, waits for an alarm. -/
theorem due_of_isSome_next? (now : Nat) (goes : (p.next? later down).isSome) :
    (p.next? now down).isSome ∨ ∃ due ∈ p.alarms, due ≤ later := by
  cases fate : p.fate with
  | pending => simp [next?, fate]
  | going =>
    have waits (ms : Nat) (goes : (p.rest? later ms).isSome) :
        (p.rest? now ms).isSome ∨ ∃ due ∈ p.alarms, due ≤ later := by
      unfold rest? at goes ⊢
      cases alarm : p.alarm with
      | none => simp
      | some due =>
        right
        simp only [alarm, Option.isSome_ite] at goes
        exact ⟨due, by simp [alarms, fate, Fate.isOver, alarm], goes⟩
    simp only [next?, fate] at goes ⊢
    cases todo : p.todo with
    | nil => simp
    | cons action rest =>
      simp only [todo] at goes
      cases action with
      | sleep ms =>
        cases down with
        | true => simp
        | false => exact waits ms (by simpa using goes)
      | sleepThrough ms => exact waits ms goes
      | untilShutdown => exact .inl goes
      | forever => contradiction
      | panic message => simp
      | act a => simp
  | ended => simp [next?, fate] at goes
  | panicked message => simp [next?, fate] at goes
  | aborted => simp [next?, fate] at goes

/-- Whoever is stuck is stuck until an alarm is due. -/
theorem next?_eq_none_of_alarms (stuck : p.next? now down = none)
    (early : ∀ due ∈ p.alarms, later < due) : p.next? later down = none := by
  rw [← Option.not_isSome_iff_eq_none]
  intro goes
  rcases due_of_isSome_next? now goes with able | ⟨due, alarm, passed⟩
  · rw [stuck] at able
    contradiction
  · exact Nat.not_lt.2 passed (early due alarm)

/-! ### Lasting -/

/-- A performance that does not end now: having taken all steps it can take, it waits. -/
inductive Lasts (now : Nat) (down : Bool) : Performance α → Prop
  | waits {p : Performance α} (going : p.fate.isOver = false) (stuck : p.next? now down = none) :
    Lasts now down p
  | goes {p p' : Performance α} {move : Move α} (next : p.next? now down = some (move, p'))
    (lasts : Lasts now down p') : Lasts now down p

theorem Lasts.isOver (lasts : p.Lasts now down) : p.fate.isOver = false := by
  cases lasts with
  | waits going => exact going
  | goes next =>
    cases done : p.fate.isOver with
    | false => rfl
    | true =>
      rw [next?_of_over done] at next
      contradiction

/-- Whether a performance lasts does not depend on how many of its steps it has taken. -/
theorem lasts_iff_of_next? (h : p.next? now down = some (move, p')) :
    p.Lasts now down ↔ p'.Lasts now down := by
  constructor
  · intro lasts
    cases lasts with
    | waits _ stuck =>
      rw [stuck] at h
      contradiction
    | goes next lasts =>
      rw [next, Option.some.injEq, Prod.mk.injEq] at h
      rw [← h.2]
      exact lasts
  · exact .goes h

end Performance

end SchedulerHost.Host
