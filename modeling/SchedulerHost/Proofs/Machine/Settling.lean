import SchedulerHost.Host.Clock

/-!
# Settling

What the turns of a machine come to when each step uses up some of the work that is left.

* `LawfulMachine`: the line and the time are fields that are set independently of each other and of
  the work, the alarms and the abilities of the agents.
* `Sound`: an invariant under which steps use up work, whoever can go on stands in the line, and
  nobody becomes able by the mere passing of time before an alarm is due.
* **Stillness** (`still_settle`): a machine in which whoever can go on has been woken is still once
  it has settled, so the bound on the number of turns is no bound in fact.
* **Calling is settling begun** (`Sound.call_facts`, `Sound.giveWay_facts`): it makes no difference
  to how a machine settles that some of the woken were called before.
-/

namespace SchedulerHost.Host

/-- The work of all becomes less when that of one does. -/
theorem foldr_add_set_lt {α : Type} (f : α → Nat) {l : List α} {i : Nat} {a b : α}
    (found : l[i]? = some a) (less : f b < f a) :
    ((l.set i b).map f).foldr (· + ·) 0 < (l.map f).foldr (· + ·) 0 := by
  induction l generalizing i with
  | nil => simp at found
  | cons c rest ih =>
    cases i with
    | zero =>
      rw [List.getElem?_cons_zero, Option.some.injEq] at found
      subst found
      simp only [List.set_cons_zero, List.map_cons, List.foldr_cons]
      omega
    | succ i =>
      have tail := ih (by simpa using found)
      simp only [List.set_cons_succ, List.map_cons, List.foldr_cons]
      omega

/-- Nobody leaves the line when someone goes to its back. -/
theorem Line.mem_members_toBack {α : Type} [DecidableEq α] {l : Line α} {a b : α}
    (member : b ∈ l.members) : b ∈ (l.toBack a).members := by
  by_cases same : b = a
  · simp [toBack, same]
  · simp [toBack, List.mem_erase_of_ne same, member]

/-- A machine whose line and time are fields of its state. -/
class LawfulMachine (σ : Type) {α : Type} [Machine σ α] : Prop where
  setLine_line (s : σ) : Machine.setLine (Machine.line s) s = s
  line_setLine (l : Line α) (s : σ) : Machine.line (Machine.setLine l s) = l
  setLine_setLine (l l' : Line α) (s : σ) :
    Machine.setLine l (Machine.setLine l' s) = Machine.setLine l s
  now_setLine (l : Line α) (s : σ) : Machine.now (Machine.setLine l s) = Machine.now s
  alarms_setLine (l : Line α) (s : σ) : Machine.alarms (Machine.setLine l s) = Machine.alarms s
  work_setLine (l : Line α) (s : σ) : Machine.work (Machine.setLine l s) = Machine.work s
  isAble_setLine (l : Line α) (s : σ) (a : α) :
    Machine.isAble (Machine.setLine l s) a = Machine.isAble s a
  setNow_now (s : σ) : Machine.setNow (Machine.now s) s = s
  now_setNow (t : Nat) (s : σ) : Machine.now (Machine.setNow t s) = t
  setNow_setNow (t t' : Nat) (s : σ) :
    Machine.setNow t (Machine.setNow t' s) = Machine.setNow t s
  line_setNow (t : Nat) (s : σ) : Machine.line (Machine.setNow t s) = Machine.line s
  alarms_setNow (t : Nat) (s : σ) : Machine.alarms (Machine.setNow t s) = Machine.alarms s
  work_setNow (t : Nat) (s : σ) : Machine.work (Machine.setNow t s) = Machine.work s

namespace Machine

attribute [simp] LawfulMachine.setLine_line LawfulMachine.line_setLine
  LawfulMachine.setLine_setLine LawfulMachine.now_setLine LawfulMachine.alarms_setLine
  LawfulMachine.work_setLine LawfulMachine.isAble_setLine LawfulMachine.setNow_now
  LawfulMachine.now_setNow LawfulMachine.setNow_setNow LawfulMachine.line_setNow
  LawfulMachine.alarms_setNow LawfulMachine.work_setNow

variable {σ α : Type} [Machine σ α]

/-- What the steps of the agents keep, and what is kept when the line changes without anyone
leaving it. -/
structure Keeps (P : σ → Prop) : Prop where
  of_poll {a : α} {s next : σ} : P s → poll? a s = some next → P next
  of_line {s : σ} {l : Line α} : P s → (∀ a ∈ (line s).members, a ∈ l.members) →
    P (setLine l s)

/-- An invariant under which a machine comes to rest. -/
structure Sound (P : σ → Prop) : Prop extends keeps : Keeps P where
  of_time {s : σ} {t : Nat} : P s → now s ≤ t → P (setNow t s)
  now_poll {a : α} {s next : σ} : P s → poll? a s = some next → now next = now s
  work_poll {a : α} {s next : σ} : P s → poll? a s = some next → work next < work s
  able_mem {a : α} {s : σ} : P s → isAble s a = true → a ∈ (line s).members
  /-- Somebody can go on when an alarm is due. -/
  able_of_due {s : σ} {due : Nat} : P s → due ∈ alarms s → due ≤ now s → ∃ a, isAble s a = true
  /-- Nobody becomes able before an alarm is due. -/
  due_of_able {a : α} {s : σ} {t : Nat} : P s → now s ≤ t → isAble (setNow t s) a = true →
    isAble s a = true ∨ ∃ due ∈ alarms s, due ≤ t

/-- Whoever can go on has been woken. -/
def Roused (s : σ) : Prop := ∀ a, isAble s a = true → a ∈ (line s).woken

/-- Nobody can go on, and nobody is woken. -/
structure Still (s : σ) : Prop where
  unable (a : α) : isAble s a = false
  calm : (line s).woken = []

/-- Where nobody can go on, nobody has to be woken. -/
theorem Still.roused {s : σ} (still : Still s) : Roused s := by
  intro a able
  rw [still.unable a] at able
  contradiction

/-! ### Who has the turn -/

section Next

variable {P : σ → Prop} {s : σ} {a : α}

/-- Those who are ahead in the line have their turn without anyone leaving it. -/
theorem members_of_next? {rest : Line α} (h : next? s = some (a, rest)) :
    rest.members = (line s).members := by
  unfold next? Line.next? at h
  split at h
  · contradiction
  · simp only [Option.some.injEq, Prod.mk.injEq] at h
    rw [← h.2]

theorem able_of_next? {rest : Line α} (h : next? s = some (a, rest)) : isAble s a = true := by
  unfold next? Line.next? at h
  split at h
  · contradiction
  · next b behind dropped =>
    simp only [Option.some.injEq, Prod.mk.injEq] at h
    have first := List.head_dropWhile_not (p := fun b => !isAble s b) (l := (line s).woken)
      (by simp [dropped])
    simp only [dropped, List.head_cons] at first
    rw [← h.1]
    simpa using first

theorem Keeps.next (keeps : Keeps P) (h : P s) {rest : Line α} (found : next? s = some (a, rest)) :
    P (setLine rest s) := by
  apply keeps.of_line h
  intro b member
  rw [members_of_next? found]
  exact member

theorem Keeps.turn (keeps : Keeps P) (h : P s) (n : Nat) : P (turn a n s) := by
  induction n generalizing s with
  | zero => exact h
  | succ n ih =>
    rw [Machine.turn]
    split
    · exact h
    · next polled => exact ih (keeps.of_poll h polled)

theorem Keeps.calm (keeps : Keeps P) (h : P s) : P (calm s) :=
  keeps.of_line h fun _ member => member

/-- A turn takes no time and makes no work. -/
theorem Sound.turn_facts (sound : Sound P) (h : P s) (n : Nat) :
    now (turn a n s) = now s ∧ work (turn a n s) ≤ work s := by
  induction n generalizing s with
  | zero => exact ⟨rfl, Nat.le_refl _⟩
  | succ n ih =>
    rw [Machine.turn]
    split
    · exact ⟨rfl, Nat.le_refl _⟩
    · next later polled =>
      obtain ⟨same, less⟩ := ih (sound.of_poll h polled)
      have used := sound.work_poll h polled
      exact ⟨same.trans (sound.now_poll h polled), by omega⟩

end Next

variable [DecidableEq α] [Hashable α]

/-! ### One turn -/

section Turns

variable {P : σ → Prop} {s next : σ} {a : α}

/-- Nobody is woken when nobody can go on. -/
theorem wake_of_unable (unable : ∀ a, isAble s a = false) :
    (line s).wake (isAble s) = line s := by
  have nobody : (line s).members.filter (fun _ => false) = [] := by
    rw [List.filter_eq_nil_iff]
    intro a _
    simp
  simp only [Line.wake, unable, Bool.and_false, nobody, List.append_nil]

theorem Keeps.rouse (keeps : Keeps P) (h : P s) : P (rouse s) := by
  apply keeps.of_line h
  intro a member
  rw [Line.members_wake]
  exact member

omit [Hashable α] in
theorem Keeps.toBack (keeps : Keeps P) (h : P s) : P (toBack a s) := by
  apply keeps.of_line h
  intro b member
  exact Line.mem_members_toBack member

/-- What a turn is made of. -/
theorem exists_of_step? (h : step? s = some next) :
    ∃ a rest, next? s = some (a, rest) ∧
      next = Machine.rouse (Machine.toBack a (Machine.turn a (work s) (setLine rest s))) := by
  rw [step?, Option.map_eq_some_iff] at h
  obtain ⟨⟨a, rest⟩, found, rfl⟩ := h
  exact ⟨a, rest, found, rfl⟩

theorem Keeps.step (keeps : Keeps P) (h : P s) (stepped : step? s = some next) : P next := by
  obtain ⟨a, rest, found, rfl⟩ := exists_of_step? stepped
  exact keeps.rouse (keeps.toBack (keeps.turn (keeps.next h found) _))

theorem Keeps.settle (keeps : Keeps P) (h : P s) : P (settle s) := by
  have turns (n : Nat) : ∀ {s : σ}, P s → P (settleFor n s) := by
    induction n with
    | zero => exact fun h => h
    | succ n ih =>
      intro s h
      rw [settleFor]
      split
      · exact h
      · next stepped => exact ih (keeps.step h stepped)
  exact keeps.calm (turns _ h)

theorem Keeps.call (keeps : Keeps P) (h : P s) : P (call s) := by
  rw [Machine.call]
  unfold Line.first?
  cases (line s).woken with
  | nil => exact h
  | cons a rest =>
    have moved : P (setLine { line s with woken := rest } s) := keeps.of_line h fun _ there => there
    simp only
    split
    · exact keeps.rouse (keeps.toBack (keeps.turn moved _))
    · exact moved

theorem Keeps.giveWay (keeps : Keeps P) (h : P s) : P (giveWay s) := by
  have calls (n : Nat) : ∀ {s : σ}, P s → P (callFor n s) := by
    induction n with
    | zero => exact fun h => h
    | succ n ih => exact fun h => ih (keeps.call h)
  exact calls recess h

/-- What is kept whatever time it is, is kept while time passes. -/
theorem Keeps.advance (keeps : Keeps P) (timeless : ∀ {s : σ} (t : Nat), P s → P (setNow t s))
    (h : P s) (span : Nat) : P (advance span s) := by
  have moves {s : σ} (t : Nat) (h : P s) : P (moveTo t s) := keeps.rouse (timeless t h)
  have waits (done : σ → Bool) (deadline n : Nat) :
      ∀ {s : σ}, P s → P (awaitFor done deadline n s) := by
    induction n with
    | zero => exact moves deadline
    | succ n ih =>
      intro s h
      have settled := keeps.settle h
      rw [awaitFor]
      split
      · exact settled
      · split
        · exact moves deadline settled
        · next due _ =>
          split
          · exact ih (moves due settled)
          · exact moves deadline settled
  rw [Machine.advance, await]
  split
  · exact h
  · exact waits _ _ _ h

/-- Where whoever can go on has been woken, nobody can go on once there is no next turn. -/
theorem unable_of_step?_eq_none (roused : Roused s) (quiet : step? s = none) (a : α) :
    isAble s a = false := by
  cases able : isAble s a with
  | false => rfl
  | true =>
    have stuck := step?_eq_none_iff.1 quiet a (roused a able)
    simp [isAble, stuck] at able

end Turns

/-! ### Settling -/

section Settling

variable [LawfulMachine σ] {P : σ → Prop} {s next : σ} {a : α}

/-- Whoever can go on has been woken once the machine is roused. -/
theorem Sound.roused_rouse (sound : Sound P) (h : P s) : Roused (rouse s) := by
  intro a able
  simp only [rouse, LawfulMachine.isAble_setLine, LawfulMachine.line_setLine] at able ⊢
  exact Line.mem_woken_wake.2 (.inr ⟨sound.able_mem h able, able⟩)

/-- After a turn whoever has become able to go on is woken. -/
theorem Sound.roused_step (sound : Sound P) (h : P s) (stepped : step? s = some next) :
    Roused next := by
  obtain ⟨a, rest, found, rfl⟩ := exists_of_step? stepped
  exact sound.roused_rouse
    (sound.keeps.toBack (sound.keeps.turn (sound.keeps.next h found) _))

/-- A turn of someone who can go on takes no time and uses up work. -/
theorem Sound.step_facts (sound : Sound P) (h : P s) (stepped : step? s = some next) :
    now next = now s ∧ work next < work s := by
  obtain ⟨a, rest, found, rfl⟩ := exists_of_step? stepped
  have able : isAble (setLine rest s) a = true := by
    rw [LawfulMachine.isAble_setLine]
    exact able_of_next? found
  obtain ⟨first, polled⟩ := Option.isSome_iff_exists.1 able
  have held : P (setLine rest s) := sound.keeps.next h found
  have used := sound.work_poll held polled
  have same := sound.now_poll held polled
  rw [LawfulMachine.work_setLine] at used
  rw [LawfulMachine.now_setLine] at same
  -- There is work for the first step, and what follows it is a turn as well.
  obtain ⟨fuel, enough⟩ : ∃ fuel, work s = fuel + 1 := ⟨work s - 1, by omega⟩
  have facts := sound.turn_facts (a := a) (sound.of_poll held polled) fuel
  simp only [rouse, toBack, LawfulMachine.now_setLine, LawfulMachine.work_setLine, enough,
    turn, polled]
  omega

theorem Sound.settleFor_facts (sound : Sound P) (h : P s) (roused : Roused s) (n : Nat) :
    P (settleFor n s) ∧ Roused (settleFor n s) ∧ now (settleFor n s) = now s ∧
      work (settleFor n s) ≤ work s := by
  induction n generalizing s with
  | zero => exact ⟨h, roused, rfl, Nat.le_refl _⟩
  | succ n ih =>
    rw [settleFor]
    split
    · exact ⟨h, roused, rfl, Nat.le_refl _⟩
    · next later stepped =>
      obtain ⟨same, less⟩ := sound.step_facts h stepped
      obtain ⟨held, woken, unmoved, bound⟩ :=
        ih (sound.keeps.step h stepped) (sound.roused_step h stepped)
      exact ⟨held, woken, unmoved.trans same, by omega⟩

/-- The work that is left bounds the number of turns. -/
theorem Sound.step?_settleFor (sound : Sound P) (h : P s) {n : Nat} (enough : work s ≤ n) :
    step? (settleFor n s) = none := by
  induction n generalizing s with
  | zero =>
    cases stepped : step? s with
    | none => exact stepped
    | some later =>
      have used := (sound.step_facts h stepped).2
      omega
  | succ n ih =>
    rw [settleFor]
    split
    · next quiet => exact quiet
    · next later stepped =>
      have used := (sound.step_facts h stepped).2
      exact ih (sound.keeps.step h stepped) (by omega)

/-- More turns than there is work for change nothing. -/
theorem Sound.settleFor_eq (sound : Sound P) (h : P s) {n : Nat} (enough : work s ≤ n) :
    settleFor n s = settleFor (work s) s := by
  obtain ⟨more, rfl⟩ := Nat.exists_eq_add_of_le enough
  rw [settleFor_add, settleFor_of_quiet (sound.step?_settleFor h (Nat.le_refl _))]

theorem Sound.settle_facts (sound : Sound P) (h : P s) (roused : Roused s) :
    P (settle s) ∧ now (settle s) = now s ∧ work (settle s) ≤ work s := by
  obtain ⟨held, -, unmoved, bound⟩ := sound.settleFor_facts h roused (work s)
  refine ⟨sound.keeps.calm held, ?_, ?_⟩
  · rw [settle, calm, LawfulMachine.now_setLine]
    exact unmoved
  · rw [settle, calm, LawfulMachine.work_setLine]
    exact bound

/-- **Stillness.** Nobody can go on once a machine has settled. -/
theorem Sound.still_settle (sound : Sound P) (h : P s) (roused : Roused s) : Still (settle s) := by
  have quiet := sound.step?_settleFor h (Nat.le_refl _)
  have woken := (sound.settleFor_facts h roused (work s)).2.1
  constructor
  · intro a
    rw [settle, calm, LawfulMachine.isAble_setLine]
    exact unable_of_step?_eq_none woken quiet a
  · rw [settle, calm, LawfulMachine.line_setLine]
    rfl

/-- A still machine has settled. -/
theorem settle_of_still (still : Still s) : settle s = s := by
  have quiet : step? s = none := by
    rw [step?_eq_none_iff, still.calm]
    intro a member
    cases member
  have same : (line s).calm = line s := by
    rw [Line.calm, ← still.calm]
  rw [settle_of_quiet quiet, calm, same, LawfulMachine.setLine_line]

/-- A turn of a machine that settles is settling begun. -/
theorem Sound.settle_step (sound : Sound P) (h : P s) (stepped : step? s = some next) :
    settle next = settle s := by
  have used := (sound.step_facts h stepped).2
  obtain ⟨fuel, enough⟩ : ∃ fuel, work s = fuel + 1 := ⟨work s - 1, by omega⟩
  have more : settleFor (work s) s = settleFor fuel next := by
    rw [enough, settleFor, stepped]
  -- One turn fewer is enough, since this one has used up work.
  have same : settleFor fuel next = settleFor (work next) next :=
    sound.settleFor_eq (sound.keeps.step h stepped) (by omega)
  rw [settle, settle, more, same]

/-! ### Giving way -/

/-- One who was woken for nothing changes nothing when called, but the line. -/
theorem call_of_unable {rest : List α} (woken : (line s).woken = a :: rest)
    (unable : isAble s a = false) :
    call s = setLine { line s with woken := rest } s := by
  simp [call, Line.first?, woken, unable]

/-- One who can go on has a turn when called. -/
theorem step?_of_able {rest : List α} (woken : (line s).woken = a :: rest)
    (able : isAble s a = true) : step? s = some (call s) := by
  simp [step?, next?, Line.next?, call, Line.first?, woken, able]

/-- Calling one who cannot go on leaves the next turn as it is. -/
theorem step?_call_of_unable {rest : List α} (woken : (line s).woken = a :: rest)
    (unable : isAble s a = false) : step? (call s) = step? s := by
  rw [call_of_unable woken unable, step?, step?, next?, next?]
  have able (b : α) : isAble (setLine { line s with woken := rest } s) b = isAble s b :=
    LawfulMachine.isAble_setLine _ s b
  simp only [LawfulMachine.line_setLine, Line.next?, able, woken, List.dropWhile_cons, unable,
    Bool.not_false, if_true, LawfulMachine.work_setLine]
  split <;> simp

/-- Calling the first of the woken keeps what settling will come to. -/
theorem Sound.call_facts (sound : Sound P) (h : P s) (roused : Roused s) :
    P (call s) ∧ Roused (call s) ∧ now (call s) = now s ∧ settle (call s) = settle s := by
  cases woken : (line s).woken with
  | nil =>
    rw [call_of_calm woken]
    exact ⟨h, roused, rfl, rfl⟩
  | cons a rest =>
    cases able : isAble s a with
    | true =>
      have stepped := step?_of_able woken able
      exact ⟨sound.keeps.step h stepped, sound.roused_step h stepped,
        (sound.step_facts h stepped).1, sound.settle_step h stepped⟩
    | false =>
      have called := call_of_unable woken able
      have held : P (call s) := by
        rw [called]
        exact sound.of_line h fun _ member => member
      have unmoved : now (call s) = now s := by
        rw [called, LawfulMachine.now_setLine]
      -- The one who was called cannot go on, so whoever can is behind it.
      have awake : Roused (call s) := by
        intro b goes
        rw [called, LawfulMachine.isAble_setLine] at goes
        have member := roused b goes
        rw [woken, List.mem_cons] at member
        rw [called, LawfulMachine.line_setLine]
        rcases member with rfl | behind
        · rw [able] at goes
          contradiction
        · exact behind
      refine ⟨held, awake, unmoved, ?_⟩
      -- Either both have the same next turn, or neither has one.
      have same := step?_call_of_unable woken able
      cases stepped : step? s with
      | some next =>
        rw [← sound.settle_step h stepped, ← sound.settle_step held (same.trans stepped)]
      | none =>
        rw [settle_of_quiet stepped, settle_of_quiet (same.trans stepped), called, calm, calm,
          LawfulMachine.line_setLine, LawfulMachine.setLine_setLine]
        rfl

/-- **Calling is settling begun.** Giving way makes no difference to how a machine settles. -/
theorem Sound.giveWay_facts (sound : Sound P) (h : P s) (roused : Roused s) :
    P (giveWay s) ∧ Roused (giveWay s) ∧ now (giveWay s) = now s ∧
      settle (giveWay s) = settle s := by
  have calls (n : Nat) : ∀ {s : σ}, P s → Roused s →
      P (callFor n s) ∧ Roused (callFor n s) ∧ now (callFor n s) = now s ∧
        settle (callFor n s) = settle s := by
    induction n with
    | zero => exact fun h roused => ⟨h, roused, rfl, rfl⟩
    | succ n ih =>
      intro s h roused
      obtain ⟨held, awake, unmoved, settled⟩ := sound.call_facts h roused
      obtain ⟨held', awake', unmoved', settled'⟩ := ih held awake
      exact ⟨held', awake', unmoved'.trans unmoved, settled'.trans settled⟩
  exact calls recess h roused

end Settling

end Machine

end SchedulerHost.Host
