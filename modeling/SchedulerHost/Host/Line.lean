import Std.Data.HashSet

/-!
# Lines

Those who take turns stand in a line. Whoever is woken is called to have a turn, in the order in
which they were woken, and nobody is woken twice before it. Whoever has had a turn goes to the back
of the line. One who was woken for nothing is called, but has no turn and keeps the place.

Main statements: `next?_eq_none_iff` and `mem_woken_wake`.
-/

namespace SchedulerHost.Host

/-- Those who take turns, the one who has waited longest first, and those of them who have been
woken, in the order in which they were. -/
structure Line (α : Type) where
  members : List α
  woken : List α
deriving DecidableEq

namespace Line

variable {α : Type}

def empty : Line α := ⟨[], []⟩

/-- Nobody is to have a turn any more. -/
def calm (l : Line α) : Line α := { l with woken := [] }

/-- The first of the woken, and the line with those who were woken after. -/
def first? (l : Line α) : Option (α × Line α) :=
  match l.woken with
  | [] => none
  | a :: rest => some (a, { l with woken := rest })

/-- The first of the woken who can go on, and the line with those who were woken after. -/
def next? (able : α → Bool) (l : Line α) : Option (α × Line α) :=
  match l.woken.dropWhile (!able ·) with
  | [] => none
  | a :: rest => some (a, { l with woken := rest })

variable [DecidableEq α]

def toBack (a : α) (l : Line α) : Line α := { l with members := l.members.erase a ++ [a] }

variable [Hashable α]

/-- Wakes those in the line whom a condition picks out. -/
def wake (picked : α → Bool) (l : Line α) : Line α :=
  let called := Std.HashSet.ofList l.woken
  -- Those who are woken already are not looked at, which may be costly.
  { l with woken := l.woken ++ l.members.filter fun a => !called.contains a && picked a }

omit [DecidableEq α] [Hashable α] in
/-- Nobody has a turn when none of the woken can go on. -/
theorem next?_eq_none_iff {able : α → Bool} {l : Line α} :
    l.next? able = none ↔ ∀ a ∈ l.woken, able a = false := by
  unfold next?
  have front := List.head?_dropWhile_not (!able ·) l.woken
  cases woken : l.woken.dropWhile (!able ·) with
  | nil =>
    have left := List.any_dropWhile (p := (!able ·)) (l := l.woken)
    rw [woken] at left
    simpa using left
  | cons a rest =>
    -- The first who is left can go on.
    rw [woken] at front
    have goes : able a = true := by simpa using front
    have member : a ∈ l.woken := (List.dropWhile_sublist _).subset (woken ▸ List.mem_cons_self)
    exact iff_of_false nofun fun unable => by simp [unable a member] at goes

/-- Waking adds those who are picked out, and nobody else. -/
theorem mem_woken_wake {picked : α → Bool} {l : Line α} {a : α} :
    a ∈ (l.wake picked).woken ↔ a ∈ l.woken ∨ (a ∈ l.members ∧ picked a = true) := by
  by_cases h : a ∈ l.woken <;> simp [wake, h]

@[simp] theorem members_wake (picked : α → Bool) (l : Line α) :
    (l.wake picked).members = l.members := rfl

end Line

end SchedulerHost.Host
