/-!
# Dates

Dates of the Gregorian calendar, extended to all years, and the day after and the day before one.

Main statement: `Date.next_previous`.
-/

namespace SchedulerHost.Time

/-- Is there a 29th of February in the year? -/
def isLeapYear (year : Int) : Bool := year % 4 = 0 && (year % 100 ≠ 0 || year % 400 = 0)

def daysIn (year : Int) (month : Nat) : Nat :=
  if month = 2 then if isLeapYear year then 29 else 28
  else if month = 4 ∨ month = 6 ∨ month = 9 ∨ month = 11 then 30
  else 31

theorem daysIn_pos (year : Int) (month : Nat) : 1 ≤ daysIn year month := by
  unfold daysIn
  split
  · split <;> omega
  · split <;> omega

structure Date where
  year : Int
  month : Nat
  day : Nat
  month_range : 1 ≤ month ∧ month ≤ 12
  day_range : 1 ≤ day ∧ day ≤ daysIn year month
deriving DecidableEq

namespace Date

def of? (year : Int) (month day : Nat) : Option Date :=
  if h : (1 ≤ month ∧ month ≤ 12) ∧ 1 ≤ day ∧ day ≤ daysIn year month then
    some ⟨year, month, day, h.1, h.2⟩
  else none

def next (d : Date) : Date :=
  if h : d.day < daysIn d.year d.month then
    { d with day := d.day + 1, day_range := by omega }
  else if h' : d.month < 12 then
    ⟨d.year, d.month + 1, 1, by omega, ⟨Nat.le_refl 1, daysIn_pos _ _⟩⟩
  else ⟨d.year + 1, 1, 1, by omega, ⟨Nat.le_refl 1, daysIn_pos _ _⟩⟩

def previous (d : Date) : Date :=
  if h : 1 < d.day then
    { d with day := d.day - 1, day_range := by have := d.day_range; omega }
  else if h' : 1 < d.month then
    ⟨d.year, d.month - 1, daysIn d.year (d.month - 1), by have := d.month_range; omega,
      ⟨daysIn_pos _ _, Nat.le_refl _⟩⟩
  else ⟨d.year - 1, 12, 31, by omega, by simp [daysIn]⟩

/-- The day after the previous day is the day itself. -/
theorem next_previous (d : Date) : d.previous.next = d := by
  obtain ⟨year, month, day, hm, hd⟩ := d
  unfold previous
  split
  · next h =>
    have : day - 1 < daysIn year month := by simp at h; omega
    simp [next, this]
    simp at h; omega
  · next h =>
    have first : day = 1 := by simp at h; omega
    subst first
    split
    · next h' =>
      have : month - 1 < 12 := by omega
      simp [next, this]
      simp at h'; omega
    · next h' =>
      have january : month = 1 := by simp at h'; omega
      subst january
      simp [next, daysIn]

end Date

end SchedulerHost.Time
