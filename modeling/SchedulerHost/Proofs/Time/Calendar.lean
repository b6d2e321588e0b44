import Mathlib.Data.Rat.Floor
import Mathlib.Tactic.Linarith
import SchedulerHost.Time.Instant

/-!
# Moments

Instants are counted from the beginning of the year 0: the days by a formula of the calendar, the
minutes by the days, and the second of a minute as a fraction, a leap second being its last one.
The count knows nothing of how an instant moves over the end of a day, a month or a year.

* `Date.number_next`, `Date.number_previous`: the days are counted one by one.
* **Moving** (`Instant.moment_later`, `Instant.moment_earlier`): an instant that is moved by some
  minutes is moved by as many on the count.
* `Moment.cut`: a moment without what is finer than a nanosecond.
-/

namespace SchedulerHost.Time

/-! ### Days -/

/-- The number of days from the beginning of the year 0 to that of a year. -/
def daysBeforeYear (year : Int) : Int :=
  365 * year + (year + 3) / 4 - (year + 99) / 100 + (year + 399) / 400

def daysOfMonths (year : Int) : Nat → Nat
  | 0 => 0
  | months + 1 => daysOfMonths year months + daysIn year (months + 1)

theorem daysIn_le (year : Int) (month : Nat) : daysIn year month ≤ 31 := by
  unfold daysIn
  split
  · split <;> omega
  · split <;> omega

/-- A year has the days of its months. -/
theorem daysBeforeYear_add_one (year : Int) :
    daysBeforeYear (year + 1) = daysBeforeYear year + daysOfMonths year 12 := by
  cases leap : isLeapYear year with
  | true =>
    have days : daysOfMonths year 12 = 366 := by simp [daysOfMonths, daysIn, leap]
    simp only [isLeapYear, Bool.and_eq_true, Bool.or_eq_true, decide_eq_true_eq] at leap
    simp only [daysBeforeYear, days]
    omega
  | false =>
    have days : daysOfMonths year 12 = 365 := by simp [daysOfMonths, daysIn, leap]
    simp only [isLeapYear, Bool.and_eq_false_iff, Bool.or_eq_false_iff,
      decide_eq_false_iff_not] at leap
    simp only [daysBeforeYear, days]
    omega

namespace Date

/-- The number of days from the beginning of the year 0 to that of a date. -/
def number (d : Date) : Int :=
  daysBeforeYear d.year + daysOfMonths d.year (d.month - 1) + d.day - 1

/-- The day after is the next one on the count. -/
theorem number_next (d : Date) : d.next.number = d.number + 1 := by
  obtain ⟨year, month, day, hm, hd⟩ := d
  obtain ⟨month, rfl⟩ : ∃ m, month = m + 1 := ⟨month - 1, by omega⟩
  unfold next
  split
  · -- Within the month.
    simp only [number]
    omega
  · next past =>
    have last : day = daysIn year (month + 1) := by simp only at past; omega
    split
    · -- To the first of the next month.
      simp only [number, Nat.add_sub_cancel, daysOfMonths, last]
      omega
    · next past =>
      -- To the first of January.
      have december : month = 11 := by simp only at past; omega
      subst december
      have turn := daysBeforeYear_add_one year
      have new : daysOfMonths (year + 1) (1 - 1) = 0 := rfl
      simp only [number, last, new, daysOfMonths] at turn ⊢
      omega

/-- The day before is the one before on the count. -/
theorem number_previous (d : Date) : d.previous.number = d.number - 1 := by
  have next := number_next d.previous
  rw [next_previous] at next
  omega

end Date

/-! ### Moments -/

/-- A point of time: a minute, counted from the beginning of the year 0, and the second in it. -/
structure Moment where
  minute : Int
  second : Rat
deriving DecidableEq

/-- A moment without what is finer than a nanosecond. -/
def Moment.cut (m : Moment) : Moment := { m with second := ⌊m.second * 1000000000⌋ / 1000000000 }

namespace Instant

def moment (t : Instant) : Moment :=
  ⟨t.date.number * 1440 + t.minute, t.second + t.nano / 1000000000⟩

theorem moment_later (t : Instant) (minutes : Nat) (h : minutes < 1440) :
    (t.later minutes h).moment = { t.moment with minute := t.moment.minute + minutes } := by
  have bound := t.minute_lt
  unfold later
  split
  · simp only [moment, Moment.mk.injEq, and_true]
    omega
  · simp only [moment, Date.number_next, Moment.mk.injEq, and_true]
    omega

theorem moment_earlier (t : Instant) (minutes : Nat) (h : minutes < 1440) :
    (t.earlier minutes h).moment = { t.moment with minute := t.moment.minute - minutes } := by
  unfold earlier
  split
  · simp only [moment, Moment.mk.injEq, and_true]
    omega
  · simp only [moment, Date.number_previous, Moment.mk.injEq, and_true]
    omega

end Instant

end SchedulerHost.Time
