import Mathlib.Algebra.Ring.Int.Defs
import Mathlib.Algebra.Ring.Nat
import Mathlib.Data.List.TakeWhile
import SchedulerHost.Proofs.Text.Trimming
import SchedulerHost.Time.Instant

/-!
# Scanning times

The parts of the text of an instant, given by their characters and not by how they are scanned:
numerals, marks between them, a fraction of any length, and an offset from universal time, with
white space wherever it is allowed. Each scanner takes a part from the front of a text if what
follows cannot go on with it, and whatever it takes is such a part.

* `scanDigits_append`, `exists_of_scanDigits`: a run of digits is cut off at the allowed number.
* **Numbers and marks** (`scanPart_of_partText` and `partText_of_scanPart`, `scanMark_of_markText`
  and `markText_of_scanMark`, `scanYear_of_yearText` and `yearText_of_scanYear`).
* **Fractions and offsets** (`scanFraction_of_fractionText` and `fractionText_of_scanFraction`,
  `scanOffset_of_offsetText` and `offsetText_of_scanOffset`).
-/

namespace SchedulerHost.Time

open Text (exists_blanks isBlank not_isBlank_of_isDigit not_isDigit_of_isBlank toNat_of_isBlank
  trimStart trimStart_append)

namespace Instant

variable {cs rest text : List Char} {n : Nat}

/-! ### Runs of characters -/

/-- A chain of readings that comes to an end has read each of its parts. -/
theorem exists_of_bind {ε α β : Type} {first : Except ε α} {next : α → Except ε β} {b : β}
    (h : first >>= next = .ok b) : ∃ a, first = .ok a ∧ next a = .ok b := by
  cases first with
  | error fault => cases h
  | ok a => exact ⟨a, rfl, h⟩

def Stops (cs : List Char) : Prop := ∀ c ∈ cs.head?, c.isDigit = false

def Blanks (cs : List Char) : Prop := ∀ c ∈ cs, isBlank c = true

/-! ### Numerals -/

theorem digitsValue_eq (ds : List Char) : digitsValue ds = Nat.ofDigitChars 10 ds 0 := by
  rw [digitsValue, Nat.ofDigitChars_eq_foldl]
  simp only [Nat.mul_comm]

/-- What comes first counts for more, by a power of ten for each digit behind it. -/
theorem digitsValue_append (first last : List Char) :
    digitsValue (first ++ last) = 10 ^ last.length * digitsValue first + digitsValue last := by
  simp only [digitsValue_eq, Nat.ofDigitChars_append]
  exact Nat.ofDigitChars_eq_ofDigitChars_zero

/-- The number of digits bounds what they spell. -/
theorem digitsValue_lt {ds : List Char} (digits : ∀ c ∈ ds, c.isDigit = true) :
    digitsValue ds < 10 ^ ds.length := by
  induction ds with
  | nil => decide
  | cons c ds ih =>
    have digit := digits c List.mem_cons_self
    have rest := ih fun d there => digits d (List.mem_cons_of_mem _ there)
    have value : digitsValue [c] ≤ 9 := by
      simp only [Char.isDigit, Bool.and_eq_true, decide_eq_true_eq, UInt32.le_iff_toNat_le] at digit
      change c.toNat ≥ 48 ∧ c.toNat ≤ 57 at digit
      change 0 * 10 + (c.toNat - 48) ≤ 9
      omega
    have parts := digitsValue_append [c] ds
    have bound : 10 ^ ds.length * digitsValue [c] ≤ 10 ^ ds.length * 9 :=
      Nat.mul_le_mul_left _ value
    rw [List.singleton_append] at parts
    rw [parts, List.length_cons, Nat.pow_succ]
    omega

structure Numeral (ds : List Char) (n : Nat) : Prop where
  ne_nil : ds ≠ []
  digits : ∀ c ∈ ds, c.isDigit = true
  value : digitsValue ds = n

theorem Numeral.exists_cons {ds : List Char} (numeral : Numeral ds n) :
    ∃ c tail, ds = c :: tail ∧ c.isDigit = true := by
  cases ds with
  | nil => exact absurd rfl numeral.ne_nil
  | cons c tail => exact ⟨c, tail, rfl, numeral.digits c List.mem_cons_self⟩

/-- A run of digits is taken up to the number of digits that are allowed. -/
theorem scanDigits_append {run : List Char} (some : run ≠ [])
    (digits : ∀ c ∈ run, c.isDigit = true) (stop : Stops rest) (most : Nat) :
    scanDigits most (run ++ rest) =
      if digitsValue (run.take most) < 2 ^ 63 then
        .ok (digitsValue (run.take most), run.drop most ++ rest)
      else .error .outOfRange := by
  obtain ⟨c, tail, rfl⟩ := List.exists_cons_of_ne_nil some
  have taken : (((c :: tail) ++ rest).take most).takeWhile Char.isDigit =
      (c :: tail).take most := by
    rw [List.take_append, List.takeWhile_append_of_pos
      fun c there => digits c (List.mem_of_mem_take there)]
    cases rest with
    | nil => simp
    | cons d rest =>
      cases most - (c :: tail).length with
      | zero => simp
      | succ k => simp [stop d (by simp)]
  have left : ((c :: tail) ++ rest).drop ((c :: tail).take most).length =
      (c :: tail).drop most ++ rest := by
    rw [List.length_take, List.drop_append]
    rcases Nat.le_total most (c :: tail).length with short | long
    · rw [Nat.min_eq_left short, Nat.sub_eq_zero_of_le short]
      rfl
    · rw [Nat.min_eq_right long, List.drop_eq_nil_of_le long, List.drop_length, Nat.sub_self]
      rfl
  have first : c.isDigit = true := digits c List.mem_cons_self
  rw [List.cons_append] at taken left ⊢
  simp only [scanDigits, first, if_true, taken, left]
  rfl

/-- A numeral that is short enough is taken. -/
theorem scanDigits_of_numeral {ds : List Char} (numeral : Numeral ds n) {most : Nat}
    (short : ds.length ≤ most) (small : n < 2 ^ 63) (stop : Stops rest) :
    scanDigits most (ds ++ rest) = .ok (n, rest) := by
  rw [scanDigits_append numeral.ne_nil numeral.digits stop, List.take_of_length_le short,
    List.drop_eq_nil_of_le short, numeral.value, if_pos small, List.nil_append]

/-- What is taken as a number is part of a run of digits. -/
theorem exists_of_scanDigits {most : Nat} (h : scanDigits most cs = .ok (n, rest)) :
    ∃ run tail, cs = run ++ tail ∧ run ≠ [] ∧ (∀ c ∈ run, c.isDigit = true) ∧ Stops tail ∧
      n = digitsValue (run.take most) ∧ rest = run.drop most ++ tail := by
  have split : cs = cs.takeWhile Char.isDigit ++ cs.dropWhile Char.isDigit :=
    List.takeWhile_append_dropWhile.symm
  have digits : ∀ c ∈ cs.takeWhile Char.isDigit, c.isDigit = true :=
    fun _ => List.mem_takeWhile_imp
  have stop : Stops (cs.dropWhile Char.isDigit) := by
    intro c first
    have some := List.head?_dropWhile_not Char.isDigit cs
    rw [Option.mem_def.1 first] at some
    simpa using some
  have some : cs.takeWhile Char.isDigit ≠ [] := by
    intro none
    cases cs with
    | nil => simp [scanDigits] at h
    | cons c cs =>
      have other : c.isDigit = false := by
        cases digit : c.isDigit with
        | false => rfl
        | true => simp [digit] at none
      simp [scanDigits, other] at h
  rw [split, scanDigits_append some digits stop] at h
  split_ifs at h
  simp only [Except.ok.injEq, Prod.mk.injEq] at h
  exact ⟨_, _, split, some, digits, stop, h.1.symm, h.2.symm⟩

/-- A number that is taken is a numeral. -/
theorem numeral_of_scanDigits {most : Nat} (positive : cs = [] ∨ 0 < most)
    (h : scanDigits most cs = .ok (n, rest)) :
    ∃ ds, cs = ds ++ rest ∧ Numeral ds n ∧ ds.length ≤ most := by
  obtain ⟨run, tail, rfl, some, digits, -, value, rfl⟩ := exists_of_scanDigits h
  have positive : 0 < most := by simpa [some] using positive
  refine ⟨run.take most, ?_, ⟨?_, ?_, value.symm⟩, List.length_take_le _ _⟩
  · rw [← List.append_assoc, List.take_append_drop]
  · simp [some, Nat.ne_of_gt positive]
  · exact fun c there => digits c (List.mem_of_mem_take there)

/-! ### Parts between marks -/

/-- A number of one or two digits within bounds, white space before it. -/
inductive PartText (low high : Nat) : List Char → Nat → Prop
  | intro {blanks ds : List Char} {n : Nat} (gap : Blanks blanks) (numeral : Numeral ds n)
    (short : ds.length ≤ 2) (least : low ≤ n) (most : n ≤ high) : PartText low high (blanks ++ ds) n

/-- A mark, white space before it. -/
inductive MarkText (mark : Char) : List Char → Prop
  | intro {blanks : List Char} (gap : Blanks blanks) : MarkText mark (blanks ++ [mark])

/-- A year: up to four digits, or a sign and any number of digits, white space before it. -/
inductive YearText : List Char → Int → Prop
  | plain {blanks ds : List Char} {n : Nat} (gap : Blanks blanks) (numeral : Numeral ds n)
    (short : ds.length ≤ 4) : YearText (blanks ++ ds) n
  | after {blanks ds : List Char} {n : Nat} (gap : Blanks blanks) (numeral : Numeral ds n)
    (fits : (n : Int) < 2 ^ 31) : YearText (blanks ++ '+' :: ds) n
  | before {blanks ds : List Char} {n : Nat} (gap : Blanks blanks) (numeral : Numeral ds n)
    (fits : (n : Int) ≤ 2 ^ 31) : YearText (blanks ++ '-' :: ds) (-n)

/-- What begins with a digit has no white space in front. -/
theorem Numeral.head_not_isBlank {ds : List Char} (numeral : Numeral ds n) :
    ∀ c ∈ (ds ++ rest).head?, isBlank c = false := by
  obtain ⟨c, tail, rfl, digit⟩ := numeral.exists_cons
  simp [not_isBlank_of_isDigit digit]

theorem stops_blanks {blanks : List Char} (gap : Blanks blanks) (stop : Stops rest) :
    Stops (blanks ++ rest) := by
  cases blanks with
  | nil => exact stop
  | cons c blanks =>
    intro d first
    obtain rfl : c = d := by simpa using first
    exact not_isDigit_of_isBlank (gap c List.mem_cons_self)

theorem MarkText.stops {mark : Char} (h : MarkText mark text) (other : mark.isDigit = false) :
    Stops (text ++ rest) := by
  obtain ⟨gap⟩ := h
  rw [List.append_assoc]
  exact stops_blanks gap (by simp [Stops, other])

/-- A part is taken as it is spelled. -/
theorem scanPart_of_partText {low high : Nat} (h : PartText low high text n) (stop : Stops rest) :
    scanPart low high (text ++ rest) = .ok (n, rest) := by
  obtain ⟨gap, numeral, short, least, most⟩ := h
  have small : n < 2 ^ 63 := by
    calc n < 10 ^ _ := numeral.value ▸ digitsValue_lt numeral.digits
      _ ≤ 10 ^ 2 := Nat.pow_le_pow_right (by decide) short
      _ < 2 ^ 63 := by decide
  rw [scanPart, List.append_assoc, trimStart_append gap numeral.head_not_isBlank,
    scanDigits_of_numeral numeral short small stop]
  simp [bind, Except.bind, least, most]

/-- Whatever is taken as a part spells it. -/
theorem partText_of_scanPart {low high : Nat} (h : scanPart low high cs = .ok (n, rest)) :
    ∃ text, cs = text ++ rest ∧ PartText low high text n := by
  obtain ⟨blanks, gap, split⟩ := exists_blanks cs
  obtain ⟨⟨m, left⟩, taken, bounds⟩ := exists_of_bind h
  obtain ⟨ds, run, numeral, short⟩ := numeral_of_scanDigits (.inr (by decide)) taken
  dsimp only at bounds
  split_ifs at bounds with inside
  simp only [Except.ok.injEq, Prod.mk.injEq] at bounds
  obtain ⟨rfl, rfl⟩ := bounds
  exact ⟨blanks ++ ds, by rw [split, run, List.append_assoc],
    .intro gap numeral short inside.1 inside.2⟩

theorem scanMark_of_markText {mark : Char} (h : MarkText mark text) (other : isBlank mark = false) :
    scanMark mark (text ++ rest) = .ok rest := by
  obtain ⟨gap⟩ := h
  rw [scanMark, List.append_assoc, trimStart_append gap (by simp [other])]
  simp

theorem markText_of_scanMark {mark : Char} (h : scanMark mark cs = .ok rest) :
    ∃ text, cs = text ++ rest ∧ MarkText mark text := by
  obtain ⟨blanks, gap, split⟩ := exists_blanks cs
  unfold scanMark at h
  split at h
  · cases h
  · next c left taken =>
    split_ifs at h with same
    simp only [Except.ok.injEq] at h
    subst same h
    exact ⟨blanks ++ [c], by rw [split, taken, List.append_assoc]; rfl, .intro gap⟩

theorem holds_signed_iff {year : Int} :
    (Numeric.IntRange.signed 32).holds year = true ↔
      -(2 ^ 31) ≤ year ∧ year < 2 ^ 31 := by
  simp only [Numeric.IntRange.holds, Bool.and_eq_true, decide_eq_true_eq]
  change -(2 ^ 31) ≤ year ∧ year ≤ 2 ^ 31 - 1 ↔ _
  omega

/-- A year is taken as it is spelled. -/
theorem scanYear_of_yearText {year : Int} (h : YearText text year) (stop : Stops rest) :
    scanYear (text ++ rest) = .ok (year, rest) := by
  have wide : 2 ^ 31 < 2 ^ 63 := by decide
  cases h with
  | @plain blanks ds n gap numeral short =>
    have small : n < 10 ^ 4 := by
      calc n < 10 ^ ds.length := numeral.value ▸ digitsValue_lt numeral.digits
        _ ≤ 10 ^ 4 := Nat.pow_le_pow_right (by decide) short
    have bound : 10 ^ 4 < 2 ^ 31 := by decide
    have fits : (Numeric.IntRange.signed 32).holds n = true := by
      rw [holds_signed_iff]
      omega
    have taken := scanDigits_of_numeral numeral short (by omega) stop
    obtain ⟨c, tail, rfl, digit⟩ := numeral.exists_cons
    rw [scanYear, List.append_assoc, trimStart_append gap numeral.head_not_isBlank]
    rw [List.cons_append] at taken ⊢
    split
    · simp_all
    · simp_all
    · simp [taken, bind, Except.bind, Except.map, fits]
  | @after blanks ds n gap numeral fits =>
    have fits : (Numeric.IntRange.signed 32).holds n = true := by
      rw [holds_signed_iff]
      omega
    have short : ds.length ≤ (ds ++ rest).length := by simp
    have taken := scanDigits_of_numeral numeral short (by omega) stop
    rw [scanYear, List.append_assoc, trimStart_append gap (by simp; decide)]
    simp only [List.cons_append, taken, bind, Except.bind, Except.map, fits, if_true]
  | @before blanks ds n gap numeral fits =>
    have positive : (0 : Int) < 2 ^ 31 := by decide
    have fits : (Numeric.IntRange.signed 32).holds (-n) = true := by
      rw [holds_signed_iff]
      omega
    have short : ds.length ≤ (ds ++ rest).length := by simp
    have taken := scanDigits_of_numeral numeral short (by omega) stop
    rw [scanYear, List.append_assoc, trimStart_append gap (by simp; decide)]
    simp only [List.cons_append, taken, bind, Except.bind, Except.map, fits, if_true]

/-- A year is a number that was taken, with its sign, and fits. -/
theorem exists_of_bounded {most : Nat} (sign : Nat → Int) {year : Int}
    (h : ((scanDigits most cs).map fun (n, cs) => (sign n, cs)).bind (fun (year, cs) =>
        if (Numeric.IntRange.signed 32).holds year then .ok (year, cs)
        else .error TimeFault.outOfRange) = .ok (year, rest)) :
    ∃ n, scanDigits most cs = .ok (n, rest) ∧ sign n = year ∧
      -(2 ^ 31) ≤ year ∧ year < 2 ^ 31 := by
  obtain ⟨⟨y, left⟩, taken, bounds⟩ := exists_of_bind h
  dsimp only at bounds
  split_ifs at bounds with fits
  simp only [Except.ok.injEq, Prod.mk.injEq] at bounds
  obtain ⟨rfl, rfl⟩ := bounds
  cases scanned : scanDigits most cs with
  | error fault => simp [scanned, Except.map] at taken
  | ok part =>
    simp only [scanned, Except.map, Except.ok.injEq, Prod.mk.injEq] at taken
    exact ⟨part.1, by rw [← taken.2], taken.1, holds_signed_iff.1 fits⟩

/-- Whatever is taken as a year spells it. -/
theorem yearText_of_scanYear {year : Int} (h : scanYear cs = .ok (year, rest)) :
    ∃ text, cs = text ++ rest ∧ YearText text year := by
  obtain ⟨blanks, gap, split⟩ := exists_blanks cs
  simp only [scanYear] at h
  split at h
  · next tail begins =>
    obtain ⟨n, taken, rfl, low, -⟩ := exists_of_bounded (fun n => -(n : Int)) h
    obtain ⟨ds, run, numeral, -⟩ := numeral_of_scanDigits
      (by cases tail with | nil => simp | cons c tail => simp) taken
    exact ⟨blanks ++ '-' :: ds, by rw [split, begins, run, List.append_assoc]; rfl,
      .before gap numeral (by omega)⟩
  · next tail begins =>
    obtain ⟨n, taken, rfl, -, high⟩ := exists_of_bounded (fun n => (n : Int)) h
    obtain ⟨ds, run, numeral, -⟩ := numeral_of_scanDigits
      (by cases tail with | nil => simp | cons c tail => simp) taken
    exact ⟨blanks ++ '+' :: ds, by rw [split, begins, run, List.append_assoc]; rfl,
      .after gap numeral high⟩
  · obtain ⟨n, taken, rfl, -, -⟩ := exists_of_bounded (fun n => (n : Int)) h
    obtain ⟨ds, run, numeral, short⟩ := numeral_of_scanDigits (.inr (by decide)) taken
    exact ⟨blanks ++ ds, by rw [split, run, List.append_assoc], .plain gap numeral short⟩

/-! ### Fractions and offsets -/

/-- What stands between the date and the time of day. -/
def IsTimeMark (c : Char) : Prop := c = 't' ∨ c = 'T' ∨ c = ' '

/-- A fraction of a second: nothing, or a point and the digits of the fraction. -/
inductive FractionText : List Char → List Char → Prop
  | none : FractionText [] []
  | some {ds : List Char} (ne_nil : ds ≠ []) (digits : ∀ c ∈ ds, c.isDigit = true) :
    FractionText ('.' :: ds) ds

/-- An offset from universal time in minutes: a name of universal time, or a sign, two digits of
hours, colons and white space, and two digits of minutes. -/
inductive OffsetText : List Char → Int → Prop
  | named {a b c : Char} (name : [a, b, c].map Char.toUpper = ['U', 'T', 'C']) :
    OffsetText [a, b, c] 0
  | zero {c : Char} (letter : c = 'Z' ∨ c = 'z') : OffsetText [c] 0
  | east {a b x y : Char} {hours minutes : Nat} {between : List Char}
    (hour : Numeral [a, b] hours) (gap : ∀ c ∈ between, c = ':' ∨ isBlank c = true)
    (minute : Numeral [x, y] minutes) (least : x ≤ '5') :
    OffsetText ('+' :: a :: b :: (between ++ [x, y])) (hours * 60 + minutes)
  | west {sign a b x y : Char} {hours minutes : Nat} {between : List Char}
    (minus : sign = '-' ∨ sign = '−') (hour : Numeral [a, b] hours)
    (gap : ∀ c ∈ between, c = ':' ∨ isBlank c = true)
    (minute : Numeral [x, y] minutes) (least : x ≤ '5') :
    OffsetText (sign :: a :: b :: (between ++ [x, y])) (-(hours * 60 + minutes))

def nanos (fraction : List Char) : Nat :=
  digitsValue (fraction.take 9) * 10 ^ (9 - (fraction.take 9).length)

theorem scanTimeMark_of_isTimeMark {c : Char} (mark : IsTimeMark c) :
    scanTimeMark (c :: rest) = .ok rest :=
  if_pos mark

theorem isTimeMark_of_scanTimeMark (h : scanTimeMark cs = .ok rest) :
    ∃ c, cs = c :: rest ∧ IsTimeMark c := by
  unfold scanTimeMark at h
  split at h
  · cases h
  · next c left =>
    split_ifs at h with mark
    cases h
    exact ⟨c, rfl, mark⟩

/-- The digits of a fraction are all taken, though not all of them count. -/
theorem scanFraction_append {run : List Char} (some : run ≠ [])
    (digits : ∀ c ∈ run, c.isDigit = true) (stop : Stops rest) :
    scanFraction ('.' :: (run ++ rest)) = .ok (nanos run, rest) := by
  have small : digitsValue (run.take 9) < 2 ^ 63 := by
    calc digitsValue (run.take 9) < 10 ^ (run.take 9).length :=
          digitsValue_lt fun c there => digits c (List.mem_of_mem_take there)
      _ ≤ 10 ^ 9 := Nat.pow_le_pow_right (by decide) (List.length_take_le _ _)
      _ < 2 ^ 63 := by decide
  have taken := scanDigits_append some digits stop 9
  rw [if_pos small] at taken
  have count : (run ++ rest).length - (run.drop 9 ++ rest).length = (run.take 9).length := by
    simp only [List.length_append, List.length_drop, List.length_take]
    omega
  have left : (run.drop 9 ++ rest).dropWhile Char.isDigit = rest := by
    rw [List.dropWhile_append_of_pos fun c there => digits c (List.mem_of_mem_drop there)]
    cases rest with
    | nil => rfl
    | cons c rest => simp [stop c (by simp)]
  simp only [scanFraction, taken, bind, Except.bind, count, left, nanos, pure, Except.pure]
  rfl

/-- A fraction is taken as it is spelled. -/
theorem scanFraction_of_fractionText {ds : List Char} (h : FractionText text ds)
    (stop : ∀ c ∈ rest.head?, c.isDigit = false ∧ c ≠ '.') :
    scanFraction (text ++ rest) = .ok (nanos ds, rest) := by
  cases h with
  | none =>
    unfold scanFraction
    split
    · simp_all
    · rfl
  | some ne_nil digits =>
    exact scanFraction_append ne_nil digits fun c first => (stop c first).1

/-- Whatever is taken as a fraction spells it. -/
theorem fractionText_of_scanFraction (h : scanFraction cs = .ok (n, rest)) :
    ∃ text ds, cs = text ++ rest ∧ FractionText text ds ∧ nanos ds = n := by
  have read := h
  unfold scanFraction at h
  split at h
  · next cs =>
    obtain ⟨⟨m, left⟩, taken, -⟩ := exists_of_bind h
    obtain ⟨run, tail, rfl, some, digits, stop, -, -⟩ := exists_of_scanDigits taken
    rw [scanFraction_append some digits stop] at read
    cases read
    exact ⟨'.' :: run, run, rfl, .some some digits, rfl⟩
  · cases h
    exact ⟨[], [], rfl, .none, rfl⟩

theorem scanTwoDigits_of_numeral {a b high : Char} (numeral : Numeral [a, b] n) (least : a ≤ high)
    (rest : List Char) :
    scanTwoDigits high (a :: b :: rest) = .ok (n, rest) := by
  have first : a.isDigit = true := numeral.digits a (by simp)
  have second : b.isDigit = true := numeral.digits b (by simp)
  have bytes : ¬((a :: b :: rest).map Char.utf8Size).foldr (· + ·) 0 < 2 := by
    have := a.utf8Size_pos
    have := b.utf8Size_pos
    simp only [List.map_cons, List.foldr_cons]
    omega
  simp only [scanTwoDigits, bytes, first, second, least, and_self, if_true, if_false,
    numeral.value]

theorem numeral_of_scanTwoDigits {high : Char} (h : scanTwoDigits high cs = .ok (n, rest)) :
    ∃ a b, cs = a :: b :: rest ∧ Numeral [a, b] n ∧ a ≤ high := by
  unfold scanTwoDigits at h
  split_ifs at h
  split at h
  · next _ a b left _ =>
    split_ifs at h with digits least
    cases h
    exact ⟨a, b, rfl, ⟨by simp, by simp [digits], rfl⟩, least⟩
  · cases h

theorem le_nine_of_isDigit {c : Char} (digit : c.isDigit = true) : c ≤ '9' := by
  simp only [Char.isDigit, Bool.and_eq_true, decide_eq_true_eq] at digit
  exact digit.2

/-- Colons and white space are passed over up to the minutes. -/
theorem dropWhile_between {between : List Char} (gap : ∀ c ∈ between, c = ':' ∨ isBlank c = true)
    {x : Char} (digit : x.isDigit = true) (y : Char) (rest : List Char) :
    (between ++ [x, y] ++ rest).dropWhile (fun c => c = ':' || isBlank c) = x :: y :: rest := by
  have inside (c : Char) (there : c ∈ between) : (decide (c = ':') || isBlank c) = true := by
    simpa using gap c there
  have stop : (decide (x = ':') || isBlank x) = false := by
    have other : x ≠ ':' := by rintro rfl; cases digit
    simp [other, not_isBlank_of_isDigit digit]
  rw [List.append_assoc, List.dropWhile_append_of_pos inside]
  simp [stop]

theorem startsUniversal_cons {c : Char} (other : c.toUpper ≠ 'U') :
    startsUniversal (c :: rest) = false := by
  simp [startsUniversal, other]

/-- A moved offset is taken, whatever the sign. -/
theorem scanOffset_moved {sign a b x y : Char} {hours minutes : Nat} {between : List Char}
    (sign_cases : sign = '+' ∨ sign = '-' ∨ sign = '−') (hour : Numeral [a, b] hours)
    (gap : ∀ c ∈ between, c = ':' ∨ isBlank c = true)
    (minute : Numeral [x, y] minutes) (least : x ≤ '5') :
    scanOffset (sign :: a :: b :: (between ++ [x, y]) ++ rest) =
      .ok (if sign = '+' then (hours * 60 + minutes : Int) else -(hours * 60 + minutes), rest) := by
  have hour' := scanTwoDigits_of_numeral hour (le_nine_of_isDigit (hour.digits a (by simp)))
    (between ++ [x, y] ++ rest)
  have minute' := scanTwoDigits_of_numeral minute least rest
  have passed := dropWhile_between gap (minute.digits x (by simp)) y rest
  have unnamed : startsUniversal (sign :: a :: b :: (between ++ [x, y]) ++ rest) = false := by
    apply startsUniversal_cons
    rcases sign_cases with rfl | rfl | rfl <;> decide
  have letter : ¬(sign = 'Z' ∨ sign = 'z') := by
    rcases sign_cases with rfl | rfl | rfl <;> decide
  simp only [List.cons_append] at unnamed ⊢
  simp only [scanOffset, unnamed, letter, sign_cases, if_true, if_false, hour', bind, Except.bind,
    passed, minute', Bool.false_eq_true, pure, Except.pure]

/-- An offset is taken as it is spelled. -/
theorem scanOffset_of_offsetText {offset : Int} (h : OffsetText text offset) :
    scanOffset (text ++ rest) = .ok (offset, rest) := by
  cases h with
  | @named a b c name =>
    have universal : startsUniversal ([a, b, c] ++ rest) = true := by
      simpa [startsUniversal] using name
    unfold scanOffset
    rw [if_pos universal]
    rfl
  | @zero c letter =>
    have unnamed : startsUniversal (c :: rest) = false :=
      startsUniversal_cons (by rcases letter with rfl | rfl <;> decide)
    simp [scanOffset, unnamed, letter]
  | east hour gap minute least => exact scanOffset_moved (.inl rfl) hour gap minute least
  | @west sign a b x y hours minutes between minus hour gap minute least =>
    have other : sign ≠ '+' := by rcases minus with rfl | rfl <;> decide
    rw [scanOffset_moved (.inr minus) hour gap minute least, if_neg other]

/-- Whatever is taken as an offset spells it. -/
theorem offsetText_of_scanOffset {offset : Int} (h : scanOffset cs = .ok (offset, rest)) :
    ∃ text, cs = text ++ rest ∧ OffsetText text offset := by
  unfold scanOffset at h
  by_cases universal : startsUniversal cs = true
  · rw [if_pos universal] at h
    simp only [startsUniversal, decide_eq_true_eq] at universal
    match cs with
    | [] | [_] | [_, _] => simp at universal
    | a :: b :: c :: left =>
      cases h
      exact ⟨[a, b, c], rfl, .named (by simpa using universal)⟩
  rw [if_neg universal] at h
  split at h
  · cases h
  · next c left =>
    by_cases letter : c = 'Z' ∨ c = 'z'
    · rw [if_pos letter] at h
      cases h
      exact ⟨[c], rfl, .zero letter⟩
    rw [if_neg letter] at h
    by_cases sign : c = '+' ∨ c = '-' ∨ c = '−'
    · rw [if_pos sign] at h
      obtain ⟨⟨hours, after⟩, hour, moved⟩ := exists_of_bind h
      obtain ⟨a, b, rfl, hour, -⟩ := numeral_of_scanTwoDigits hour
      obtain ⟨⟨minutes, last⟩, minute, result⟩ := exists_of_bind moved
      obtain ⟨x, y, passed, minute, least⟩ := numeral_of_scanTwoDigits minute
      simp only [pure, Except.pure, Except.ok.injEq, Prod.mk.injEq] at result
      obtain ⟨rfl, rfl⟩ := result
      -- What is passed over between hours and minutes.
      let between := after.takeWhile fun c => c = ':' || isBlank c
      have run : after = between ++ x :: y :: last := by
        rw [← passed]
        exact List.takeWhile_append_dropWhile.symm
      have gap : ∀ c ∈ between, c = ':' ∨ isBlank c = true := by
        intro c there
        simpa using List.mem_takeWhile_imp there
      refine ⟨c :: a :: b :: (between ++ [x, y]), by simp [run], ?_⟩
      rcases sign with rfl | minus
      · exact .east hour gap minute least
      · have other : c ≠ '+' := by rcases minus with rfl | rfl <;> decide
        rw [if_neg other]
        exact .west minus hour gap minute least
    · rw [if_neg sign] at h
      cases h

/-! ### What follows a part -/

/-- What is a capital letter in upper case is a letter. -/
theorem isLetter_of_toUpper {c : Char} (upper : c.toUpper = 'U') :
    isBlank c = false ∧ c.isDigit = false ∧ c ≠ '.' := by
  unfold Char.toUpper at upper
  split at upper
  · next lower =>
    have letter : 97 ≤ c.toNat ∧ c.toNat ≤ 122 := lower
    refine ⟨?_, ?_, ?_⟩
    · cases blank : isBlank c with
      | false => rfl
      | true =>
        have := toNat_of_isBlank blank
        omega
    · simp only [Char.isDigit, Bool.and_eq_false_iff, decide_eq_false_iff_not, ge_iff_le,
        UInt32.le_iff_toNat_le]
      change ¬48 ≤ c.toNat ∨ ¬c.toNat ≤ 57
      omega
    · rintro rfl
      exact absurd letter (by decide)
  · subst upper
    decide

/-- An offset begins with a letter or a sign. -/
theorem OffsetText.exists_cons {text : List Char} {offset : Int} (h : OffsetText text offset) :
    ∃ c tail, text = c :: tail ∧ isBlank c = false ∧ c.isDigit = false ∧ c ≠ '.' := by
  cases h with
  | @named a b c name =>
    have upper : a.toUpper = 'U' := by
      rw [List.map_cons] at name
      exact (List.cons.inj name).1
    exact ⟨a, [b, c], rfl, isLetter_of_toUpper upper⟩
  | @zero c letter =>
    refine ⟨c, [], rfl, ?_⟩
    rcases letter with rfl | rfl <;> decide
  | east => exact ⟨'+', _, rfl, by decide⟩
  | @west sign a b x y hours minutes between minus =>
    refine ⟨sign, _, rfl, ?_⟩
    rcases minus with rfl | rfl <;> decide

/-- After the seconds comes a fraction, or white space and an offset. -/
theorem stops_fraction {blanks text : List Char} {offset : Int} (gap : Blanks blanks)
    (h : OffsetText text offset) (rest : List Char) :
    ∀ c ∈ (blanks ++ (text ++ rest)).head?, c.isDigit = false ∧ c ≠ '.' := by
  cases blanks with
  | nil =>
    obtain ⟨c, tail, rfl, -, other⟩ := h.exists_cons
    simpa using other
  | cons d blanks =>
    intro c first
    obtain rfl : d = c := by simpa using first
    have blank : isBlank d = true := gap d List.mem_cons_self
    refine ⟨not_isDigit_of_isBlank blank, ?_⟩
    rintro rfl
    exact absurd blank (by decide)

theorem FractionText.digits {text ds : List Char} (h : FractionText text ds) :
    ∀ c ∈ ds, c.isDigit = true := by
  cases h with
  | none => simp
  | some ne_nil digits => exact digits

theorem FractionText.stops {text rest ds : List Char} (h : FractionText text ds)
    (stop : Stops rest) : Stops (text ++ rest) := by
  cases h with
  | none => exact stop
  | some => simp [Stops]

theorem IsTimeMark.stops {c : Char} {rest : List Char} (mark : IsTimeMark c) :
    Stops (c :: rest) := by
  intro d first
  obtain rfl : c = d := by simpa using first
  rcases mark with rfl | rfl | rfl <;> decide

/-- An offset does not begin with white space. -/
theorem trimStart_of_offsetText {blanks text rest : List Char} {offset : Int} (gap : Blanks blanks)
    (h : OffsetText text offset) : trimStart (blanks ++ (text ++ rest)) = text ++ rest := by
  obtain ⟨c, tail, rfl, plain, -⟩ := h.exists_cons
  exact trimStart_append gap (by simp [plain])

theorem trimStart_blanks {blanks : List Char} (gap : Blanks blanks) : trimStart blanks = [] := by
  have all : trimStart (blanks ++ []) = [] := trimStart_append gap (by simp)
  rwa [List.append_nil] at all

theorem blanks_of_trimStart (h : (trimStart cs).isEmpty = true) : Blanks cs := by
  obtain ⟨blanks, gap, split⟩ := exists_blanks cs
  rw [List.isEmpty_iff.1 h, List.append_nil] at split
  rw [split]
  exact gap

end Instant

end SchedulerHost.Time
