import SchedulerHost.Numeric.Numeral

/-!
# Numerals of a range

Which texts are numerals of an integer of a range, and what is wrong with the others, told by the
number that the digits stand for and not by how it is accumulated.

* `IntRange.Spells`: a text is a numeral of an integer. `IntRange.FirstFault`: what is wrong with a
  text that is none, at the first place from the left.
* `accumulate_of_le`, `exists_stop`: digits are taken up as long as their number is within a limit.
* **Reading** (`IntRange.parse_eq_ok_iff`, `IntRange.parse_eq_error_iff`): a text is read as an
  integer exactly when it is a numeral of it, and is refused exactly for its first fault.
* `IntRange.spells_padded`: the decimal text of an integer is a numeral of it, with any number of
  zeros before the digits.
-/

namespace SchedulerHost.Numeric

/-! ### Digits -/

def magnitude (ds : List Char) : Nat := Nat.ofDigitChars 10 ds 0

theorem le_ofDigitChars (ds : List Char) (n : Nat) : n ≤ Nat.ofDigitChars 10 ds n := by
  rw [Nat.ofDigitChars_eq_ofDigitChars_zero]
  have := Nat.le_mul_of_pos_left n (Nat.pow_pos (by decide : 0 < 10) : 0 < 10 ^ ds.length)
  omega

theorem isDigit_of_mem_digits {n : Nat} {c : Char} (h : c ∈ digits n) : c.isDigit = true :=
  Nat.isDigit_of_mem_toDigits (by decide) (by decide) h

/-- The digits of a number begin with a digit. -/
theorem exists_digits (n : Nat) : ∃ c cs, digits n = c :: cs ∧ c.isDigit = true := by
  cases written : digits n with
  | nil => exact absurd written Nat.toDigits_ne_nil
  | cons c cs => exact ⟨c, cs, rfl, isDigit_of_mem_digits (written ▸ List.mem_cons_self)⟩

section Accumulation

variable {limit n : Nat} {beyond : NumeralFault} {ds before rest : List Char} {c : Char}

/-- Digits whose number is within the limit are all taken up. -/
theorem accumulate_of_le (all : ∀ c ∈ ds, c.isDigit = true)
    (within : Nat.ofDigitChars 10 ds n ≤ limit) :
    accumulate limit beyond n ds = .ok (Nat.ofDigitChars 10 ds n) := by
  induction ds generalizing n with
  | nil => rfl
  | cons c ds ih =>
    have digit := all c List.mem_cons_self
    rw [Nat.ofDigitChars_cons, Nat.mul_comm 10 n] at within ⊢
    have step : n * 10 + (c.toNat - '0'.toNat) ≤ limit :=
      Nat.le_trans (le_ofDigitChars ds _) within
    simp only [accumulate, digitValue?, digit, if_true, step]
    exact ih (fun d there => all d (List.mem_cons_of_mem c there)) within

/-- The next character decides when the digits before it are within the limit. -/
theorem accumulate_stop (all : ∀ c ∈ before, c.isDigit = true)
    (within : Nat.ofDigitChars 10 before n ≤ limit) :
    accumulate limit beyond n (before ++ c :: rest) =
      if c.isDigit = false then .error .invalidDigit
      else if Nat.ofDigitChars 10 (before ++ [c]) n ≤ limit then
        accumulate limit beyond (Nat.ofDigitChars 10 (before ++ [c]) n) rest
      else .error beyond := by
  rw [accumulate_append, accumulate_of_le all within, Nat.ofDigitChars_append,
    Nat.ofDigitChars_cons, Nat.ofDigitChars_nil, Nat.mul_comm 10]
  cases digit : c.isDigit with
  | false => simp [Except.bind, accumulate, digitValue?, digit]
  | true => simp [Except.bind, accumulate, digitValue?, digit]

/-- Either the digits go through to the end within the limit, or there is a first place at which
they do not. -/
theorem exists_stop (ds : List Char) (start : n ≤ limit) :
    ((∀ c ∈ ds, c.isDigit = true) ∧ Nat.ofDigitChars 10 ds n ≤ limit) ∨
      ∃ before c rest, ds = before ++ c :: rest ∧ (∀ d ∈ before, d.isDigit = true) ∧
        Nat.ofDigitChars 10 before n ≤ limit ∧
        (c.isDigit = false ∨
          c.isDigit = true ∧ limit < Nat.ofDigitChars 10 (before ++ [c]) n) := by
  induction ds generalizing n with
  | nil => exact .inl ⟨nofun, start⟩
  | cons c ds ih =>
    cases digit : c.isDigit with
    | false => exact .inr ⟨[], c, ds, rfl, nofun, start, .inl digit⟩
    | true =>
      by_cases step : Nat.ofDigitChars 10 [c] n ≤ limit
      · rcases ih step with ⟨all, within⟩ | ⟨before, d, rest, rfl, all, within, stop⟩
        · exact .inl ⟨List.forall_mem_cons.2 ⟨digit, all⟩, within⟩
        · exact .inr ⟨c :: before, d, rest, rfl, List.forall_mem_cons.2 ⟨digit, all⟩, within, stop⟩
      · exact .inr ⟨[], c, ds, rfl, nofun, start, .inr ⟨digit, Nat.lt_of_not_le step⟩⟩

end Accumulation

/-! ### Signs -/

/-- What may come before the digits of a numeral. -/
inductive Sign where
  | none
  | plus
  | minus

namespace Sign

def chars : Sign → List Char
  | none => []
  | plus => ['+']
  | minus => ['-']

def apply : Sign → Nat → Int
  | none, n => n
  | plus, n => n
  | minus, n => -n

/-- What is wrong with a numeral that goes beyond the range. -/
def beyond : Sign → NumeralFault
  | none => .tooLarge
  | plus => .tooLarge
  | minus => .tooSmall

end Sign

namespace IntRange

variable {range : IntRange} {sign : Sign} {text ds rest : List Char} {c : Char}
  {fault : NumeralFault}

theorem holds_iff {n : Int} : range.holds n = true ↔ range.low ≤ n ∧ n ≤ range.high := by
  simp [holds]

/-- A minus is allowed where there are negative integers. -/
def Allows (range : IntRange) (sign : Sign) : Prop := sign = .minus → range.low < 0

/-- A character is a sign that is allowed. -/
def IsSign (range : IntRange) (c : Char) : Prop := c = '+' ∨ c = '-' ∧ range.low < 0

theorem IsSign.exists_sign (h : range.IsSign c) :
    ∃ sign, range.Allows sign ∧ sign.chars = [c] ∧ sign ≠ .none := by
  rcases h with rfl | ⟨rfl, negative⟩
  · exact ⟨.plus, nofun, rfl, nofun⟩
  · exact ⟨.minus, fun _ => negative, rfl, nofun⟩

theorem not_isSign_of_isDigit (digit : c.isDigit = true) : ¬range.IsSign c := by
  rintro (rfl | ⟨rfl, -⟩) <;> simp at digit

/-- The greatest magnitude with a sign. -/
def limit (range : IntRange) : Sign → Nat
  | .none | .plus => range.high.toNat
  | .minus => (-range.low).toNat

/-- Where zero is in the range, a sign bounds the magnitude and nothing else does. -/
theorem holds_apply_iff (zero : range.holds 0 = true) {n : Nat} :
    range.holds (sign.apply n) = true ↔ n ≤ range.limit sign := by
  rw [holds_iff] at zero ⊢
  cases sign <;> simp only [Sign.apply, limit] <;> omega

/-! ### What is in a text -/

/-- Digits may follow a sign without a fault. -/
structure Fits (range : IntRange) (sign : Sign) (ds : List Char) : Prop where
  allowed : range.Allows sign
  all : ∀ c ∈ ds, c.isDigit = true
  within : range.holds (sign.apply (magnitude ds)) = true

/-- A text is a numeral of an integer of the range: perhaps a sign, and one or more digits. -/
inductive Spells (range : IntRange) : List Char → Int → Prop
  | intro {sign : Sign} {ds : List Char} (fits : range.Fits sign ds) (some : ds ≠ []) :
    Spells range (sign.chars ++ ds) (sign.apply (magnitude ds))

/-- The first fault in a text, from left to right. -/
inductive FirstFault (range : IntRange) : List Char → NumeralFault → Prop
  /-- There is nothing. -/
  | empty : FirstFault range [] .empty
  /-- There is a sign, and nothing else. -/
  | lone {c : Char} (isSign : range.IsSign c) : FirstFault range [c] .invalidDigit
  /-- After what is without a fault comes a character that is no digit, nor a sign in front. -/
  | badDigit {sign : Sign} {before rest : List Char} {c : Char} (fits : range.Fits sign before)
    (bad : c.isDigit = false) (inside : sign = .none → before = [] → ¬range.IsSign c) :
    FirstFault range (sign.chars ++ (before ++ c :: rest)) .invalidDigit
  /-- After what is without a fault comes a digit with which the number leaves the range. -/
  | beyond {sign : Sign} {before rest : List Char} {c : Char} (fits : range.Fits sign before)
    (digit : c.isDigit = true)
    (exceeds : range.holds (sign.apply (magnitude (before ++ [c]))) = false) :
    FirstFault range (sign.chars ++ (before ++ c :: rest)) sign.beyond

/-! ### Reading -/

/-- Without a sign in front, all of a text is accumulated. -/
theorem parse_of_ne (plus : c ≠ '+') (minus : c ≠ '-') : range.parse (c :: rest) =
    (accumulate range.high.toNat .tooLarge 0 (c :: rest)).map Int.ofNat := by
  simp [parse, plus, minus]

/-- What follows a sign is accumulated, up to the limit that the sign sets. -/
theorem parse_sign_append (allowed : range.Allows sign) (some : ds ≠ [])
    (bare : sign = .none → ∀ c ∈ ds.head?, ¬range.IsSign c) :
    range.parse (sign.chars ++ ds) =
      (accumulate (range.limit sign) sign.beyond 0 ds).map sign.apply := by
  obtain ⟨c, rest, rfl⟩ := List.exists_cons_of_ne_nil some
  cases sign with
  | plus => rfl
  | minus =>
    have negative : range.low < 0 := allowed rfl
    simp only [Sign.chars, List.singleton_append, parse, negative, if_true]
    rfl
  | none =>
    have other : ¬range.IsSign c := bare rfl c rfl
    have plus : c ≠ '+' := fun same => other (.inl same)
    by_cases minus : c = '-'
    · -- A minus that is not allowed is no digit either.
      subst minus
      have positive : ¬range.low < 0 := fun negative => other (.inr ⟨rfl, negative⟩)
      cases rest with
      | nil => rfl
      | cons d rest =>
        simp only [Sign.chars, List.nil_append, parse, positive, if_false]
        rfl
    · exact parse_of_ne plus minus

theorem parse_of_spells (zero : range.holds 0 = true) {n : Int} (h : range.Spells text n) :
    range.parse text = .ok n := by
  obtain ⟨fits, some⟩ := h
  rw [parse_sign_append fits.allowed some, accumulate_of_le fits.all]
  · rfl
  · exact (holds_apply_iff zero).1 fits.within
  · intro _ c first
    exact not_isSign_of_isDigit (fits.all c (List.mem_of_head? first))

/-- Behind what is without a fault, the next character decides. -/
theorem Fits.parse_append (zero : range.holds 0 = true) {before : List Char}
    (fits : range.Fits sign before) (inside : sign = .none → before = [] → ¬range.IsSign c) :
    range.parse (sign.chars ++ (before ++ c :: rest)) =
      (if c.isDigit = false then .error .invalidDigit
      else if magnitude (before ++ [c]) ≤ range.limit sign then
        accumulate (range.limit sign) sign.beyond (magnitude (before ++ [c])) rest
      else .error sign.beyond : Except NumeralFault Nat).map sign.apply := by
  rw [parse_sign_append fits.allowed (by simp),
    accumulate_stop fits.all ((holds_apply_iff zero).1 fits.within)]
  · rfl
  · intro bare d first
    cases before with
    | nil =>
      obtain rfl : c = d := by simpa using first
      exact inside bare rfl
    | cons b before =>
      obtain rfl : b = d := by simpa using first
      exact not_isSign_of_isDigit (fits.all b List.mem_cons_self)

/-- A text that is no numeral is refused for its first fault. -/
theorem parse_of_firstFault (zero : range.holds 0 = true) (h : range.FirstFault text fault) :
    range.parse text = .error fault := by
  cases h with
  | empty => rfl
  | lone isSign =>
    obtain rfl | ⟨rfl, -⟩ := isSign
    · rfl
    · rfl
  | badDigit fits bad inside =>
    rw [fits.parse_append zero inside, if_pos bad]
    rfl
  | @beyond sign before rest c fits digit exceeds =>
    have inside : sign = .none → before = [] → ¬range.IsSign c :=
      fun _ _ => not_isSign_of_isDigit digit
    have past : ¬magnitude (before ++ [c]) ≤ range.limit sign := by
      rw [← holds_apply_iff zero, exceeds]
      exact Bool.false_ne_true
    rw [fits.parse_append zero inside, if_neg (by simp [digit]), if_neg past]
    rfl

/-- What follows a sign makes a numeral of it, or has a first fault. -/
theorem spells_or_firstFault_append (zero : range.holds 0 = true) (allowed : range.Allows sign)
    (some : ds ≠ []) (bare : sign = .none → ∀ c ∈ ds.head?, ¬range.IsSign c) :
    (∃ n, range.Spells (sign.chars ++ ds) n) ∨
      ∃ fault, range.FirstFault (sign.chars ++ ds) fault := by
  have start : 0 ≤ range.limit sign := Nat.zero_le _
  rcases exists_stop ds start with
    ⟨all, within⟩ | ⟨before, c, rest, rfl, all, within, bad | ⟨digit, exceeds⟩⟩
  · exact .inl ⟨_, .intro ⟨allowed, all, (holds_apply_iff zero).2 within⟩ some⟩
  · refine .inr ⟨_, .badDigit ⟨allowed, all, (holds_apply_iff zero).2 within⟩ bad ?_⟩
    rintro rfl rfl
    exact bare rfl c rfl
  · refine .inr ⟨_, .beyond ⟨allowed, all, (holds_apply_iff zero).2 within⟩ digit ?_⟩
    rw [← Bool.not_eq_true]
    intro holds
    have le := (holds_apply_iff zero).1 holds
    exact Nat.not_lt_of_le le exceeds

/-- Every text is a numeral or has a first fault. -/
theorem spells_or_firstFault (zero : range.holds 0 = true) (text : List Char) :
    (∃ n, range.Spells text n) ∨ ∃ fault, range.FirstFault text fault := by
  cases text with
  | nil => exact .inr ⟨_, .empty⟩
  | cons c rest =>
    by_cases isSign : range.IsSign c
    · cases rest with
      | nil => exact .inr ⟨_, .lone isSign⟩
      | cons d rest =>
        obtain ⟨sign, allowed, written, signed⟩ := isSign.exists_sign
        have cases := spells_or_firstFault_append zero allowed (List.cons_ne_nil d rest)
          fun bare => absurd bare signed
        rwa [written] at cases
    · have unsigned : range.Allows .none := nofun
      refine spells_or_firstFault_append zero unsigned (List.cons_ne_nil c rest) ?_
      intro _ d first
      obtain rfl : c = d := by simpa using first
      exact isSign

/-- **Reading.** A text is read as an integer exactly when it is a numeral of it. -/
theorem parse_eq_ok_iff (zero : range.holds 0 = true) {n : Int} :
    range.parse text = .ok n ↔ range.Spells text n := by
  refine ⟨fun read => ?_, parse_of_spells zero⟩
  rcases spells_or_firstFault zero text with ⟨m, spells⟩ | ⟨fault, faulty⟩
  · rw [parse_of_spells zero spells, Except.ok.injEq] at read
    exact read ▸ spells
  · rw [parse_of_firstFault zero faulty] at read
    contradiction

/-- A text is refused exactly for its first fault. -/
theorem parse_eq_error_iff (zero : range.holds 0 = true) :
    range.parse text = .error fault ↔ range.FirstFault text fault := by
  refine ⟨fun refused => ?_, parse_of_firstFault zero⟩
  rcases spells_or_firstFault zero text with ⟨n, spells⟩ | ⟨fault', faulty⟩
  · rw [parse_of_spells zero spells] at refused
    contradiction
  · rw [parse_of_firstFault zero faulty, Except.error.injEq] at refused
    exact refused ▸ faulty

end IntRange

/-! ### Writing -/

/-- The decimal text of an integer, with zeros before its digits. -/
def padded (zeros : Nat) : Int → List Char
  | .ofNat n => List.replicate zeros '0' ++ digits n
  | .negSucc n => '-' :: (List.replicate zeros '0' ++ digits (n + 1))

theorem isDigit_of_mem_replicate_append {zeros n : Nat} {c : Char}
    (h : c ∈ List.replicate zeros '0' ++ digits n) : c.isDigit = true := by
  rcases List.mem_append.1 h with zero | digit
  · rw [List.eq_of_mem_replicate zero]
    rfl
  · exact isDigit_of_mem_digits digit

theorem eq_or_isDigit_of_mem_padded {zeros : Nat} {n : Int} {c : Char} (h : c ∈ padded zeros n) :
    c = '-' ∨ c.isDigit = true := by
  cases n with
  | ofNat m => exact .inr (isDigit_of_mem_replicate_append h)
  | negSucc m => exact (List.mem_cons.1 h).imp_right isDigit_of_mem_replicate_append

/-- Zeros before the digits of a number change nothing. -/
theorem magnitude_replicate_append (zeros n : Nat) :
    magnitude (List.replicate zeros '0' ++ digits n) = n := by
  rw [magnitude, Nat.ofDigitChars_append, Nat.ofDigitChars_replicate_zero, Nat.mul_zero]
  exact Nat.ofDigitChars_ten_toDigits

/-- The decimal text of an integer of the range is a numeral of it, whatever the number of zeros
before the digits. -/
theorem IntRange.spells_padded {range : IntRange} {n : Int} (holds : range.holds n = true)
    (zeros : Nat) : range.Spells (padded zeros n) n := by
  have some (m : Nat) : List.replicate zeros '0' ++ digits m ≠ [] := by
    simp [digits, Nat.toDigits_ne_nil]
  have spells (sign : Sign) (allowed : range.Allows sign) (m : Nat)
      (within : range.holds (sign.apply m) = true) :
      range.Spells (sign.chars ++ (List.replicate zeros '0' ++ digits m)) (sign.apply m) := by
    have fits : range.Fits sign (List.replicate zeros '0' ++ digits m) :=
      ⟨allowed, fun _ => isDigit_of_mem_replicate_append, by rwa [magnitude_replicate_append]⟩
    have numeral := Spells.intro fits (some m)
    rwa [magnitude_replicate_append] at numeral
  cases n with
  | ofNat m => exact spells .none nofun m holds
  | negSucc m =>
    refine spells .minus (fun _ => ?_) (m + 1) holds
    have low := (holds_iff.1 holds).1
    omega

end SchedulerHost.Numeric
