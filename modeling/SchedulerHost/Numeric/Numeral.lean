/-!
# Integer numerals

Reading an integer of a bounded type from its decimal text: an optional `+` (or `-`, where the
type has negative values) and one or more ASCII digits. The digits are taken from left to right,
and the first problem met is the one reported.

Main statement: `accumulate_append`, which reads a run of digits in two parts.
-/

namespace SchedulerHost.Numeric

/-- The integers of a type: those from `low` to `high`. -/
structure IntRange where
  low : Int
  high : Int

namespace IntRange

def unsigned (bits : Nat) : IntRange := ⟨0, Nat.pow 2 bits - 1⟩

def signed (bits : Nat) : IntRange := ⟨-Nat.pow 2 (bits - 1), Nat.pow 2 (bits - 1) - 1⟩

def holds (range : IntRange) (n : Int) : Bool := range.low ≤ n && n ≤ range.high

end IntRange

/-- Why a text is not the numeral of an integer of some type. -/
inductive NumeralFault where
  | empty
  | invalidDigit
  | tooLarge
  | tooSmall
deriving DecidableEq

def NumeralFault.message : NumeralFault → String
  | .empty => "cannot parse integer from empty string"
  | .invalidDigit => "invalid digit found in string"
  | .tooLarge => "number too large to fit in target type"
  | .tooSmall => "number too small to fit in target type"

def digitValue? (c : Char) : Option Nat :=
  if c.isDigit then some (c.toNat - '0'.toNat) else none

/-- Appends digits to the magnitude read so far, which may not pass `limit`. -/
def accumulate (limit : Nat) (beyond : NumeralFault) : Nat → List Char → Except NumeralFault Nat
  | magnitude, [] => .ok magnitude
  | magnitude, c :: rest =>
    match digitValue? c with
    | none => .error .invalidDigit
    | some digit =>
      if magnitude * 10 + digit ≤ limit then
        accumulate limit beyond (magnitude * 10 + digit) rest
      else .error beyond

/-- Reads an integer of the range from the whole of a text. -/
def IntRange.parse (range : IntRange) : List Char → Except NumeralFault Int
  | [] => .error .empty
  | ['+'] | ['-'] => .error .invalidDigit
  | '+' :: digits => (accumulate range.high.toNat .tooLarge 0 digits).map Int.ofNat
  | '-' :: digits =>
    if range.low < 0 then
      (accumulate (-range.low).toNat .tooSmall 0 digits).map fun n => -Int.ofNat n
    else .error .invalidDigit
  | digits => (accumulate range.high.toNat .tooLarge 0 digits).map Int.ofNat

/-- The decimal digits of a natural number, the first not zero unless it is alone. -/
def digits (n : Nat) : List Char := Nat.toDigits 10 n

def decimal : Int → List Char
  | .ofNat n => digits n
  | .negSucc n => '-' :: digits (n + 1)

example : (IntRange.unsigned 8).parse "255".toList = .ok 255 := by rfl
example : (IntRange.unsigned 8).parse "256x".toList = .error .tooLarge := by rfl
example : (IntRange.unsigned 8).parse "25x6".toList = .error .invalidDigit := by rfl
example : (IntRange.unsigned 8).parse "-1".toList = .error .invalidDigit := by rfl
example : (IntRange.signed 8).parse "-128".toList = .ok (-128) := by rfl
example : (IntRange.signed 8).parse "-129".toList = .error .tooSmall := by rfl
example : (IntRange.signed 8).parse "+".toList = .error .invalidDigit := by rfl
example : decimal (-120) = "-120".toList := by decide

/-- A run of digits may be read in two parts. -/
theorem accumulate_append (limit : Nat) (beyond : NumeralFault) (magnitude : Nat)
    (first rest : List Char) :
    accumulate limit beyond magnitude (first ++ rest) =
      (accumulate limit beyond magnitude first).bind (accumulate limit beyond · rest) := by
  induction first generalizing magnitude with
  | nil => rfl
  | cons c tail ih =>
    simp only [List.cons_append, accumulate]
    split
    · rfl
    · split
      · exact ih _
      · rfl

end SchedulerHost.Numeric
