import SchedulerHost.Numeric.Binary64

/-!
# Shortest decimal texts

The decimal that stands for a binary value: of the decimals that round to it one with the fewest
digits, and of those the nearest. It is found by trying 1, 2, … 17 digits: on each decimal grid
only the two neighbours of the value can round to it, if any point of the grid does.
-/

namespace SchedulerHost.Numeric

/-- The decimal `digits * 10 ^ exponent`. -/
structure Decimal where
  digits : Nat
  exponent : Int
deriving DecidableEq

namespace Shortest

def powerOfTen (e : Int) : Nat × Nat :=
  if 0 ≤ e then (Nat.pow 10 e.toNat, 1) else (1, Nat.pow 10 (-e).toNat)

def compareRatio (a b c d : Nat) : Ordering := compare (a * d) (c * b)

/-- The middles between a value and its two neighbours, each as a fraction. Below a power of two
the values lie twice as close. -/
def middles (x : Binary64) : (Nat × Nat) × (Nat × Nat) :=
  let (num, den) := Binary64.powerOfTwo x.exponent
  let m := x.significand
  let below :=
    if m = Nat.pow 2 52 ∧ Binary64.minExponent < x.exponent then ((4 * m - 1) * num, 4 * den)
    else ((2 * m - 1) * num, 2 * den)
  (below, ((2 * m + 1) * num, 2 * den))

/-- Does the decimal round to the value? Both middles do iff its significand is even. -/
def roundsTo (x : Binary64) (d : Decimal) : Bool :=
  let (num, den) := powerOfTen d.exponent
  let (below, above) := middles x
  let low := compareRatio below.1 below.2 (d.digits * num) den
  let high := compareRatio (d.digits * num) den above.1 above.2
  if x.significand % 2 = 0 then low.isLE && high.isLE else low.isLT && high.isLT

/-- Raises an exponent `k` with `10 ^ k ≤ num / den` by one if the next has this too. -/
def raiseExponent (num den : Nat) (guess : Int) : Int :=
  let (a, b) := powerOfTen (guess + 1)
  if (compareRatio a b num den).isLE then guess + 1 else guess

/-- The decimal of the given grid that stands for the value, if one of the grid rounds to it. -/
def onGrid? (x : Binary64) (e : Int) : Option Decimal :=
  let (num, den) := x.toRatio
  let (a, b) := powerOfTen (-e)
  let scaled := num * a
  let unit := den * b
  let lower : Decimal := ⟨scaled / unit, e⟩
  let upper : Decimal := ⟨scaled / unit + 1, e⟩
  match roundsTo x lower, roundsTo x upper with
  | true, true =>
    -- The nearer of the two, at a tie the one with an even last digit.
    let rest := scaled % unit
    if 2 * rest < unit ∨ (2 * rest = unit ∧ lower.digits % 2 = 0) then some lower else some upper
  | true, false => some lower
  | false, true => some upper
  | false, false => none

/-- The first decimal found on the grids from `e` downwards. -/
def search (x : Binary64) : Nat → Int → Decimal
  | 0, e => ⟨0, e⟩
  | grids + 1, e => (onGrid? x e).getD (search x grids (e - 1))

/-- Takes zeros off the end of the digits. -/
def stripZeros : Nat → Decimal → Decimal
  | 0, d => d
  | n + 1, d =>
    if d.digits ≠ 0 ∧ d.digits % 10 = 0 then stripZeros n ⟨d.digits / 10, d.exponent + 1⟩ else d

/-- The greatest `k` with `10 ^ k ≤ num / den`: the estimate from the number of bits is at most
two too small. -/
def decimalExponent (num den : Nat) : Int :=
  let bits : Int := (num.log2 : Int) - (den.log2 : Int) - 1
  raiseExponent num den (raiseExponent num den (bits * 30103 / 100000 - 1))

/-- The shortest decimal of a value that is not zero. Seventeen digits are enough for all. -/
def ofBinary (x : Binary64) : Decimal :=
  let (num, den) := x.toRatio
  stripZeros 17 (search x 17 (decimalExponent num den))

end Shortest

/-- How shortest decimals are written: positionally for exponents in a range, otherwise with an
exponent mark and a sign. -/
structure DecimalFormat where
  leastPositional : Int
  greatestPositional : Int

namespace DecimalFormat

/-- The digits with a point after the first `count` of them, zeros where digits lack. -/
def withPoint (digits : List Char) (count : Int) : List Char :=
  if count ≤ 0 then '0' :: '.' :: List.replicate (-count).toNat '0' ++ digits
  else
    let whole := digits.take count.toNat
    let fraction := digits.drop count.toNat
    whole ++ List.replicate (count.toNat - whole.length) '0' ++ '.' ::
      (if fraction.isEmpty then ['0'] else fraction)

def write (format : DecimalFormat) (d : Decimal) : List Char :=
  let digits := Nat.toDigits 10 d.digits
  let e : Int := d.exponent + digits.length - 1
  if format.leastPositional ≤ e ∧ e ≤ format.greatestPositional then withPoint digits (e + 1)
  else
    let fraction := digits.drop 1
    digits.take 1 ++ (if fraction.isEmpty then [] else '.' :: fraction) ++
      ['e', if 0 ≤ e then '+' else '-'] ++ Nat.toDigits 10 e.natAbs

end DecimalFormat

end SchedulerHost.Numeric
