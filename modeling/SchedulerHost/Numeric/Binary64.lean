/-!
# Binary floating point of 64 bits

The finite values of the format without their sign, as exact integers: a significand below
`2 ^ 53` times a power of two. Products and quotients are rounded once, to the nearest value and
to the even significand at a tie.

Main statement: `Binary64.ofRatio?` is the only place where something is rounded.
-/

namespace SchedulerHost.Numeric

/-- The magnitude `significand * 2 ^ exponent`. -/
structure Binary64 where
  significand : Nat
  exponent : Int
deriving DecidableEq

namespace Binary64

/-- The exponent of the least positive value, and of all values below the normal ones. -/
def minExponent : Int := -1074

/-- The exponent of the greatest value. -/
def maxExponent : Int := 971

def zero : Binary64 := ⟨0, minExponent⟩

/-- A power of two as a fraction, numerator first. -/
def powerOfTwo (e : Int) : Nat × Nat :=
  if 0 ≤ e then (Nat.pow 2 e.toNat, 1) else (1, Nat.pow 2 (-e).toNat)

/-- The value as a fraction, numerator first. -/
def toRatio (x : Binary64) : Nat × Nat :=
  let (num, den) := powerOfTwo x.exponent
  (x.significand * num, den)

/-- The integer nearest to `num / den`, the even one at a tie. -/
def roundDiv (num den : Nat) : Nat :=
  let q := num / den
  let r := num % den
  if 2 * r < den then q
  else if 2 * r > den then q + 1
  else if q % 2 = 0 then q else q + 1

/-- The exponent with which `num / den` has a significand of 53 bits, or the least exponent. -/
def exponentOf (num den : Nat) : Int :=
  -- The number of bits of the quotient is known up to one.
  let low : Int := (num.log2 : Int) - (den.log2 : Int) - 53
  let (up, down) := powerOfTwo (-low)
  let e := if Nat.pow 2 53 ≤ num * up / (den * down) then low + 1 else low
  max e minExponent

/-- The value nearest to `num / den`; `none` beyond the greatest. -/
def ofRatio? (num den : Nat) : Option Binary64 :=
  if num = 0 then some zero
  else
    let e := exponentOf num den
    let (up, down) := powerOfTwo (-e)
    let m := roundDiv (num * up) (den * down)
    -- Rounding up may carry into a further bit.
    let x : Binary64 := if m = Nat.pow 2 53 then ⟨Nat.pow 2 52, e + 1⟩ else ⟨m, e⟩
    if maxExponent < x.exponent then none else some x

def ofNat? (n : Nat) : Option Binary64 := ofRatio? n 1

def mul? (x y : Binary64) : Option Binary64 :=
  let (a, b) := x.toRatio
  let (c, d) := y.toRatio
  ofRatio? (a * c) (b * d)

/-- The rounded quotient by a value that is not zero. -/
def div? (x y : Binary64) : Option Binary64 :=
  let (a, b) := x.toRatio
  let (c, d) := y.toRatio
  ofRatio? (a * d) (b * c)

example : ofNat? 1 = some ⟨Nat.pow 2 52, -52⟩ := by decide
example : ofNat? (Nat.pow 2 53 + 1) = some ⟨Nat.pow 2 52, 1⟩ := by decide
example : ofRatio? 1 (Nat.pow 2 1075) = some zero := by decide +kernel
example : ofRatio? 3 (Nat.pow 2 1075) = some ⟨2, -1074⟩ := by decide +kernel
example : ofNat? (Nat.pow 2 1024) = none := by decide +kernel

end Binary64
end SchedulerHost.Numeric
