import SchedulerHost.Json.Reader

/-!
# Numbers

Reading a number. An integer that fits 64 bits is exact. All else is a floating point value: its
digits are taken up into a significand of 64 bits, those that do not fit only count as places, and
the significand is scaled once by a power of ten that is itself rounded. So the value is near the
written number, but not always the nearest.
-/

namespace SchedulerHost.Json

open Numeric (Binary64)

inductive Number where
  | integer (n : Int)
  | fraction (negative : Bool) (magnitude : Binary64)
deriving DecidableEq

def maxSignificand : Nat := Nat.pow 2 64 - 1

/-- The greatest exponent that is counted. -/
def maxExponent : Nat := Nat.pow 2 31 - 1

def digitValue (c : Char) : Nat := c.toNat - '0'.toNat

/-- Appends digits to a significand as long as it fits, and tells how many were appended. -/
def absorb : Nat → List Char → Nat × Nat
  | significand, [] => (significand, 0)
  | significand, c :: rest =>
    if significand * 10 + digitValue c ≤ maxSignificand then
      let (result, count) := absorb (significand * 10 + digitValue c) rest
      (result, count + 1)
    else (significand, 0)

/-! ### Scaling -/

/-- The power of ten with an exponent up to 308, rounded. -/
def powerOfTen (e : Nat) : Binary64 := (Binary64.ofNat? (Nat.pow 10 e)).getD Binary64.zero

/-- The value scaled by a power of ten. Exponents below the table are met in steps of 308;
`none` is beyond the greatest value. -/
def scale : Nat → Binary64 → Int → Option Binary64
  | 0, x, _ => some x
  | steps + 1, x, e =>
    if 0 ≤ e then
      if e ≤ 308 then x.mul? (powerOfTen e.toNat) else if x.significand = 0 then some x else none
    else if -308 ≤ e then x.div? (powerOfTen (-e).toNat)
    else if x.significand = 0 then some x
    else
      match x.div? (powerOfTen 308) with
      | none => none
      | some smaller => scale steps smaller (e + 308)

/-- The floating point value `significand * 10 ^ e`. -/
def scaled (negative : Bool) (significand : Nat) (e : Int) (rest : List Char) :
    Except Fault (Number × List Char) :=
  match (Binary64.ofNat? significand).bind (scale (e.natAbs / 308 + 1) · e) with
  | some x => .ok (.fraction negative x, rest)
  | none => .error (faultBefore .numberOutOfRange rest)

/-! ### Parts of a number -/

/-- The value of a run of exponent digits; if it grows too large, what follows the digit at which
it did. -/
def exponentDigits : Nat → List Char → Except (List Char) (Nat × List Char)
  | e, [] => .ok (e, [])
  | e, c :: rest =>
    if c.isDigit then
      if e * 10 + digitValue c ≤ maxExponent then exponentDigits (e * 10 + digitValue c) rest
      else .error rest
    else .ok (e, c :: rest)

/-- The sign of an exponent, positive if there is none. -/
def exponentSign : List Char → Bool × List Char
  | '+' :: rest => (true, rest)
  | '-' :: rest => (false, rest)
  | cs => (true, cs)

def exponentPart (negative : Bool) (significand : Nat) (places : Int) (cs : List Char) :
    Except Fault (Number × List Char) :=
  let (positive, cs) := exponentSign cs
  match cs with
  | [] => .error (faultBefore .endInValue [])
  | c :: rest =>
    if c.isDigit then
      match exponentDigits (digitValue c) rest with
      | .ok (e, rest) =>
        scaled negative significand (if positive then places + e else places - e) rest
      | .error rest =>
        -- The exponent cannot be counted: the value is beyond all others, or zero.
        if significand ≠ 0 ∧ positive then .error (faultBefore .numberOutOfRange rest)
        else .ok (.fraction negative Binary64.zero, rest.dropWhile Char.isDigit)
    else .error (faultAfterByte .invalidNumber (c :: rest))

/-- Reads on after the digits: an exponent or nothing. -/
def afterDigits (negative : Bool) (significand : Nat) (places : Int) :
    List Char → Except Fault (Number × List Char)
  | 'e' :: rest | 'E' :: rest => exponentPart negative significand places rest
  | cs => scaled negative significand places cs

def fractionPart (negative : Bool) (significand : Nat) (places : Int) (cs : List Char) :
    Except Fault (Number × List Char) :=
  match cs.takeWhile Char.isDigit with
  | [] =>
    match cs with
    | [] => .error (faultBefore .endInValue [])
    | cs => .error (faultAfterByte .invalidNumber cs)
  | fraction =>
    -- Digits that are not absorbed are too small to count.
    let (significand, count) := absorb significand fraction
    afterDigits negative significand (places - count) (cs.dropWhile Char.isDigit)

/-- The integer of a significand that has no fraction and no exponent. Minus zero and what lies
below the signed integers of 64 bits are floating point values. -/
def wholeNumber (negative : Bool) (significand : Nat) (rest : List Char) :
    Except Fault (Number × List Char) :=
  if negative then
    if 0 < significand ∧ significand ≤ Nat.pow 2 63 then .ok (.integer (-(significand : Int)), rest)
    else scaled true significand 0 rest
  else .ok (.integer significand, rest)

def afterInteger (negative : Bool) (significand : Nat) (places : Nat) :
    List Char → Except Fault (Number × List Char)
  | '.' :: rest => fractionPart negative significand places rest
  | 'e' :: rest | 'E' :: rest => exponentPart negative significand places rest
  | cs =>
    if places = 0 then wholeNumber negative significand cs
    else scaled negative significand places cs

def unsignedNumber (negative : Bool) : List Char → Except Fault (Number × List Char)
  | [] => .error (faultBefore .endInValue [])
  | c :: rest =>
    if c = '0' then
      match rest with
      | d :: _ =>
        if d.isDigit then .error (faultAfterByte .invalidNumber rest)
        else afterInteger negative 0 0 rest
      | [] => afterInteger negative 0 0 []
    else if c.isDigit then
      let digits := (c :: rest).takeWhile Char.isDigit
      let (significand, count) := absorb 0 digits
      afterInteger negative significand (digits.length - count) ((c :: rest).dropWhile Char.isDigit)
    else .error (faultAfterByte .invalidNumber (c :: rest))

def startsNumber (c : Char) : Bool := c = '-' || c.isDigit

def number : Reader Number
  | '-' :: rest => unsignedNumber true rest
  | cs => unsignedNumber false cs

/-! ### Numbers passed over -/

def skipExponent (cs : List Char) : Except Fault (List Char) :=
  match (exponentSign cs).2 with
  | [] => .error (faultBefore .invalidNumber [])
  | c :: rest =>
    if c.isDigit then .ok (rest.dropWhile Char.isDigit)
    else .error (faultAfterByte .invalidNumber (c :: rest))

def skipFraction (cs : List Char) : Except Fault (List Char) :=
  if (cs.takeWhile Char.isDigit).isEmpty then .error (faultAfterByte .invalidNumber cs)
  else
    match cs.dropWhile Char.isDigit with
    | 'e' :: rest | 'E' :: rest => skipExponent rest
    | rest => .ok rest

def skipAfterInteger : List Char → Except Fault (List Char)
  | '.' :: rest => skipFraction rest
  | 'e' :: rest | 'E' :: rest => skipExponent rest
  | cs => .ok cs

def skipUnsigned : List Char → Except Fault (List Char)
  | [] => .error (faultBefore .invalidNumber [])
  | c :: rest =>
    if c = '0' then
      match rest with
      | d :: _ =>
        if d.isDigit then .error (faultAfterByte .invalidNumber rest) else skipAfterInteger rest
      | [] => .ok []
    else if c.isDigit then skipAfterInteger (rest.dropWhile Char.isDigit)
    else .error (faultAfterByte .invalidNumber (c :: rest))

def skipNumber : List Char → Except Fault (List Char)
  | '-' :: rest => skipUnsigned rest
  | cs => skipUnsigned cs

end SchedulerHost.Json
