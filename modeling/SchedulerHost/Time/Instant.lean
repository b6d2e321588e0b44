import SchedulerHost.Numeric.Numeral
import SchedulerHost.Text.Blank
import SchedulerHost.Time.Date

/-!
# Instants

Instants of universal time with nanoseconds, and their RFC 3339 text. A leap second is the second
59 with a further 1 000 000 000 nanoseconds. Writing gives no more groups of three fraction digits
than needed. Reading is lenient: blanks are allowed around the parts, one digit is enough for a
part, the date may end with `t` or a space, years of any length may carry a sign, and every offset
below a day is taken.
-/

namespace SchedulerHost.Time

/-- A minute of the calendar, with the second and the nanosecond in it. -/
structure Instant where
  date : Date
  minute : Nat
  second : Nat
  nano : Nat
  minute_lt : minute < 1440
  second_lt : second < 60
  nano_lt : nano < 2000000000
  leap : 1000000000 ≤ nano → second = 59
deriving DecidableEq

namespace Instant

/-! ### Moving by minutes -/

/-- The instant `minutes` later, less than a day. -/
def later (t : Instant) (minutes : Nat) (h : minutes < 1440) : Instant :=
  if h' : t.minute + minutes < 1440 then { t with minute := t.minute + minutes, minute_lt := h' }
  else
    { t with
      date := t.date.next
      minute := t.minute + minutes - 1440
      minute_lt := by have := t.minute_lt; omega }

def earlier (t : Instant) (minutes : Nat) (h : minutes < 1440) : Instant :=
  if h' : minutes ≤ t.minute then
    { t with minute := t.minute - minutes, minute_lt := by have := t.minute_lt; omega }
  else
    { t with
      date := t.date.previous
      minute := t.minute + 1440 - minutes
      minute_lt := by omega }

/-! ### Writing -/

/-- The last `width` decimal digits, with leading zeros. -/
def padded (width n : Nat) : List Char :=
  let digits := Numeric.digits n
  List.replicate (width - digits.length) '0' ++ digits

/-- The year, with a sign if it does not have four digits. -/
def yearChars (year : Int) : List Char :=
  if 0 ≤ year ∧ year ≤ 9999 then padded 4 year.toNat
  else (if year < 0 then '-' else '+') :: padded 4 year.natAbs

/-- The fraction of a second, in as few groups of three digits as keep it. -/
def fractionChars (nano : Nat) : List Char :=
  if nano = 0 then []
  else if nano % 1000000 = 0 then '.' :: padded 3 (nano / 1000000)
  else if nano % 1000 = 0 then '.' :: padded 6 (nano / 1000)
  else '.' :: padded 9 nano

def chars (t : Instant) : List Char :=
  let leap := 1000000000 ≤ t.nano
  yearChars t.date.year ++ '-' :: padded 2 t.date.month ++ '-' :: padded 2 t.date.day ++
    'T' :: padded 2 (t.minute / 60) ++ ':' :: padded 2 (t.minute % 60) ++
    ':' :: padded 2 (if leap then 60 else t.second) ++
    fractionChars (if leap then t.nano - 1000000000 else t.nano) ++ ['Z']

def render (t : Instant) : String := String.ofList t.chars

end Instant

/-! ### Reading -/

/-- Why a text is not that of an instant. -/
inductive TimeFault where
  | outOfRange
  | impossible
  | tooShort
  | invalid
  | tooLong
deriving DecidableEq

def TimeFault.message : TimeFault → String
  | .outOfRange => "input is out of range"
  | .impossible => "no possible date and time matching input"
  | .tooShort => "premature end of input"
  | .invalid => "input contains invalid characters"
  | .tooLong => "trailing input"

namespace Instant

/-- Takes a part off the front of the text of an instant. -/
abbrev Scan (α : Type) := List Char → Except TimeFault (α × List Char)

def digitsValue (ds : List Char) : Nat := ds.foldl (fun n d => n * 10 + (d.toNat - '0'.toNat)) 0

/-- Takes one to `most` digits, the number not beyond 63 bits. -/
def scanDigits (most : Nat) : Scan Nat := fun cs =>
  match cs with
  | [] => .error .tooShort
  | c :: _ =>
    if c.isDigit then
      let ds := (cs.take most).takeWhile Char.isDigit
      if digitsValue ds < Nat.pow 2 63 then .ok (digitsValue ds, cs.drop ds.length)
      else .error .outOfRange
    else .error .invalid

/-- Takes a part of one or two digits, between the given bounds. -/
def scanPart (low high : Nat) : Scan Nat := fun cs => do
  let (n, cs) ← scanDigits 2 (Text.trimStart cs)
  if low ≤ n ∧ n ≤ high then .ok (n, cs) else .error .outOfRange

def scanMark (mark : Char) (cs : List Char) : Except TimeFault (List Char) :=
  match Text.trimStart cs with
  | [] => .error .tooShort
  | c :: rest => if c = mark then .ok rest else .error .invalid

/-- Takes a year: up to four digits, or any number of them after a sign. It fits 32 bits. -/
def scanYear : Scan Int := fun cs => do
  let (year, cs) ← match Text.trimStart cs with
    | '-' :: rest => (scanDigits rest.length rest).map fun (n, cs) => (-(n : Int), cs)
    | '+' :: rest => (scanDigits rest.length rest).map fun (n, cs) => ((n : Int), cs)
    | cs => (scanDigits 4 cs).map fun (n, cs) => ((n : Int), cs)
  if (Numeric.IntRange.signed 32).holds year then .ok (year, cs) else .error .outOfRange

/-- Takes what stands between the date and the time of day. -/
def scanTimeMark : List Char → Except TimeFault (List Char)
  | [] => .error .tooShort
  | c :: rest => if c = 't' ∨ c = 'T' ∨ c = ' ' then .ok rest else .error .invalid

/-- Takes a fraction of a second, if there is one, in nanoseconds;
digits past the ninth are dropped. -/
def scanFraction : Scan Nat
  | '.' :: cs => do
    let (n, rest) ← scanDigits 9 cs
    return (n * Nat.pow 10 (9 - (cs.length - rest.length)), rest.dropWhile Char.isDigit)
  | cs => .ok (0, cs)

/-- Takes two digits, one byte each, the first not beyond `high`. -/
def scanTwoDigits (high : Char) : Scan Nat := fun cs =>
  if (cs.map Char.utf8Size).foldr (· + ·) 0 < 2 then .error .tooShort
  else
    match cs with
    | a :: b :: rest =>
      if a.isDigit ∧ b.isDigit then
        if a ≤ high then .ok (digitsValue [a, b], rest) else .error .outOfRange
      else .error .invalid
    | _ => .error .invalid

/-- Is the text that of universal time, up to case? -/
def startsUniversal (cs : List Char) : Bool := (cs.take 3).map Char.toUpper = ['U', 'T', 'C']

/-- Takes an offset from universal time in minutes: a name of universal time, or a sign and the
digits of hours and minutes with colons and blanks between them. -/
def scanOffset : Scan Int := fun cs =>
  if startsUniversal cs then .ok (0, cs.drop 3)
  else
    match cs with
    | [] => .error .tooShort
    | c :: rest =>
      if c = 'Z' ∨ c = 'z' then .ok (0, rest)
      else if c = '+' ∨ c = '-' ∨ c = '−' then do
        let (hours, rest) ← scanTwoDigits '9' rest
        let (minutes, rest) ← scanTwoDigits '5' (rest.dropWhile fun c => c = ':' || Text.isBlank c)
        let offset : Int := hours * 60 + minutes
        return (if c = '+' then offset else -offset, rest)
      else .error .invalid

/-- The first and the last year that instants may have. -/
def yearRange : Int × Int := (-262143, 262142)

def inYears (d : Date) : Bool := yearRange.1 ≤ d.year && d.year ≤ yearRange.2

/-- The instant of a local time: a local second of 60 is a leap second. -/
def ofLocal (d : Date) (hour minute second nano : Nat) (offset : Int) :
    Except TimeFault Instant :=
  let local? : Option Instant :=
    if h : hour < 24 ∧ minute < 60 ∧ second ≤ 60 ∧ nano < 1000000000 then
      -- A leap second prolongs the second before it.
      some
        ⟨d, hour * 60 + minute, if second = 60 then 59 else second,
          if second = 60 then nano + 1000000000 else nano, by omega, by split <;> omega,
          by split <;> omega, by split <;> intros <;> omega⟩
    else none
  match local? with
  | none => .error .outOfRange
  | some t =>
    if h : offset.natAbs < 1440 then
      -- East of universal time the local time is ahead.
      let moved := if 0 ≤ offset then t.earlier offset.natAbs h else t.later offset.natAbs h
      if inYears moved.date then .ok moved else .error .impossible
    else .error .outOfRange

def parse (cs : List Char) : Except TimeFault Instant := do
  let (year, cs) ← scanYear cs
  let cs ← scanMark '-' cs
  let (month, cs) ← scanPart 1 12 cs
  let cs ← scanMark '-' cs
  let (day, cs) ← scanPart 1 31 cs
  let cs ← scanTimeMark cs
  let (hour, cs) ← scanPart 0 23 cs
  let cs ← scanMark ':' cs
  let (minute, cs) ← scanPart 0 59 cs
  let cs ← scanMark ':' cs
  let (second, cs) ← scanPart 0 60 cs
  let (nano, cs) ← scanFraction cs
  let (offset, cs) ← scanOffset (Text.trimStart cs)
  if (Text.trimStart cs).isEmpty then
    -- The form is checked to the end before the day is.
    match Date.of? year month day with
    | none => .error .outOfRange
    | some d => if inYears d then ofLocal d hour minute second nano offset else .error .outOfRange
  else .error .tooLong

def epoch : Instant :=
  ⟨⟨1970, 1, 1, by decide, by decide⟩, 0, 0, 0, by decide, by decide, by decide, by decide⟩

end Instant

end SchedulerHost.Time
