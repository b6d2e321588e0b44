import SchedulerHost.Numeric.Numeral

/-!
# Spans of time

A span is shown in its largest unit with a positive integer part, its fraction without trailing
zeros: `1.05s`, `50ms`, `1.5µs`, `0ns`.
-/

namespace SchedulerHost.Time

/-- A span in nanoseconds. -/
structure Span where
  nanos : Nat
deriving DecidableEq

namespace Span

def ofMillis (ms : Nat) : Span := ⟨ms * 1000000⟩

def ofParts (seconds nanos : Nat) : Span := ⟨seconds * 1000000000 + nanos⟩

/-- The fraction of a unit of `10 ^ places` nanoseconds, with its point. -/
def fractionChars (places nanos : Nat) : List Char :=
  let digits := Numeric.digits nanos
  let padded := List.replicate (places - digits.length) '0' ++ digits
  if nanos = 0 then [] else '.' :: (padded.reverse.dropWhile (· = '0')).reverse

/-- The span in units of `10 ^ places` nanoseconds. -/
def inUnit (nanos places : Nat) (unit : String) : String :=
  let whole := Numeric.digits (nanos / Nat.pow 10 places)
  let fraction := fractionChars places (nanos % Nat.pow 10 places)
  String.ofList (whole ++ fraction) ++ unit

def render (span : Span) : String :=
  if 1000000000 ≤ span.nanos then inUnit span.nanos 9 "s"
  else if 1000000 ≤ span.nanos then inUnit span.nanos 6 "ms"
  else if 1000 ≤ span.nanos then inUnit span.nanos 3 "µs"
  else inUnit span.nanos 0 "ns"

example : (ofParts 1 50000000).render = "1.05s" := by decide
example : (ofMillis 50).render = "50ms" := by decide
example : (ofParts 0 1500).render = "1.5µs" := by decide
example : (ofParts 0 0).render = "0ns" := by decide

end Span

end SchedulerHost.Time
