/-!
# Ranges of code points

A class of characters is given by a table of closed ranges of code points.
-/

namespace SchedulerHost.Text

structure CodeRange where
  first : Nat
  last : Nat

def CodeRange.holds (range : CodeRange) (c : Char) : Bool :=
  range.first ≤ c.toNat && c.toNat ≤ range.last

def inRanges (table : List CodeRange) (c : Char) : Bool := table.any (·.holds c)

end SchedulerHost.Text
