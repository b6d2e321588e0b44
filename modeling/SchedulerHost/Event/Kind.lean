/-!
# Kinds of events

An event is normal or a warning.
-/

namespace SchedulerHost.Event

inductive Kind where
  | normal
  | warning
deriving DecidableEq, Inhabited

namespace Kind

def name : Kind → String
  | .normal => "Normal"
  | .warning => "Warning"

def ofName? (s : String) : Option Kind :=
  if s = "Normal" then some .normal else if s = "Warning" then some .warning else none

/-- A kind is read from its own name and from nothing else. -/
theorem ofName?_eq_some_iff {s : String} {k : Kind} : ofName? s = some k ↔ s = k.name := by
  unfold ofName?
  cases k with
  | normal =>
    by_cases h : s = "Normal"
    · simp [h, name]
    · by_cases h' : s = "Warning" <;> simp [h, h', name]
  | warning =>
    by_cases h : s = "Normal"
    · simp [h, name]
    · by_cases h' : s = "Warning" <;> simp [h', name, h]

end Kind

end SchedulerHost.Event
