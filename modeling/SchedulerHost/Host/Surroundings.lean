import SchedulerHost.Host.Call

/-!
# Surroundings

What everything that runs in a host shares: the time, in milliseconds since the beginning, the
tokens that have been cancelled, and the journal of what happened, which holds the notices of the
host and the calls.

Main statements: `isCancelled_cancel` and `isCancelled_mono`: a token stays cancelled.
-/

namespace SchedulerHost.Host

/-- A token that can be cancelled once, for good: that of the shutdown, those that are given to
runs, and any other. -/
inductive Token where
  | shutdown
  | context (n : Int)
  | numbered (n : Int)
deriving DecidableEq, Inhabited

inductive Happening where
  | notice (scope : Scope) (n : Notice)
  | call (c : Call)

structure Entry where
  time : Nat
  what : Happening

/-- The time, the cancelled tokens and the journal, its latest entry first. Events that are made
here get the stamp. -/
structure Surroundings where
  now : Nat
  cancelled : List Token
  journal : List Entry
  stamp : Event.Stamp

namespace Surroundings

def start (stamp : Event.Stamp) : Surroundings := ⟨0, [], [], stamp⟩

def note (s : Surroundings) (scope : Scope) (n : Notice) : Surroundings :=
  { s with journal := ⟨s.now, .notice scope n⟩ :: s.journal }

def call (s : Surroundings) (c : Call) : Surroundings :=
  { s with journal := ⟨s.now, .call c⟩ :: s.journal }

def cancel (s : Surroundings) (token : Token) : Surroundings :=
  if token ∈ s.cancelled then s else { s with cancelled := token :: s.cancelled }

/-- The entries that have been made since the journal had a number of them, the latest first. -/
def entriesSince (s : Surroundings) (mark : Nat) : List Entry :=
  s.journal.take (s.journal.length - mark)

def isCancelled (s : Surroundings) (token : Token) : Bool := token ∈ s.cancelled

@[simp] theorem isCancelled_cancel (s : Surroundings) (token : Token) :
    (s.cancel token).isCancelled token = true := by
  unfold cancel isCancelled
  split <;> simp_all

/-- Cancelling takes no time. -/
theorem now_cancel (s : Surroundings) (token : Token) : (s.cancel token).now = s.now := by
  unfold cancel
  split <;> rfl

/-- A token stays cancelled. -/
theorem isCancelled_mono (s : Surroundings) (token other : Token)
    (h : s.isCancelled other = true) : (s.cancel token).isCancelled other = true := by
  unfold cancel isCancelled at *
  split <;> simp_all

/-- Cancelling a token leaves the others as they are. -/
theorem isCancelled_cancel_of_ne (s : Surroundings) {token other : Token} (h : token ≠ other) :
    (s.cancel token).isCancelled other = s.isCancelled other := by
  unfold cancel isCancelled
  split
  · rfl
  · simp [Ne.symm h]

end Surroundings

end SchedulerHost.Host
