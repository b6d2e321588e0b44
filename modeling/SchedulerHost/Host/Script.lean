/-!
# Scripts

What a collaborator does once it is started, and when. A sleep that can be interrupted ends the
whole script when the token of the script is cancelled before it is over; the token is looked at
first.

Main statements: `next?_of_over`: a script that has come to an end takes no further step.
-/

namespace SchedulerHost.Host

/-- A line of a script. -/
inductive Action (α : Type) where
  | sleep (ms : Nat)
  | sleepThrough (ms : Nat)
  | untilShutdown
  | forever
  | panic (message : String)
  | act (a : α)
deriving DecidableEq

/-- How far the performance of a script has come. -/
inductive Fate where
  | pending
  | going
  | ended
  | panicked (message : String)
  | aborted
deriving DecidableEq

def Fate.isOver : Fate → Bool
  | .pending | .going => false
  | .ended | .panicked _ | .aborted => true

/-- The performance of a script: the lines to come, and when the sleep that has begun is over. -/
structure Performance (α : Type) where
  todo : List (Action α)
  alarm : Option Nat
  fate : Fate
deriving DecidableEq

/-- What a step of a performance shows. -/
inductive Move (α : Type) where
  | begin
  | act (a : α)
  | finish
  | pass

namespace Performance

variable {α : Type}

def ofScript (script : List (Action α)) : Performance α := ⟨script, none, .pending⟩

/-- The performance after its first line. -/
def proceed (p : Performance α) : Performance α := ⟨p.todo.drop 1, none, p.fate⟩

/-- The step of a sleep until `now + ms`, which is over when its alarm is reached. -/
def rest? (now ms : Nat) (p : Performance α) : Option (Move α × Performance α) :=
  match p.alarm with
  | none => some (.pass, { p with alarm := some (now + ms) })
  | some due => if due ≤ now then some (.pass, p.proceed) else none

/-- The next step, if there is one now. `down` tells whether the token of
the script is cancelled. -/
def next? (now : Nat) (down : Bool) (p : Performance α) : Option (Move α × Performance α) :=
  match p.fate with
  | .pending => some (.begin, { p with fate := .going })
  | .going =>
    match p.todo with
    | [] => some (.finish, { p with fate := .ended })
    | .sleep ms :: _ =>
      -- The token wins over the alarm when both are there.
      if down then some (.finish, ⟨[], none, .ended⟩) else p.rest? now ms
    | .sleepThrough ms :: _ => p.rest? now ms
    | .untilShutdown :: _ => if down then some (.pass, p.proceed) else none
    | .forever :: _ => none
    | .panic message :: _ => some (.pass, { p with fate := .panicked message })
    | .act a :: _ => some (.act a, p.proceed)
  | _ => none

/-- The performance is ended from outside, unless it has come to an end. -/
def abort (p : Performance α) : Performance α :=
  if p.fate.isOver then p else { p with fate := .aborted }

/-- The moment at which a sleep that has begun is over. -/
def alarms (p : Performance α) : List Nat := if p.fate.isOver then [] else p.alarm.toList

/-- A bound on the number of steps to come: a sleep takes two, the first of which sets the alarm,
and the beginning and the end one each. An action counts as much as `weight` says. -/
def work (weight : α → Nat) (p : Performance α) : Nat :=
  if p.fate.isOver then 0
  else
    let weights := p.todo.map fun
      | .sleep _ | .sleepThrough _ => 2
      | .act a => weight a
      | _ => 1
    weights.foldr (· + ·) 0 + (if p.fate = .pending then 2 else 1) -
      (if p.alarm.isSome then 1 else 0)

/-- A performance that has come to an end takes no further step. -/
theorem next?_of_over {now : Nat} {down : Bool} {p : Performance α} (h : p.fate.isOver = true) :
    p.next? now down = none := by
  unfold next?
  cases hf : p.fate <;> simp_all [Fate.isOver]

end Performance

end SchedulerHost.Host
