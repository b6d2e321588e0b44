import SchedulerHost.Host.Line

/-!
# The clock

What runs side by side in a host takes turns. A turn lasts until the one who has it can do nothing
more for now. Whoever becomes able to go on is woken, and has a turn after those who were woken
before; of those who become able at once, the one who has waited longest is first. Turns take no
time. Only when nobody can go on does time move, to the next moment at which something is due.

Whoever lets time pass from outside goes on as soon as its moment has come: nobody who becomes able
at that moment has had a turn by then. Whoever deals from outside with many things in a row gives
way now and then: some of the others are called in between.

Main statements: `step?_eq_none_iff`, `settle_of_quiet`, and `settleFor_add`, which says that
settling may be interrupted.
-/

namespace SchedulerHost.Host

/-- Something in which agents proceed side by side and wait for moments in time. -/
class Machine (σ : Type) (α : outParam Type) where
  /-- The time. -/
  now : σ → Nat
  /-- The same at another time. -/
  setNow : Nat → σ → σ
  /-- The agents. -/
  line : σ → Line α
  /-- The same with another line. -/
  setLine : Line α → σ → σ
  /-- The next step of an agent, if there is one now. -/
  poll? : α → σ → Option σ
  /-- The moments at which something is due. -/
  alarms : σ → List Nat
  /-- A bound on the number of steps to come. -/
  work : σ → Nat

namespace Machine

variable {σ α : Type} [Machine σ α]

/-! ### Turns -/

/-- The turn of an agent, of at most `fuel` steps. -/
def turn (a : α) : Nat → σ → σ
  | 0, s => s
  | fuel + 1, s =>
    match poll? a s with
    | none => s
    | some next => turn a fuel next

def isAble (s : σ) (a : α) : Bool := (poll? a s).isSome

/-- The agent whose turn is next, and the line without those who are woken before it. -/
def next? (s : σ) : Option (α × Line α) := (line s).next? (isAble s)

/-- Nobody can go on, so those who are woken were woken for nothing. -/
def calm (s : σ) : σ := setLine (line s).calm s

variable [DecidableEq α] [Hashable α]

/-- Wakes those who have become able to go on. -/
def rouse (s : σ) : σ := setLine ((line s).wake (isAble s)) s

/-- An agent begins to wait. -/
def toBack (a : α) (s : σ) : σ := setLine ((line s).toBack a) s

def step? (s : σ) : Option σ :=
  (next? s).map fun (a, rest) => rouse (toBack a (turn a (work s) (setLine rest s)))

/-! ### Settling -/

/-- Takes turns until none is left, at most `fuel` of them. -/
def settleFor : Nat → σ → σ
  | 0, s => s
  | fuel + 1, s =>
    match step? s with
    | none => s
    | some next => settleFor fuel next

def settle (s : σ) : σ := calm (settleFor (work s) s)

/-- What goes on after something was done from outside: all settles, unless it is held up. -/
def resume (hold : Bool) (s : σ) : σ := if hold then rouse s else settle (rouse s)

/-! ### Giving way -/

/-- How many things one deals with in a row before giving way. -/
def patience : Nat := 128

/-- How many are called before the one who has given way goes on. -/
def recess : Nat := 61

/-- Calls the first of the woken, who has a turn unless it was woken for nothing. -/
def call (s : σ) : σ :=
  match (line s).first? with
  | none => s
  | some (a, rest) =>
    let s := setLine rest s
    if isAble s a then rouse (toBack a (turn a (work s) s)) else s

def callFor : Nat → σ → σ
  | 0, s => s
  | n + 1, s => callFor n (call s)

/-- Lets others go on for a while. -/
def giveWay (s : σ) : σ := callFor recess s

/-! ### The passing of time -/

/-- A moment has come. Those for whom something is due are woken. -/
def moveTo (moment : Nat) (s : σ) : σ := rouse (setNow moment s)

def nextAlarm? (s : σ) : Option Nat := (alarms s).min?

/-- Settles and moves time on until `done` holds or `deadline` is reached,
in at most `fuel` moves. -/
def awaitFor (done : σ → Bool) (deadline : Nat) : Nat → σ → σ
  | 0, s => moveTo deadline s
  | fuel + 1, s =>
    let s := settle s
    if done s then s
    else
      -- All is settled, so nothing happens before the next alarm.
      match nextAlarm? s with
      | none => moveTo deadline s
      | some due =>
        -- At the deadline it is for the one who waits to go on first.
        if due < deadline then awaitFor done deadline fuel (moveTo due s)
        else moveTo deadline s

/-- Settles and moves time on until `done` holds or `deadline` is reached. There is nothing to
wait for once the deadline is there. -/
def await (done : σ → Bool) (deadline : Nat) (s : σ) : σ :=
  if deadline ≤ now s then s else awaitFor done deadline (work s + 1) s

def advance (span : Nat) (s : σ) : σ := await (fun _ => false) (now s + span) s

/-! ### Laws -/

/-- There is no next turn exactly when none of the woken can take a step. -/
theorem step?_eq_none_iff {s : σ} : step? s = none ↔ ∀ a ∈ (line s).woken, poll? a s = none := by
  rw [step?, Option.map_eq_none_iff, next?, Line.next?_eq_none_iff]
  simp [isAble]

theorem settleFor_of_quiet {s : σ} (h : step? s = none) (fuel : Nat) : settleFor fuel s = s := by
  cases fuel with
  | zero => rfl
  | succ fuel => simp [settleFor, h]

/-- Where nobody can go on, nothing changes but that nobody is to have a turn any more. -/
theorem settle_of_quiet {s : σ} (h : step? s = none) : settle s = calm s := by
  rw [settle, settleFor_of_quiet h]

/-- Settling may be interrupted and taken up again. -/
theorem settleFor_add (m n : Nat) (s : σ) :
    settleFor (m + n) s = settleFor n (settleFor m s) := by
  induction m generalizing s with
  | zero => simp [settleFor]
  | succ m ih =>
    rw [show m + 1 + n = (m + n) + 1 by omega]
    cases h : step? s with
    | none => simp [settleFor, h, settleFor_of_quiet h]
    | some next => simp [settleFor, h, ih]

/-- Nobody is called when nobody is woken. -/
theorem call_of_calm {s : σ} (h : (line s).woken = []) : call s = s := by
  simp [call, Line.first?, h]

/-- Letting no time pass lets nobody have a turn either. -/
theorem advance_zero (s : σ) : advance 0 s = s := by
  simp [advance, await]

end Machine

end SchedulerHost.Host
