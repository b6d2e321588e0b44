import SchedulerHost.Feed.Gate
import SchedulerHost.Host.Surroundings

/-!
# Waits

A wait for all feeds of a gate. It begins with its first step, which seals the gate, and goes on
until all feeds are synced or its token is cancelled. The feeds are looked at first, so a wait whose
feeds are all synced succeeds even with a cancelled token.

Main statement: `step?_eq_none_iff`, which says when a wait has to wait on.
-/

namespace SchedulerHost.Host

open Feed (Gate)

/-- How far a wait has come. -/
inductive WaitPhase where
  | fresh
  | waiting
  | ended (synced : Bool)
deriving DecidableEq

/-- A wait for all feeds, with the token that ends it. -/
structure Wait where
  cancel : Token
  phase : WaitPhase
deriving DecidableEq

namespace Wait

def new (cancel : Token) : Wait := ⟨cancel, .fresh⟩

def outcome? (w : Wait) : Option Bool :=
  match w.phase with
  | .ended synced => some synced
  | _ => none

def step? (s : Surroundings) (g : Gate) (w : Wait) : Option (Gate × Wait) :=
  match w.phase with
  | .fresh => some (g.beginWait, { w with phase := .waiting })
  | .waiting =>
    if g.allSynced then some (g, { w with phase := .ended true })
    else if s.isCancelled w.cancel then some (g, { w with phase := .ended false })
    else none
  | .ended _ => none

def work (w : Wait) : Nat :=
  match w.phase with
  | .fresh => 2
  | .waiting => 1
  | .ended _ => 0

/-- A wait takes no step exactly when it is over, or some feed is not synced and
its token not cancelled. -/
theorem step?_eq_none_iff {s : Surroundings} {g : Gate} {w : Wait} :
    w.step? s g = none ↔
      w.outcome?.isSome ∨
        (w.phase = .waiting ∧ g.allSynced = false ∧ s.isCancelled w.cancel = false) := by
  unfold step? outcome?
  cases w.phase with
  | fresh => simp
  | waiting => cases g.allSynced <;> cases s.isCancelled w.cancel <;> simp
  | ended synced => simp

/-- Every step of a wait leaves fewer to come. -/
theorem work_step? {s : Surroundings} {g g' : Gate} {w w' : Wait}
    (h : w.step? s g = some (g', w')) : w'.work < w.work := by
  unfold step? at h
  split at h
  · next fresh =>
    simp only [Option.some.injEq, Prod.mk.injEq] at h
    simp [work, ← h.2, fresh]
  · next waiting =>
    split at h
    · simp only [Option.some.injEq, Prod.mk.injEq] at h
      simp [work, ← h.2, waiting]
    · split at h
      · simp only [Option.some.injEq, Prod.mk.injEq] at h
        simp [work, ← h.2, waiting]
      · contradiction
  · contradiction

end Wait

end SchedulerHost.Host
