import Mathlib.Logic.Relation
import SchedulerHost.Host.Scheduler.Construction
import SchedulerHost.Host.Scheduler.Steps
import SchedulerHost.Proofs.Scheduler.Aside

/-!
# The life of a scheduler

Whatever may happen to a scheduler, in any order: its run and its tasks go on, in any order and with
anything in between; it is asked for something, or its gate or a store is used behind its back; time
goes on; it is run and drained, any number of times, but never both at once.

* `Stir`: what happens at a moment. `Step`: anything that happens. `Life`: any number of steps.
* **Aside or not** (`Stir.kinds`, `Stir.cases`, `Step.cases`): a step is aside of the run, is a turn
  of it, or begins one.
-/

namespace SchedulerHost.Host

open Feed (FeedId)
open Relation (ReflTransGen)

namespace Scheduler

/-- Something happens at a moment. -/
inductive Stir : Scheduler → Scheduler → Prop
  /-- Someone takes a step. -/
  | polled {w w' : Scheduler} (a : Agent) (next : w.poll? a = some w') : Stir w w'
  /-- Something is asked for. -/
  | asked {w : Scheduler} (c : Command) (brief : c.isBrief = true) : Stir w (w.perform c).1
  /-- Some are woken, or not, in some order. -/
  | lined {w : Scheduler} (l : Line Agent) : Stir w { w with line := l }
  /-- Someone with a hold on the gate reports that a feed is running. -/
  | marked {w : Scheduler} (feed : FeedId) :
    Stir w (w.withCache (w.cache.markRunning feed).1 (w.cache.markRunning feed).2)
  /-- Someone with a hold on the gate begins to wait. -/
  | waited {w : Scheduler} :
    Stir w (w.withCache (!w.cache.gate.isSealed) { w.cache with gate := w.cache.gate.beginWait })
  /-- Someone with a hold on a store writes to it. -/
  | written {w : Scheduler} (id : Nat) (f : Feed.Store → Feed.Store) :
    Stir w { w with cache := w.cache.modifyStore id f }

/-- Something happens. While a run is in progress no other run and no drain is begun. -/
inductive Step : Scheduler → Scheduler → Prop
  | stirred {w w' : Scheduler} (stir : Stir w w') : Step w w'
  | elapsed {w : Scheduler} (t : Nat) (later : w.surroundings.now ≤ t) :
    Step w (Machine.setNow t w)
  | begun {w : Scheduler} (ctx : Token) (free : w.isRunning = false) : Step w (w.beginRun ctx)
  /-- A drain takes over all tasks. -/
  | takenOver {w : Scheduler} (free : w.isRunning = false) : Step w { w with outstanding := [] }
  /-- A drain is done with a task. -/
  | settled {w : Scheduler} (task : Task) : Step w (w.settleTask task).1
  /-- A drain is over. -/
  | concluded {w : Scheduler} (n : Notice)
    (final : n = .drained ∨ ∃ names, n = .drainTimedOut names) :
    Step w (w.note n)

abbrev Life : Scheduler → Scheduler → Prop := ReflTransGen Step

variable {w w' : Scheduler}

/-- A change of the gate by someone who has a hold on it. -/
theorem asked_withGate {told : Bool} {g : Feed.Gate}
    (gate : GateOnward w.surroundings w.cache.gate w.surroundings g) :
    Asked w (w.withCache told { w.cache with gate := g }) := by
  obtain ⟨line, members, same⟩ := w.exists_withCache told { w.cache with gate := g }
  rw [same]
  exact .touches gate rfl members

/-- Whatever happens at a moment is a turn of the run, a step of a task, or asked for, or only the
line changes. -/
theorem Stir.kinds (stir : Stir w w') :
    w.pollRun? = some w' ∨ (∃ task, TaskStep w task w') ∨ Asked w w' ∨
      ∃ l, w' = { w with line := l } := by
  cases stir with
  | polled a next =>
    cases a with
    | run => exact .inl next
    | task t => exact .inr (.inl ⟨t, taskStep_of_pollTask? next⟩)
  | asked c brief => exact .inr (.inr (.inl (asked_perform w brief)))
  | lined l => exact .inr (.inr (.inr ⟨l, rfl⟩))
  | marked feed => exact .inr (.inr (.inl (asked_withGate (gateOnward_markRunning _ _ feed))))
  | waited => exact .inr (.inr (.inl (asked_withGate (gateOnward_beginWait _ _))))
  | written id f =>
    exact .inr (.inr (.inl (.touches (.of_surroundings (.refl _) _) rfl rfl)))

/-- Whatever happens at a moment is a turn of the run, or aside of it. -/
theorem Stir.cases (stir : Stir w w') :
    w.pollRun? = some w' ∨ (Aside w w' ∧ w'.surroundings.now = w.surroundings.now) := by
  rcases stir.kinds with turn | ⟨task, step⟩ | asked | ⟨l, rfl⟩
  · exact .inl turn
  · exact .inr ⟨step.aside, step.extends.now⟩
  · exact .inr ⟨asked.aside, asked.now⟩
  · exact .inr ⟨aside_line w l, rfl⟩

theorem aside_setNow {t : Nat} (later : w.surroundings.now ≤ t) :
    Aside w (Machine.setNow t w) := by
  have onward : w.surroundings.Onward { w.surroundings with now := t } :=
    ⟨later, fun _ there => there, List.suffix_refl _⟩
  exact ⟨.of_gate rfl rfl rfl rfl rfl (.of_surroundings onward _), rfl, rfl⟩

/-- Whatever happens is a turn of the run, the beginning of one, or aside of it. -/
theorem Step.cases (step : Step w w') :
    w.pollRun? = some w' ∨ (∃ ctx, w.isRunning = false ∧ w' = w.beginRun ctx) ∨ Aside w w' := by
  cases step with
  | stirred stir =>
    rcases stir.cases with turn | ⟨aside, -⟩
    · exact .inl turn
    · exact .inr (.inr aside)
  | elapsed t later => exact .inr (.inr (aside_setNow later))
  | begun ctx free => exact .inr (.inl ⟨ctx, free, rfl⟩)
  | takenOver free =>
    exact .inr (.inr ⟨.of_gate rfl rfl rfl rfl rfl (.of_surroundings (.refl _) _), rfl, rfl⟩)
  | settled task => exact .inr (.inr (aside_settleTask w task))
  | concluded n final => exact .inr (.inr (aside_note w n))

/-! ### Nudges -/

/-- An agent takes a step if it can. -/
def nudge (w : Scheduler) (a : Agent) : Scheduler := (w.poll? a).getD w

theorem poll?_eq_nudge {a : Agent} (able : (w.poll? a).isSome = true) :
    w.poll? a = some (w.nudge a) := by
  obtain ⟨w', next⟩ := Option.isSome_iff_exists.1 able
  rw [nudge, next, Option.getD_some]

/-- Whatever an agent does, it is part of a life. -/
theorem Life.nudge {w₀ : Scheduler} (life : Life w₀ w) (a : Agent) : Life w₀ (w.nudge a) := by
  unfold Scheduler.nudge
  cases next : w.poll? a with
  | none => exact life
  | some w' => exact life.tail (.stirred (.polled a next))

/-! ### A small scheduler -/

/-- One informer, which reports at once, a factory that takes two milliseconds, and a core that
looks at its feeds. -/
def smallAssembly : Assembly where
  component := .standard
  client := some ⟨none, 0⟩
  informerFactory := some ⟨[], some 2, false⟩
  podInformer := some ⟨"pods", [.act .sync]⟩
  informers := []
  eventSink := none
  hasCoreBroadcaster := true
  selection := .standard

def smallParts : Parts :=
  ⟨.standard, ⟨none, 0⟩, ⟨[], some 2, false⟩, ⟨"pods", [.act .sync]⟩, [], none, .standard⟩

def smallBuilder : Builder := ⟨none, "scheduler", [.act .look]⟩

def small : Scheduler :=
  match (construct (.start ⟨"0", .epoch⟩) smallAssembly smallBuilder).2 with
  | .ok w => w
  | .error _ => idle (.start ⟨"0", .epoch⟩) smallParts smallBuilder .empty .legacy []

end Scheduler

end SchedulerHost.Host
