import SchedulerHost.Proofs.Scheduler.Admission
import SchedulerHost.Proofs.Scheduler.Launching
import SchedulerHost.Proofs.Scheduler.Untouched

/-!
# Readiness

The flag of a scheduler goes up in the turn in which its only run is done with waiting for the
caches, also when the shutdown has come by then, and goes down when the run takes notice of the
shutdown. Whoever asks gets the flag together with the token.

* `Succeeds`: the turn in which the wait for the caches succeeds.
* **The flag** (`Signalled.step`): between the success and the shutdown the flag is up, and never
  before.
* **Readiness** (`isReady_exact`): a scheduler is ready after the success and before the shutdown,
  whoever asks, and at no other time.
-/

namespace SchedulerHost.Host

open Relation (ReflTransGen)

namespace Scheduler

variable {mark : Nat} {w w' w₀ : Scheduler} {ctx : Token}

/-! ### Success -/

/-- Does the wait for the caches succeed in the next turn of a run? A run that is
refused waits for nothing. -/
def waitSucceeds (w : Scheduler) (ctx : Token) : RunPhase → Bool
  | .entered => !w.started && !w.isCancelled ctx && w.factoryReported w.surroundings.now &&
      w.cache.gate.allSynced
  | .awaitingFactory asked =>
    !w.isCancelled ctx && w.factoryReported asked && w.cache.gate.allSynced
  | .awaitingFeeds => !w.isCancelled ctx && w.cache.gate.allSynced
  | .serving => false

/-- In a turn of the run its wait for the caches succeeds. -/
structure Succeeds (w w' : Scheduler) : Prop where
  turn : w.pollRun? = some w'
  succeeds : ∃ ctx phase, w.run = .going ctx phase ∧ w.waitSucceeds ctx phase = true

def HasSucceeded (w₀ w : Scheduler) : Prop :=
  ∃ u u', Life w₀ u ∧ Succeeds u u' ∧ Life u' w

/-! ### The flag in a turn -/

/-- What a turn does to the core and to the flag, by whether the wait for the caches succeeds. -/
inductive Signals (w : Scheduler) : Bool → Scheduler → Prop
  | succeeds {w' : Scheduler} (core : w'.core.isSome = true)
    (ready : w'.ready = !w.isCancelled .shutdown) : Signals w true w'
  | goesOn {w' : Scheduler} (core : w'.core = w.core)
    (ready : w'.ready = w.ready ∨ (w'.ready = false ∧ w.isCancelled .shutdown = true)) :
    Signals w false w'

theorem Signals.of_same {v : Scheduler} {success : Bool} (h : Signals v success w')
    (core : v.core = w.core) (ready : v.ready = w.ready)
    (cancelled : v.isCancelled .shutdown = w.isCancelled .shutdown) : Signals w success w' := by
  cases h with
  | succeeds there up =>
    rw [cancelled] at up
    exact .succeeds there up
  | goesOn same flag =>
    rw [core] at same
    rw [ready, cancelled] at flag
    exact .goesOn same flag

theorem signals_serve (w : Scheduler) (ctx : Token) : Signals w false (w.serve ctx) := by
  unfold serve
  split
  · next down => exact .goesOn rfl (.inr ⟨rfl, down⟩)
  · exact .goesOn rfl (.inl rfl)

/-- The flag goes up with the core, and down at once when the shutdown has come already. -/
theorem signals_admitCore (w : Scheduler) (ctx : Token) :
    Signals w true (w.admitCore.serve ctx) := by
  have kept : w.admitCore.isCancelled .shutdown = w.isCancelled .shutdown := rfl
  unfold serve
  split
  · next down =>
    rw [kept] at down
    exact .succeeds rfl (by rw [down]; rfl)
  · next up =>
    rw [kept, Bool.not_eq_true] at up
    exact .succeeds rfl (by rw [up]; rfl)

/-- A run that waits for the feeds succeeds if they are synced and its token is not cancelled. -/
theorem signals_awaitFeeds (w : Scheduler) (ctx : Token) :
    Signals w (!w.isCancelled ctx && w.cache.gate.allSynced) (w.awaitFeeds ctx) := by
  unfold awaitFeeds
  cases w.isCancelled ctx with
  | true => exact .goesOn rfl (.inl rfl)
  | false =>
    cases w.cache.gate.allSynced with
    | true => exact w.signals_admitCore ctx
    | false => exact .goesOn rfl (.inl rfl)

/-- A run that waits for its factory succeeds if the report is there as well. -/
theorem signals_awaitFactory (w : Scheduler) (ctx : Token) (asked : Nat) :
    Signals w (!w.isCancelled ctx && w.factoryReported asked && w.cache.gate.allSynced)
      (w.awaitFactory ctx asked) := by
  unfold awaitFactory
  cases kept : w.isCancelled ctx with
  | true => exact .goesOn rfl (.inl rfl)
  | false =>
    cases w.factoryReported asked with
    | false => exact .goesOn rfl (.inl rfl)
    | true =>
      obtain ⟨s, told, same⟩ := w.exists_takeReport
      have taken := w.proceeds_takeReport
      have signals := w.takeReport.signals_awaitFeeds ctx
      rw [taken.isCancelled, kept, taken.synced] at signals
      refine signals.of_same ?_ ?_ (taken.isCancelled .shutdown)
      · rw [same]
      · rw [same]

theorem signals_awaitCaches (w : Scheduler) (ctx : Token) :
    Signals w (!w.isCancelled ctx && w.factoryReported w.surroundings.now &&
      w.cache.gate.allSynced) (w.awaitCaches ctx) := by
  unfold awaitCaches
  split
  · next cancelled =>
    rw [cancelled]
    exact .goesOn rfl (.inl rfl)
  · exact (signals_awaitFactory (w.call .factoryWait) ctx w.surroundings.now).of_same rfl rfl rfl

/-- What is launched first touches neither the core nor the flag. -/
theorem signals_enter (w : Scheduler) (ctx : Token) :
    Signals w (w.waitSucceeds ctx .entered) (w.enter ctx) := by
  cases started : w.started with
  | true =>
    rw [enter, waitSucceeds, started]
    exact .goesOn rfl (.inl rfl)
  | false =>
    obtain ⟨s, c, b, first, l, -, -, same⟩ := w.exists_launchAll
    have launches := w.proceeds_launchAll
    have signals := w.launchAll.signals_awaitCaches ctx
    rw [launches.isCancelled, launches.surroundings.now, launches.factoryReported,
      launches.synced] at signals
    rw [enter_of_fresh started, waitSucceeds, started]
    refine signals.of_same ?_ ?_ (launches.isCancelled .shutdown)
    · rw [same]
    · rw [same]

/-- A turn of the run raises the flag when the wait for the caches succeeds, and lowers it when the
shutdown has come. -/
theorem signals_proceed (w : Scheduler) (ctx : Token) (phase : RunPhase) :
    Signals w (w.waitSucceeds ctx phase) (w.proceed ctx phase) := by
  cases phase with
  | entered => exact w.signals_enter ctx
  | awaitingFactory asked => exact w.signals_awaitFactory ctx asked
  | awaitingFeeds => exact w.signals_awaitFeeds ctx
  | serving => exact w.signals_serve ctx

/-! ### The flag in a life -/

theorem ready_cutShort (w : Scheduler) (task : Task) : (w.cutShort task).ready = w.ready := by
  cases task with
  | recording =>
    simp only [cutShort]
    split <;> rfl
  | informer i => rfl
  | core => rfl

/-- What is not done by the run: the flag is left alone, no core is launched,
and no token is restored. -/
structure Unsignalled (w w' : Scheduler) : Prop where
  ready : w'.ready = w.ready
  core : w'.core.isSome = w.core.isSome
  cancelled : w.isCancelled .shutdown = true → w'.isCancelled .shutdown = true

theorem Unsignalled.of_aside (aside : Aside w w') (ready : w'.ready = w.ready) :
    Unsignalled w w' := by
  refine ⟨ready, ?_, aside.frame.isCancelled⟩
  rw [← Option.isSome_map, aside.feeds, Option.isSome_map]

/-- A step is a turn of the run, or it is not signalled. -/
theorem Step.signals (step : Step w w') : w.pollRun? = some w' ∨ Unsignalled w w' := by
  cases step with
  | stirred stir =>
    rcases stir.kinds with turn | ⟨task, step⟩ | asked | ⟨l, rfl⟩
    · exact .inl turn
    · refine .inr (.of_aside step.aside ?_)
      cases step <;> rfl
    · refine .inr (.of_aside asked.aside ?_)
      cases asked <;> rfl
    · exact .inr (.of_aside (w.aside_line l) rfl)
  | elapsed t later => exact .inr (.of_aside (aside_setNow later) rfl)
  | begun ctx free => exact .inr ⟨rfl, rfl, id⟩
  | takenOver free => exact .inr ⟨rfl, rfl, id⟩
  | settled task =>
    refine .inr (.of_aside (w.aside_settleTask task) ?_)
    rcases settleTask_cases w task with ⟨n, same⟩ | same
    · rw [same]
      rfl
    · rw [same]
      exact w.ready_cutShort task
  | concluded n final => exact .inr (.of_aside (w.aside_note n) rfl)

/-- The flag is up between the success and the shutdown, and not before. -/
structure Signalled (w : Scheduler) : Prop where
  core : w.ready = true → w.core.isSome = true
  ready : w.core.isSome = true → w.ready = true ∨ w.isCancelled .shutdown = true

/-- What a turn of the run makes of the flag. -/
theorem Signalled.turn (h : Signalled w) (turn : w.pollRun? = some w') : Signalled w' := by
  obtain ⟨ctx, phase, -, -, rfl⟩ := exists_of_pollRun? turn
  have kept := (w.proceed_spec ctx phase).1.isCancelled .shutdown
  have signals := w.signals_proceed ctx phase
  generalize w.waitSucceeds ctx phase = success at signals
  cases signals with
  | succeeds core ready =>
    refine ⟨fun _ => core, fun _ => ?_⟩
    rw [kept, ready]
    cases w.isCancelled .shutdown <;> simp
  | goesOn core ready =>
    refine ⟨?_, ?_⟩
    · intro up
      rw [core]
      rcases ready with same | ⟨down, -⟩
      · exact h.core (same ▸ up)
      · rw [down] at up
        contradiction
    · intro there
      rw [core] at there
      rw [kept]
      rcases ready with same | ⟨-, cancelled⟩
      · rw [same]
        exact h.ready there
      · exact .inr cancelled

/-- **The flag.** Between the success and the shutdown the flag is up, and it is never up before. -/
theorem Signalled.step (h : Signalled w) (step : Step w w') : Signalled w' := by
  rcases step.signals with turn | unsignalled
  · exact h.turn turn
  · refine ⟨?_, ?_⟩
    · rw [unsignalled.ready, unsignalled.core]
      exact h.core
    · rw [unsignalled.ready, unsignalled.core]
      exact fun there => (h.ready there).imp id unsignalled.cancelled

theorem Signalled.life (h : Signalled w) (life : Life w w') : Signalled w' := by
  induction life with
  | refl => exact h
  | tail _ step ih => exact ih.step step

/-! ### Success in a life -/

/-- The core is there once the wait for the caches has succeeded, and only then. -/
theorem hasSucceeded_iff (fresh : Fresh w₀) (life : Life w₀ w) :
    HasSucceeded w₀ w ↔ w.core.isSome = true := by
  constructor
  · rintro ⟨u, u', before, ⟨turn, ctx, phase, going, success⟩, after⟩
    have there : u'.core.isSome = true := by
      obtain ⟨ctx', phase', going', -, rfl⟩ := exists_of_pollRun? turn
      rw [going, RunState.going.injEq] at going'
      obtain ⟨rfl, rfl⟩ := going'
      have signals := u.signals_proceed ctx phase
      rw [success] at signals
      cases signals with
      | succeeds core => exact core
    obtain ⟨t, core⟩ := Option.isSome_iff_exists.1 there
    have order := fresh.inOrder.life (before.tail (.stirred (.polled .run turn)))
    obtain ⟨t', core', -⟩ := Life.core order core after
    rw [core']
    rfl
  · intro there
    induction life with
    | refl =>
      rw [fresh.core] at there
      contradiction
    | @tail v v' before step ih =>
      by_cases already : v.core.isSome = true
      · obtain ⟨u, u', first, success, later⟩ := ih already
        exact ⟨u, u', first, success, later.tail step⟩
      · rcases step.signals with turn | unsignalled
        · obtain ⟨ctx, phase, going, -, rfl⟩ := exists_of_pollRun? turn
          have signals := v.signals_proceed ctx phase
          cases success : v.waitSucceeds ctx phase with
          | true => exact ⟨v, _, before, ⟨turn, ctx, phase, going, success⟩, .refl⟩
          | false =>
            rw [success] at signals
            cases signals with
            | goesOn core =>
              rw [core] at there
              exact absurd there already
        · rw [unsignalled.core] at there
          exact absurd there already

/-- A token stays cancelled. -/
theorem Life.isCancelled (life : Life w w') (down : w.isCancelled .shutdown = true) :
    w'.isCancelled .shutdown = true := by
  induction life with
  | refl => exact down
  | @tail v v' before step ih =>
    rcases step.signals with turn | unsignalled
    · obtain ⟨ctx, phase, -, -, rfl⟩ := exists_of_pollRun? turn
      rw [(v.proceed_spec ctx phase).1.isCancelled]
      exact ih
    · exact unsignalled.cancelled ih

/-! ## Readiness -/

theorem isReady_iff : w.isReady = true ↔ w.ready = true ∧ w.isCancelled .shutdown = false := by
  rw [isReady, Bool.and_eq_true, Bool.not_eq_true']
  rfl

/-- A scheduler is ready from the launch of its core to the shutdown. -/
theorem Signalled.isReady_iff (h : Signalled w) :
    w.isReady = true ↔ w.core.isSome = true ∧ w.isCancelled .shutdown = false := by
  rw [Scheduler.isReady_iff]
  constructor
  · rintro ⟨up, kept⟩
    exact ⟨h.core up, kept⟩
  · rintro ⟨there, kept⟩
    rcases h.ready there with up | down
    · exact ⟨up, kept⟩
    · rw [kept] at down
      contradiction

theorem signalled_of_construct {s s' : Surroundings} {assembly : Assembly} {builder : Builder}
    (built : construct s assembly builder = (s', .ok w₀)) : Signalled w₀ := by
  obtain ⟨parts, s₁, backend, s₂, drivers, cache, request, s₃, backend', -, -, -, rfl⟩ :=
    construct_eq_ok built
  refine ⟨?_, ?_⟩
  · intro up
    contradiction
  · intro there
    contradiction

/-- **Readiness.** In the life of a scheduler that has been constructed:

* it is ready exactly when the wait of its run for the caches has succeeded and the shutdown has not
  come, and every probe that has ever been handed out tells the same;
* then all registered feeds are synced, and the core has been launched;
* after a run has given up waiting it is never ready, and it has not been before;
* after the shutdown it is never ready, not even in the midst of a turn that raises the flag then;
* at first it is not ready, and having been ready and being so no more it is never ready again. -/
theorem isReady_exact {s s' : Surroundings} {assembly : Assembly} {builder : Builder}
    {w₀ : Scheduler} (built : construct s assembly builder = (s', .ok w₀)) :
    (∀ w, Life w₀ w →
      (w.isReady = true ↔ HasSucceeded w₀ w ∧ w.isCancelled .shutdown = false) ∧
      (∀ u, Life w₀ u → u.probe.isReady w = w.isReady) ∧
      (w.isReady = true → w.HasTask .core ∧
        ∀ feed state, w.cache.gate.state? feed = some state → state = .synced)) ∧
    (∀ u w time, Life w₀ u → u.run = .returned time (.error .cacheSyncTimeout) →
      (Life w₀ w ∧ Life w u) ∨ Life u w → w.isReady = false) ∧
    (∀ u w, Life w₀ u → u.isCancelled .shutdown = true → Life u w →
      w.isReady = false ∧ w.admitCore.ready = true ∧ w.admitCore.isReady = false) ∧
    w₀.isReady = false ∧
    ∀ u v w, Life w₀ u → Life u v → Life v w → u.isReady = true → v.isReady = false →
      w.isReady = false := by
  have fresh := fresh_of_construct built
  have signalled {w : Scheduler} (life : Life w₀ w) := (signalled_of_construct built).life life
  have unready {w : Scheduler} (down : w.isCancelled .shutdown = true) : w.isReady = false := by
    rw [← Bool.not_eq_true, isReady_iff, down]
    simp
  refine ⟨?_, ?_, ?_, ?_, ?_⟩
  · intro w life
    refine ⟨?_, fun _ _ => rfl, ?_⟩
    · rw [hasSucceeded_iff fresh life]
      exact (signalled life).isReady_iff
    · intro ready
      obtain ⟨there, -⟩ := (signalled life).isReady_iff.1 ready
      obtain ⟨t, core⟩ := Option.isSome_iff_exists.1 there
      obtain ⟨-, admits⟩ := (fresh.inOrder.life life).orderly.core t core
      exact ⟨there, fun feed state found => Feed.Gate.eq_synced_of_allSynced admits.synced found⟩
  · intro u w time before returned around
    rw [← Bool.not_eq_true]
    intro ready
    have spent := (fresh.inOrder.life before).spent returned
    rcases around with ⟨earlier, onward⟩ | after
    · -- A core that is there does not go away until the run gives up.
      obtain ⟨there, -⟩ := (signalled earlier).isReady_iff.1 ready
      obtain ⟨t, core⟩ := Option.isSome_iff_exists.1 there
      obtain ⟨t', core', -⟩ := Life.core (fresh.inOrder.life earlier) core onward
      rw [spent.core] at core'
      contradiction
    · obtain ⟨there, -⟩ := (signalled (before.trans after)).isReady_iff.1 ready
      rw [(spent.life after).core] at there
      contradiction
  · intro u w before down after
    have down := after.isCancelled down
    exact ⟨unready down, rfl, unready (w := w.admitCore) down⟩
  · have nothing := (signalled (w := w₀) .refl).isReady_iff
    rw [fresh.core] at nothing
    simpa using nothing
  · intro u v w before between after ready lost
    obtain ⟨there, -⟩ := (signalled before).isReady_iff.1 ready
    obtain ⟨t, core⟩ := Option.isSome_iff_exists.1 there
    obtain ⟨t', core', -⟩ := Life.core (fresh.inOrder.life before) core between
    -- The core is still there, so it must be the shutdown.
    have down : v.isCancelled .shutdown = true := by
      cases kept : v.isCancelled .shutdown with
      | true => rfl
      | false =>
        have still : v.core.isSome = true := by rw [core']; rfl
        rw [(signalled (before.trans between)).isReady_iff.2 ⟨still, kept⟩] at lost
        contradiction
    exact unready (after.isCancelled down)

/-- The small scheduler two milliseconds after its run has begun: its informer has reported, and its
factory is about to. -/
def smallAtTwo : Scheduler :=
  Machine.setNow 2 ((((small.beginRun (.context 0)).nudge .run).nudge (.task (.informer 0))).nudge
    (.task (.informer 0)))

/-- It is ready after the next turn of its run, until the shutdown comes. -/
theorem isReady_exact_small :
    (smallAtTwo.nudge .run).isReady = true ∧
      ∀ w, Life ((smallAtTwo.nudge .run).perform (.cancel .shutdown)).1 w → w.isReady = false := by
  have begun : Life small (small.beginRun (.context 0)) := .single (.begun (.context 0) rfl)
  have waited : Life small smallAtTwo :=
    (((begun.nudge .run).nudge (.task (.informer 0))).nudge (.task (.informer 0))).tail
      (.elapsed 2 (by decide))
  have turn : smallAtTwo.pollRun? = some (smallAtTwo.nudge .run) := rfl
  have serves : Life small (smallAtTwo.nudge .run) := waited.nudge .run
  have built : construct (.start ⟨"0", .epoch⟩) smallAssembly smallBuilder =
      (small.surroundings, .ok small) := rfl
  have succeeded : HasSucceeded small (smallAtTwo.nudge .run) :=
    ⟨smallAtTwo, _, waited, ⟨turn, .context 0, .awaitingFactory 0, rfl, rfl⟩, .refl⟩
  have kept : (smallAtTwo.nudge .run).isCancelled .shutdown = false :=
    (smallAtTwo.proceed_spec (.context 0) (.awaitingFactory 0)).1.isCancelled .shutdown
  have exactly := isReady_exact built
  refine ⟨(exactly.1 _ serves).1.2 ⟨succeeded, kept⟩, ?_⟩
  intro w after
  exact (exactly.2.2.1 _ w (serves.tail (.stirred (.asked (.cancel .shutdown) rfl)))
    (by simp [Scheduler.perform, Scheduler.isCancelled]) after).1

end Scheduler

end SchedulerHost.Host
