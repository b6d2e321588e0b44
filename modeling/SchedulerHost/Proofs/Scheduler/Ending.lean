import SchedulerHost.Proofs.Scheduler.Attaining

/-!
# The end of a run

Where everything has come to rest after the shutdown, a run has returned, or it waits at the gate
for a feed that is not synced: nothing but the token of the run bounds the wait for the caches, and
an informer may stop without ever having reported.

* **The end** (`ended_or_unsynced`): the only thing a run can wait for after the shutdown.
* `stranded_waits`: a run that waits for good, since its only informer has stopped at the shutdown
  without having reported.
-/

namespace SchedulerHost.Host

namespace Scheduler

variable {w : Scheduler} {ctx : Token}

/-- A run that can take no step after the shutdown waits for its feeds, if the informer factory
reports at the shutdown. -/
theorem waits_of_stuck {phase : RunPhase} (heeds : w.parts.informerFactory.heedsShutdown = true)
    (down : w.isCancelled .shutdown = true) (going : w.run = .going ctx phase)
    (stuck : w.pollRun? = none) :
    phase = .awaitingFeeds ∧ w.isCancelled ctx = false ∧ w.cache.gate.allSynced = false := by
  have unable : w.runCanProceed ctx phase = false := by simpa [pollRun?, going] using stuck
  -- In every other phase the run heeds the shutdown.
  cases phase with
  | entered => contradiction
  | awaitingFactory asked =>
    have reported : w.factoryReported asked = true := by
      simp [factoryReported, InformerFactory.hasReported, heeds, down]
    simp [runCanProceed, reported] at unable
  | awaitingFeeds => exact ⟨rfl, by simpa [runCanProceed] using unable⟩
  | serving =>
    rw [runCanProceed, down] at unable
    contradiction

/-- The run has returned, or it waits at the gate for a registered feed that is not synced. -/
def EndedOrUnsynced (w : Scheduler) : Prop :=
  (∃ time outcome, w.run = .returned time outcome) ∨
    ∃ ctx feed state, w.run = .going ctx .awaitingFeeds ∧ w.isCancelled ctx = false ∧
      w.cache.gate.state? feed = some state ∧ state ≠ .synced

/-- Where the factory heeds the shutdown, a run at rest after it has returned or waits for a feed
that is not synced. -/
theorem Life.endedOrUnsynced {w₀ : Scheduler} (life : Life w₀ w)
    (heeds : w₀.parts.informerFactory.heedsShutdown = true)
    (down : w.isCancelled .shutdown = true) (rest : ∀ a, w.poll? a = none)
    (begun : w.run ≠ .idle) : EndedOrUnsynced w := by
  cases run : w.run with
  | idle => exact absurd run begun
  | returned time outcome => exact .inl ⟨time, outcome, run⟩
  | going ctx phase =>
    have same := life.parts.1
    rw [← same] at heeds
    obtain ⟨rfl, kept, waits⟩ := waits_of_stuck heeds down run (rest .run)
    obtain ⟨feed, entry, found, unsynced⟩ := Feed.Gate.allSynced_eq_false_iff.1 waits
    have state := Feed.Gate.state?_eq_some_iff.2 ⟨entry, found, rfl⟩
    exact .inr ⟨ctx, feed, entry.state, run, kept, state, unsynced⟩

/-- **The end.** Where nobody can take a step after the shutdown, a run that was begun has returned,
unless it waits at the gate for a registered feed that is not synced. It comes to that as soon as
everybody has had a turn, and without the passing of time. -/
theorem ended_or_unsynced {s s' : Surroundings} {assembly : Assembly} {builder : Builder}
    {w₀ : Scheduler} (built : construct s assembly builder = (s', .ok w₀))
    (heeds : w₀.parts.informerFactory.heedsShutdown = true) :
    (∀ w, Life w₀ w → w.isCancelled .shutdown = true → (∀ a, w.poll? a = none) → w.run ≠ .idle →
      EndedOrUnsynced w) ∧
    ∀ w, Attained w₀ w → (Machine.settle w).isCancelled .shutdown = true →
      (Machine.settle w).run ≠ .idle →
      (Machine.settle w).surroundings.now = w.surroundings.now ∧
        EndedOrUnsynced (Machine.settle w) := by
  refine ⟨fun w life down rest begun => life.endedOrUnsynced heeds down rest begun, ?_⟩
  intro w attained down begun
  have fresh := fresh_of_construct built
  have sound := sound_reached fresh
  obtain ⟨reached, roused⟩ := attained.reached fresh
  -- Whoever can go on has been woken, so nobody can once the scheduler has settled.
  obtain ⟨settled, unmoved, -⟩ := sound.settle_facts reached roused
  have still := sound.still_settle reached roused
  have rest (a : Agent) : (Machine.settle w).poll? a = none := by
    have unable : ((Machine.settle w).poll? a).isSome = false := still.unable a
    simpa using unable
  exact ⟨unmoved, settled.life.endedOrUnsynced heeds down rest begun⟩

/-! ### Two runs -/

/-- A factory that reports at the shutdown, and one informer with its script. -/
def heedfulAssembly (script : List (Action FeedAction)) : Assembly :=
  { smallAssembly with
    informerFactory := some ⟨[], none, true⟩, podInformer := some ⟨"pods", script⟩ }

/-- What is constructed of it, with a core that does nothing. -/
def heedful (script : List (Action FeedAction)) : Scheduler :=
  match (construct (.start ⟨"0", .epoch⟩) (heedfulAssembly script) ⟨none, "scheduler", []⟩).2 with
  | .ok w => w
  | .error _ => small

theorem construct_heedful (script : List (Action FeedAction)) :
    construct (.start ⟨"0", .epoch⟩) (heedfulAssembly script) ⟨none, "scheduler", []⟩ =
      ((heedful script).surroundings, .ok (heedful script)) := rfl

/-- Its run waits for the report of the factory when the shutdown comes, and its informer goes on
until it has stopped. -/
def shutDown (script : List (Action FeedAction)) : Scheduler :=
  let w := (((heedful script).beginRun (.context 0)).nudge .run).nudge (.task (.informer 0))
  ((w.perform (.cancel .shutdown)).1.nudge (.task (.informer 0))).nudge (.task (.informer 0))

/-- The factory has reported, and the core has stopped, if it was launched. -/
def atRest (script : List (Action FeedAction)) : Scheduler :=
  let w := shutDown script
  let w := { w with cache := { w.cache with gate := w.cache.gate.beginWait } }
  ((w.awaitFeeds (.context 0)).nudge (.task .core)).nudge (.task .core)

theorem life_atRest {script : List (Action FeedAction)}
    (all : (shutDown script).parts.informerFactory.report = [])
    (reports : (shutDown script).pollRun? =
      some ((shutDown script).takeReport.awaitFeeds (.context 0))) :
    Life (heedful script) (atRest script) := by
  have begun : Life (heedful script) ((heedful script).beginRun (.context 0)) :=
    .single (.begun (.context 0) rfl)
  have started := (begun.nudge .run).nudge (.task (.informer 0))
  have cancelled : Life (heedful script) _ :=
    started.tail (.stirred (.asked (.cancel .shutdown) rfl))
  have stopped : Life (heedful script) (shutDown script) :=
    (cancelled.nudge (.task (.informer 0))).nudge (.task (.informer 0))
  rw [takeReport_of_synced (by simp [InformerFactory.unsynced, all])] at reports
  have reported : Life (heedful script) _ := stopped.tail (.stirred (.polled .run reports))
  exact (reported.nudge (.task .core)).nudge (.task .core)

/-- The informer has reported when the shutdown comes: the run has returned. -/
theorem ended_or_unsynced_synced :
    EndedOrUnsynced (atRest [.act .sync]) ∧ (atRest [.act .sync]).run = .returned 0 (.ok ()) := by
  have rest (a : Agent) : (atRest [.act .sync]).poll? a = none := by
    match a with
    | .run | .task .recording | .task (.informer 0) | .task (.informer (i + 1)) | .task .core => rfl
  have returned : (atRest [.act .sync]).run = .returned 0 (.ok ()) := rfl
  have begun : (atRest [.act .sync]).run ≠ .idle := by simp [returned]
  exact ⟨(ended_or_unsynced (construct_heedful [.act .sync]) rfl).1 _ (life_atRest rfl rfl) rfl rest
    begun, returned⟩

/-- The informer stops at the shutdown without having reported: nobody can take a step any more, no
time will change that, and the run has not returned. -/
theorem stranded_waits :
    construct (.start ⟨"0", .epoch⟩) (heedfulAssembly [.untilShutdown]) ⟨none, "scheduler", []⟩ =
      ((heedful [.untilShutdown]).surroundings, .ok (heedful [.untilShutdown])) ∧
    (heedful [.untilShutdown]).parts.informerFactory.heedsShutdown = true ∧
    Life (heedful [.untilShutdown]) (atRest [.untilShutdown]) ∧
    (∀ t ∈ (atRest [.untilShutdown]).informers, t.play.fate = .ended) ∧
    (atRest [.untilShutdown]).isCancelled .shutdown = true ∧
    (atRest [.untilShutdown]).isCancelled (.context 0) = false ∧
    (∀ a, (atRest [.untilShutdown]).poll? a = none) ∧ (atRest [.untilShutdown]).alarms = [] ∧
    (atRest [.untilShutdown]).run = .going (.context 0) .awaitingFeeds := by
  have rest (a : Agent) : (atRest [.untilShutdown]).poll? a = none := by
    match a with
    | .run | .task .recording | .task (.informer 0) | .task (.informer (i + 1)) | .task .core => rfl
  exact ⟨rfl, rfl, life_atRest rfl rfl, by decide, rfl, rfl, rest, rfl, rfl⟩

end Scheduler

end SchedulerHost.Host
