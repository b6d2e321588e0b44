import SchedulerHost.Host.Scheduler.Run
import SchedulerHost.Proofs.Gate.Reports

/-!
# A turn of the run

What a turn of the run comes to, as a function of what it finds.

* `Proceeds`: what the run leaves as it is, whatever it does.
* **Outlook** (`proceed_spec`): how a run is doing after its turn depends on the tokens, on the
  factory's report and on the feeds, and the gate is sealed once the factory has reported.
-/

namespace SchedulerHost.Host

open Feed (FeedId Gate)

/-- That a feed is running makes no difference to whether all are synced. -/
theorem allSynced_markRunning (g : Gate) (feed : FeedId) :
    (g.markRunning feed).2.allSynced = g.allSynced := by
  rw [Bool.eq_iff_iff, Gate.allSynced_iff, Gate.allSynced_iff]
  constructor
  · intro synced other entry found
    have there := synced other
    rw [Gate.getElem?_markRunning, found, Option.map_some] at there
    by_cases starts : feed = other ∧ entry.state = .notStarted
    · simp [starts] at there
    · simpa [starts] using there
  · intro synced other entry found
    rw [Gate.getElem?_markRunning, Option.map_eq_some_iff] at found
    obtain ⟨before, there, rfl⟩ := found
    have already := synced other before there
    simp [already]

namespace Scheduler

variable {w w' w'' : Scheduler}

/-- What the run leaves as it is, whatever it does in a turn. -/
structure Proceeds (w w' : Scheduler) : Prop where
  surroundings : w.surroundings.Extends w'.surroundings
  parts : w'.parts = w.parts
  builder : w'.builder = w.builder
  drivers : w'.drivers = w.drivers
  gate : GateOnward w.surroundings w.cache.gate w'.surroundings w'.cache.gate
  synced : w'.cache.gate.allSynced = w.cache.gate.allSynced
  stores : w'.cache.stores = w.cache.stores
  isSynced (feed : FeedId) : w'.cache.gate.isSynced feed = w.cache.gate.isSynced feed

theorem Proceeds.trans (first : Proceeds w w') (last : Proceeds w' w'') : Proceeds w w'' where
  surroundings := first.surroundings.trans last.surroundings
  parts := last.parts.trans first.parts
  builder := last.builder.trans first.builder
  drivers := last.drivers.trans first.drivers
  gate := first.gate.trans last.gate
  synced := last.synced.trans first.synced
  stores := last.stores.trans first.stores
  isSynced feed := (last.isSynced feed).trans (first.isSynced feed)

theorem Proceeds.of_surroundings (parts : w'.parts = w.parts) (builder : w'.builder = w.builder)
    (drivers : w'.drivers = w.drivers) (cache : w'.cache = w.cache)
    (h : w.surroundings.Extends w'.surroundings) : Proceeds w w' where
  surroundings := h
  parts := parts
  builder := builder
  drivers := drivers
  gate := by
    rw [cache]
    exact .of_surroundings (.of_extends h) _
  synced := by rw [cache]
  stores := by rw [cache]
  isSynced feed := by rw [cache]

theorem Proceeds.refl (w : Scheduler) : Proceeds w w :=
  .of_surroundings rfl rfl rfl rfl (.refl _)

theorem Proceeds.isCancelled (h : Proceeds w w') (token : Token) :
    w'.isCancelled token = w.isCancelled token :=
  h.surroundings.isCancelled token

/-- Whether the factory has reported is not for the run to say. -/
theorem Proceeds.factoryReported (h : Proceeds w w') (asked : Nat) :
    w'.factoryReported asked = w.factoryReported asked := by
  rw [Scheduler.factoryReported, Scheduler.factoryReported, h.parts, h.surroundings.now,
    h.isCancelled]

/-! ### The outlook of a run -/

/-- How a run is doing that serves. -/
def outlookServing (w : Scheduler) (ctx : Token) : RunState :=
  if w.isCancelled .shutdown then .returned w.surroundings.now (.ok ()) else .going ctx .serving

/-- How a run is doing whose factory has reported. -/
def outlookFeeds (w : Scheduler) (ctx : Token) : RunState :=
  if w.isCancelled ctx then .returned w.surroundings.now (.error .cacheSyncTimeout)
  else if w.cache.gate.allSynced then w.outlookServing ctx
  else .going ctx .awaitingFeeds

/-- How a run is doing whose factory has been asked. -/
def outlookFactory (w : Scheduler) (ctx : Token) (asked : Nat) : RunState :=
  if w.isCancelled ctx then .returned w.surroundings.now (.error .cacheSyncTimeout)
  else if w.factoryReported asked then w.outlookFeeds ctx
  else .going ctx (.awaitingFactory asked)

def outlook (w : Scheduler) (ctx : Token) : RunPhase → RunState
  | .entered =>
    if w.started then .returned w.surroundings.now (.error .alreadyStarted)
    else w.outlookFactory ctx w.surroundings.now
  | .awaitingFactory asked => w.outlookFactory ctx asked
  | .awaitingFeeds => w.outlookFeeds ctx
  | .serving => w.outlookServing ctx

theorem Proceeds.outlookServing (h : Proceeds w w') (ctx : Token) :
    w'.outlookServing ctx = w.outlookServing ctx := by
  rw [Scheduler.outlookServing, Scheduler.outlookServing, h.isCancelled, h.surroundings.now]

theorem Proceeds.outlookFeeds (h : Proceeds w w') (ctx : Token) :
    w'.outlookFeeds ctx = w.outlookFeeds ctx := by
  rw [Scheduler.outlookFeeds, Scheduler.outlookFeeds, h.isCancelled, h.surroundings.now, h.synced,
    h.outlookServing]

theorem Proceeds.outlookFactory (h : Proceeds w w') (ctx : Token) (asked : Nat) :
    w'.outlookFactory ctx asked = w.outlookFactory ctx asked := by
  rw [Scheduler.outlookFactory, Scheduler.outlookFactory, h.isCancelled, h.surroundings.now,
    h.factoryReported, h.outlookFeeds]

/-! ### The parts of a run, from its end to its beginning -/

theorem proceeds_note (w : Scheduler) (n : Notice) : Proceeds w (w.note n) :=
  .of_surroundings rfl rfl rfl rfl (.note _ _ _)

theorem proceeds_call (w : Scheduler) (c : Call) : Proceeds w (w.call c) :=
  .of_surroundings rfl rfl rfl rfl (.call _ _)

theorem proceeds_finish (w : Scheduler) (outcome : Except Error Unit) :
    Proceeds w (w.finish outcome) :=
  .of_surroundings rfl rfl rfl rfl (.refl _)

theorem proceeds_giveUp (w : Scheduler) : Proceeds w w.giveUp :=
  (proceeds_note w _).trans (proceeds_finish _ _)

/-- A run that serves goes on until the shutdown. -/
theorem serve_spec (w : Scheduler) (ctx : Token) :
    Proceeds w (w.serve ctx) ∧ (w.serve ctx).run = w.outlookServing ctx := by
  unfold serve outlookServing
  split
  · exact ⟨.of_surroundings rfl rfl rfl rfl (.note _ _ _), rfl⟩
  · exact ⟨.of_surroundings rfl rfl rfl rfl (.refl _), rfl⟩

theorem proceeds_admitCore (w : Scheduler) : Proceeds w w.admitCore :=
  .of_surroundings rfl rfl rfl rfl (.note _ _ _)

/-- A run that waits for the feeds looks at its token first. -/
theorem awaitFeeds_spec (w : Scheduler) (ctx : Token) :
    Proceeds w (w.awaitFeeds ctx) ∧ (w.awaitFeeds ctx).run = w.outlookFeeds ctx := by
  unfold awaitFeeds outlookFeeds
  split
  · exact ⟨proceeds_giveUp w, rfl⟩
  · split
    · obtain ⟨proceeds, run⟩ := serve_spec w.admitCore ctx
      refine ⟨(proceeds_admitCore w).trans proceeds, ?_⟩
      rw [run, (proceeds_admitCore w).outlookServing]
    · exact ⟨.of_surroundings rfl rfl rfl rfl (.refl _), rfl⟩

/-- Taking the report seals the gate, and may be noted. -/
theorem exists_takeReport (w : Scheduler) :
    ∃ s, w.surroundings.Extends s ∧
      w.takeReport =
        { w with surroundings := s, cache := { w.cache with gate := w.cache.gate.beginWait } } := by
  unfold takeReport
  dsimp only
  split
  · exact ⟨w.surroundings, .refl _, rfl⟩
  · exact ⟨_, .note _ _ _, rfl⟩

/-- A report that nothing is unsynced is not noted. -/
theorem takeReport_of_synced (synced : w.parts.informerFactory.unsynced = []) :
    w.takeReport = { w with cache := { w.cache with gate := w.cache.gate.beginWait } } := by
  simp only [takeReport, synced, if_true]

theorem proceeds_takeReport (w : Scheduler) : Proceeds w w.takeReport := by
  obtain ⟨s, told, same⟩ := w.exists_takeReport
  rw [same]
  exact ⟨told, rfl, rfl, rfl,
    (gateOnward_beginWait _ _).trans (.of_surroundings (.of_extends told) _), rfl, rfl,
    fun _ => rfl⟩

/-- To take the report seals the gate. -/
theorem isSealed_takeReport (w : Scheduler) : w.takeReport.cache.gate.isSealed = true := by
  obtain ⟨s, -, same⟩ := w.exists_takeReport
  rw [same]
  rfl

/-- What a turn comes to that may take the report of the factory. -/
structure Turns (w w' : Scheduler) (run : RunState) (ctx : Token) (asked : Nat) : Prop where
  proceeds : Proceeds w w'
  run : w'.run = run
  isSealed : w.isCancelled ctx = false → w.factoryReported asked = true →
    w'.cache.gate.isSealed = true

/-- A run that waits for its factory looks at its token first, and at the feeds in the same turn. -/
theorem awaitFactory_spec (w : Scheduler) (ctx : Token) (asked : Nat) :
    Turns w (w.awaitFactory ctx asked) (w.outlookFactory ctx asked) ctx asked := by
  unfold awaitFactory outlookFactory
  split
  · next cancelled =>
    refine ⟨proceeds_giveUp w, rfl, ?_⟩
    intro kept
    rw [cancelled] at kept
    contradiction
  · split
    · obtain ⟨proceeds, run⟩ := awaitFeeds_spec w.takeReport ctx
      refine ⟨(proceeds_takeReport w).trans proceeds, ?_, ?_⟩
      · rw [run, (proceeds_takeReport w).outlookFeeds]
      · intro _ _
        exact proceeds.gate.grows.isSealed w.isSealed_takeReport
    · next unreported =>
      exact ⟨.of_surroundings rfl rfl rfl rfl (.refl _), rfl,
        fun _ there => absurd there unreported⟩

theorem awaitCaches_spec (w : Scheduler) (ctx : Token) :
    Turns w (w.awaitCaches ctx) (w.outlookFactory ctx w.surroundings.now) ctx
      w.surroundings.now := by
  unfold awaitCaches
  split
  · next cancelled =>
    refine ⟨proceeds_giveUp w, ?_, ?_⟩
    · rw [outlookFactory, if_pos cancelled]
      rfl
    · intro kept
      rw [cancelled] at kept
      contradiction
  · have asks := proceeds_call w .factoryWait
    have turns := awaitFactory_spec (w.call .factoryWait) ctx w.surroundings.now
    refine ⟨asks.trans turns.proceeds, ?_, fun kept there => turns.isSealed kept there⟩
    rw [turns.run, asks.outlookFactory]

theorem proceeds_startRecording (w : Scheduler) : Proceeds w w.startRecording := by
  unfold startRecording
  split
  · split
    · exact .of_surroundings rfl rfl rfl rfl (.refl _)
    · exact proceeds_note w _
  · exact .refl w

theorem proceeds_launchInformer (w : Scheduler) (d : Driver) : Proceeds w (w.launchInformer d) :=
  ⟨.refl _, rfl, rfl, rfl, gateOnward_markRunning _ _ d.informer.feed,
    allSynced_markRunning _ _, rfl, fun _ => Gate.isSynced_markRunning _ _ _⟩

theorem proceeds_launchInformers (w : Scheduler) (ds : List Driver) :
    Proceeds w (ds.foldl launchInformer w) := by
  induction ds generalizing w with
  | nil => exact .refl w
  | cons d ds ih => exact (proceeds_launchInformer w d).trans (ih _)

/-- All that a first run launches at once. -/
def launchAll (w : Scheduler) : Scheduler :=
  let w := { w with started := true }.startRecording
  let w := (w.drivers.foldl launchInformer w).call .factoryStart
  w.note (.awaitingCaches w.drivers.length)

theorem enter_of_fresh (fresh : w.started = false) (ctx : Token) :
    w.enter ctx = w.launchAll.awaitCaches ctx := by
  rw [enter, fresh]
  rfl

theorem proceeds_launchAll (w : Scheduler) : Proceeds w w.launchAll := by
  have begins : Proceeds w { w with started := true } :=
    .of_surroundings rfl rfl rfl rfl (.refl _)
  have records := begins.trans (proceeds_startRecording _)
  have informs := records.trans
    (proceeds_launchInformers _ { w with started := true }.startRecording.drivers)
  exact informs.trans ((proceeds_call _ .factoryStart).trans (proceeds_note _ _))

/-- A first run launches all there is, and begins to wait in the same turn. -/
theorem enter_spec (fresh : w.started = false) (ctx : Token) :
    Turns w (w.enter ctx) (w.outlookFactory ctx w.surroundings.now) ctx w.surroundings.now := by
  have launches := proceeds_launchAll w
  have turns := awaitCaches_spec w.launchAll ctx
  rw [enter_of_fresh fresh]
  rw [launches.surroundings.now, launches.outlookFactory] at turns
  refine ⟨launches.trans turns.proceeds, turns.run, ?_⟩
  intro kept there
  apply turns.isSealed
  · rw [launches.isCancelled]
    exact kept
  · rw [launches.factoryReported]
    exact there

/-! ### The turn as a whole -/

/-- The moment at which the factory was asked that a run waits for, or will be asked now. -/
def askedAt (w : Scheduler) : RunPhase → Option Nat
  | .entered => if w.started then none else some w.surroundings.now
  | .awaitingFactory asked => some asked
  | _ => none

/-- **Outlook.** How a run is doing after its turn depends on what it finds. -/
theorem proceed_spec (w : Scheduler) (ctx : Token) (phase : RunPhase) :
    Proceeds w (w.proceed ctx phase) ∧ (w.proceed ctx phase).run = w.outlook ctx phase ∧
      ∀ asked ∈ w.askedAt phase, w.isCancelled ctx = false → w.factoryReported asked = true →
        (w.proceed ctx phase).cache.gate.isSealed = true := by
  cases phase with
  | entered =>
    cases fresh : w.started with
    | true =>
      simp only [proceed, enter, fresh, outlook, askedAt, if_true]
      exact ⟨(proceeds_note w _).trans (proceeds_finish _ _), rfl, fun _ asks => by cases asks⟩
    | false =>
      have turns := enter_spec fresh ctx
      simp only [proceed, outlook, askedAt, fresh, Bool.false_eq_true, if_false]
      refine ⟨turns.proceeds, turns.run, ?_⟩
      intro asked asks
      obtain rfl := Option.mem_some_iff.1 asks
      exact turns.isSealed
  | awaitingFactory asked =>
    have turns := awaitFactory_spec w ctx asked
    refine ⟨turns.proceeds, turns.run, ?_⟩
    intro asked' asks
    obtain rfl := Option.mem_some_iff.1 asks
    exact turns.isSealed
  | awaitingFeeds =>
    obtain ⟨proceeds, run⟩ := awaitFeeds_spec w ctx
    exact ⟨proceeds, run, fun _ asks => by cases asks⟩
  | serving =>
    obtain ⟨proceeds, run⟩ := serve_spec w ctx
    exact ⟨proceeds, run, fun _ asks => by cases asks⟩

/-- A step of the run is taken when what it waits for is there. -/
theorem exists_of_pollRun? (next : w.pollRun? = some w') :
    ∃ ctx phase, w.run = .going ctx phase ∧ w.runCanProceed ctx phase = true ∧
      w' = w.proceed ctx phase := by
  unfold pollRun? at next
  split at next
  · next ctx phase going =>
    rw [Option.ite_none_right_eq_some, Option.some.injEq] at next
    exact ⟨ctx, phase, going, next.1, next.2.symm⟩
  · contradiction

end Scheduler

end SchedulerHost.Host
