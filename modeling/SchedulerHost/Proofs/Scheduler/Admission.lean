import SchedulerHost.Proofs.Scheduler.Construction
import SchedulerHost.Proofs.Scheduler.Life
import SchedulerHost.Proofs.Scheduler.Turn

/-!
# The admission of the core

When the core is invoked, and on what, in the whole life of a scheduler.

* `Orderly`: what is launched has been launched in order. The core is there only once the gate is
  sealed, the factory has reported and all feeds are synced, and has been handed all feeds.
* **Order** (`InOrder.step`): the invariant, kept by whatever happens.
* **Admission** (`core_admission`): the core is invoked at most once, on all feeds and on their very
  stores, and never by a scheduler that has given up waiting.
-/

namespace SchedulerHost.Host

open Feed (FeedId Gate)
open Relation (ReflTransGen)

namespace Scheduler

/-- The factory has been asked, since the journal had a number of entries, and has reported. -/
def HasReport (mark : Nat) (w : Scheduler) : Prop :=
  ∃ asked, Entry.mk asked (.call .factoryWait) ∈ w.surroundings.entriesSince mark ∧
    w.factoryReported asked = true

/-- The core may be there, with a snapshot of the feeds. -/
structure Admits (mark : Nat) (w : Scheduler) (feeds : List (FeedId × Nat)) : Prop where
  isSealed : w.cache.gate.isSealed = true
  synced : w.cache.gate.allSynced = true
  reported : HasReport mark w
  exact (feed : FeedId) (store : Nat) : (feed, store) ∈ feeds ↔ w.cache.gate.Binds feed store

/-- What is launched has been launched in order, and writes to the store of its feed. -/
structure Orderly (mark : Nat) (w : Scheduler) : Prop where
  unstarted : w.started = false → w.core = none ∧ w.informers = []
  core (t : CoreTask) : w.core = some t → w.started = true ∧ Admits mark w t.feeds
  noted : AllNoted mark w.surroundings w.cache.gate
  drivers : ∀ d ∈ w.drivers, w.cache.gate.Binds d.informer.feed d.store
  informers : ∀ t ∈ w.informers, w.cache.gate.Binds t.feed t.store

/-- How a run may be doing: before it serves, the core is not there. -/
def RunOrder (mark : Nat) (w : Scheduler) : RunState → Prop
  | .going _ (.awaitingFactory asked) =>
    w.started = true ∧ w.core = none ∧
      Entry.mk asked (.call .factoryWait) ∈ w.surroundings.entriesSince mark
  | .going _ .awaitingFeeds =>
    w.started = true ∧ w.core = none ∧ w.cache.gate.isSealed = true ∧ HasReport mark w
  | .returned _ (.error .cacheSyncTimeout) => w.started = true ∧ w.core = none
  | _ => True

/-- All is in order, the run as well. -/
structure InOrder (mark : Nat) (w : Scheduler) : Prop where
  orderly : Orderly mark w
  run : RunOrder mark w w.run

variable {mark : Nat} {w w' : Scheduler}

/-! ### Frames -/

theorem Frame.core_eq_none (frame : Frame w w') (h : w.core = none) : w'.core = none := by
  have same := frame.feeds
  rw [h] at same
  simpa using same

theorem HasReport.frame (h : HasReport mark w) (frame : Frame w w') : HasReport mark w' := by
  obtain ⟨asked, there, reported⟩ := h
  exact ⟨asked, frame.gate.surroundings.mem_entriesSince there, frame.factoryReported reported⟩

/-- Around a change the core keeps the snapshot that it was given. -/
theorem Admits.frame {feeds : List (FeedId × Nat)} (h : Admits mark w feeds)
    (frame : Frame w w') : Admits mark w' feeds where
  isSealed := frame.gate.grows.isSealed h.isSealed
  synced := frame.gate.grows.allSynced h.isSealed h.synced
  reported := h.reported.frame frame
  exact feed store := by rw [h.exact, frame.gate.grows.binds_iff h.isSealed]

/-- What has been launched in order is in order around a change. -/
theorem Orderly.frame (h : Orderly mark w) (frame : Frame w w')
    (started : w'.started = w.started) : Orderly mark w' where
  unstarted fresh := by
    rw [started] at fresh
    obtain ⟨core, informers⟩ := h.unstarted fresh
    have same := frame.informers
    rw [informers] at same
    exact ⟨frame.core_eq_none core, by simpa using same⟩
  core t there := by
    have same := frame.feeds
    rw [there, Option.map_some, eq_comm, Option.map_eq_some_iff] at same
    obtain ⟨t', there', feeds⟩ := same
    obtain ⟨begun, admits⟩ := h.core t' there'
    rw [started, ← feeds]
    exact ⟨begun, admits.frame frame⟩
  noted := frame.gate.noted mark h.noted
  drivers d there := by
    rw [frame.drivers] at there
    exact (h.drivers d there).grows frame.gate.grows
  informers t there := by
    have port : (t.feed, t.store) ∈ w'.informers.map fun t => (t.feed, t.store) :=
      List.mem_map.2 ⟨t, there, rfl⟩
    rw [frame.informers, List.mem_map] at port
    obtain ⟨t', there', same⟩ := port
    simp only [Prod.mk.injEq] at same
    rw [← same.1, ← same.2]
    exact (h.informers t' there').grows frame.gate.grows

theorem RunOrder.frame {run : RunState} (h : RunOrder mark w run) (frame : Frame w w')
    (started : w'.started = w.started) : RunOrder mark w' run := by
  unfold RunOrder at h ⊢
  split
  · obtain ⟨begun, core, there⟩ := h
    exact ⟨started.trans begun, frame.core_eq_none core,
      frame.gate.surroundings.mem_entriesSince there⟩
  · obtain ⟨begun, core, closed, reported⟩ := h
    exact ⟨started.trans begun, frame.core_eq_none core, frame.gate.grows.isSealed closed,
      reported.frame frame⟩
  · obtain ⟨begun, core⟩ := h
    exact ⟨started.trans begun, frame.core_eq_none core⟩
  · trivial

/-! ### The run -/

/-- A run has begun and has not come to the core. -/
structure Unadmitted (mark : Nat) (w : Scheduler) : Prop where
  orderly : Orderly mark w
  started : w.started = true
  core : w.core = none

theorem Unadmitted.frame (h : Unadmitted mark w) (frame : Frame w w')
    (started : w'.started = w.started) : Unadmitted mark w' :=
  ⟨h.orderly.frame frame started, started.trans h.started, frame.core_eq_none h.core⟩

theorem frame_run (w : Scheduler) (run : RunState) : Frame w { w with run := run } :=
  .of_gate rfl rfl rfl rfl rfl (.of_surroundings (.refl _) _)

theorem frame_call (w : Scheduler) (c : Call) : Frame w (w.call c) :=
  .of_gate rfl rfl rfl rfl rfl (.of_surroundings (.of_extends (.call _ _)) _)

theorem frame_takeReport (w : Scheduler) :
    Frame w w.takeReport ∧ w.takeReport.started = w.started := by
  obtain ⟨s, told, same⟩ := w.exists_takeReport
  rw [same]
  exact ⟨.of_gate rfl rfl rfl rfl rfl
    ((gateOnward_beginWait _ _).trans (.of_surroundings (.of_extends told) _)), rfl⟩

theorem frame_startRecording (w : Scheduler) :
    Frame w w.startRecording ∧ w.startRecording.started = w.started := by
  unfold startRecording
  split
  · split
    · exact ⟨.of_gate rfl rfl rfl rfl rfl (.of_surroundings (.refl _) _), rfl⟩
    · exact ⟨(aside_note w _).frame, rfl⟩
  · exact ⟨(Aside.refl w).frame, rfl⟩

/-- To give up keeps the order, since no core is there. -/
theorem inOrder_giveUp (h : Unadmitted mark w) : InOrder mark w.giveUp := by
  have later : Unadmitted mark w.giveUp :=
    h.frame ((aside_note w _).frame.trans (frame_run _ _)) rfl
  exact ⟨later.orderly, later.started, later.core⟩

/-- Serving changes nothing but the run. -/
theorem inOrder_serve (h : Orderly mark w) (ctx : Token) : InOrder mark (w.serve ctx) := by
  unfold serve
  split
  · refine ⟨h.frame ?_ rfl, trivial⟩
    exact .of_gate rfl rfl rfl rfl rfl (.of_surroundings (.of_extends (.note _ _ _)) _)
  · exact ⟨h.frame (frame_run w _) rfl, trivial⟩

/-- The core is handed all feeds of a gate that is sealed and synced. -/
theorem orderly_admitCore (h : Unadmitted mark w) (closed : w.cache.gate.isSealed = true)
    (reported : HasReport mark w) (synced : w.cache.gate.allSynced = true) :
    Orderly mark w.admitCore := by
  have noted := (aside_note w (.cachesSynced w.cache.gate.snapshot.length)).frame
  have admits : Admits mark w w.cache.gate.snapshot := by
    refine ⟨closed, synced, reported, ?_⟩
    intro feed store
    rw [Gate.mem_snapshot_iff]
    constructor
    · exact fun found => ⟨_, found, rfl⟩
    · -- The snapshot has only feeds that are synced, but here all are.
      rintro ⟨⟨state, store⟩, found, rfl⟩
      obtain rfl : state = .synced := Gate.allSynced_iff.1 synced feed _ found
      exact found
  have later := h.orderly.frame noted rfl
  refine ⟨?_, ?_, later.noted, later.drivers, later.informers⟩
  · intro fresh
    change w.started = false at fresh
    rw [h.started] at fresh
    contradiction
  · intro t there
    obtain rfl : CoreTask.launch w.builder w.cache.gate.snapshot = t := by
      simpa [admitCore, launched, note] using there
    have kept := admits.frame noted
    exact ⟨h.started, kept.isSealed, kept.synced, kept.reported, kept.exact⟩

/-- Behind the seal and after the report, a run that waits for the feeds keeps the order. -/
theorem inOrder_awaitFeeds (h : Unadmitted mark w) (closed : w.cache.gate.isSealed = true)
    (reported : HasReport mark w) (ctx : Token) : InOrder mark (w.awaitFeeds ctx) := by
  unfold awaitFeeds
  split
  · exact inOrder_giveUp h
  · split
    · next synced => exact inOrder_serve (orderly_admitCore h closed reported synced) ctx
    · have later := h.frame (frame_run w (.going ctx .awaitingFeeds)) rfl
      exact ⟨later.orderly, later.started, later.core, closed, reported.frame (frame_run w _)⟩

/-- A run whose factory has been asked keeps the order while it waits for the report. -/
theorem inOrder_awaitFactory (h : Unadmitted mark w) {asked : Nat}
    (there : Entry.mk asked (.call .factoryWait) ∈ w.surroundings.entriesSince mark)
    (ctx : Token) : InOrder mark (w.awaitFactory ctx asked) := by
  unfold awaitFactory
  split
  · exact inOrder_giveUp h
  · split
    · next reported =>
      obtain ⟨frame, started⟩ := frame_takeReport w
      exact inOrder_awaitFeeds (h.frame frame started) w.isSealed_takeReport
        (HasReport.frame ⟨asked, there, reported⟩ frame) ctx
    · have later := h.frame (frame_run w (.going ctx (.awaitingFactory asked))) rfl
      exact ⟨later.orderly, later.started, later.core, there⟩

theorem inOrder_awaitCaches (h : Unadmitted mark w) (ctx : Token) :
    InOrder mark (w.awaitCaches ctx) := by
  unfold awaitCaches
  split
  · exact inOrder_giveUp h
  · apply inOrder_awaitFactory (h.frame (frame_call w .factoryWait) rfl)
    exact Surroundings.mem_entriesSince_of_cons rfl h.orderly.noted.old

theorem unadmitted_launchInformer (h : Unadmitted mark w) {d : Driver}
    (bound : w.cache.gate.Binds d.informer.feed d.store) :
    Unadmitted mark (w.launchInformer d) := by
  have gate := gateOnward_markRunning w.surroundings w.cache.gate d.informer.feed
  refine ⟨⟨?_, ?_, gate.noted mark h.orderly.noted, ?_, ?_⟩, h.started, h.core⟩
  · intro fresh
    change w.started = false at fresh
    rw [h.started] at fresh
    contradiction
  · intro t there
    change w.core = some t at there
    rw [h.core] at there
    contradiction
  · exact fun d' there => (h.orderly.drivers d' there).grows gate.grows
  · intro t there
    change t ∈ w.informers ++ [(d.launch w.cache .shutdown).1] at there
    rcases List.mem_append.1 there with before | last
    · exact (h.orderly.informers t before).grows gate.grows
    · obtain rfl := List.mem_singleton.1 last
      exact bound.grows gate.grows

theorem unadmitted_launchInformers {ds : List Driver} (h : Unadmitted mark w)
    (bound : ∀ d ∈ ds, w.cache.gate.Binds d.informer.feed d.store) :
    Unadmitted mark (ds.foldl launchInformer w) := by
  induction ds generalizing w with
  | nil => exact h
  | cons d ds ih =>
    apply ih (unadmitted_launchInformer h (bound d List.mem_cons_self))
    intro d' there
    exact (bound d' (List.mem_cons_of_mem _ there)).grows (Gate.grows_markRunning _ _)

/-- What a first run launches at once does not include the core. -/
theorem unadmitted_launchAll (h : Orderly mark w) (fresh : w.started = false) :
    Unadmitted mark w.launchAll := by
  obtain ⟨core, informers⟩ := h.unstarted fresh
  have begins : Unadmitted mark { w with started := true } := by
    refine ⟨⟨?_, ?_, h.noted, h.drivers, h.informers⟩, rfl, core⟩
    · intro never
      contradiction
    · intro t there
      rw [core] at there
      contradiction
  obtain ⟨frame, started⟩ := frame_startRecording { w with started := true }
  have records := begins.frame frame started
  have informs := unadmitted_launchInformers records records.orderly.drivers
  exact (informs.frame (frame_call _ .factoryStart) rfl).frame (aside_note _ _).frame rfl

/-- The first step of a run keeps the order, whether it is the first run or is refused. -/
theorem inOrder_enter (h : Orderly mark w) (ctx : Token) : InOrder mark (w.enter ctx) := by
  cases started : w.started with
  | true =>
    rw [enter, if_pos started]
    exact ⟨h.frame ((aside_note w _).frame.trans (frame_run _ _)) rfl, trivial⟩
  | false =>
    rw [enter_of_fresh started]
    exact inOrder_awaitCaches (unadmitted_launchAll h started) ctx

/-! ### Order -/

/-- **Order.** Whatever happens, all stays in order. -/
theorem InOrder.step (h : InOrder mark w) (step : Step w w') : InOrder mark w' := by
  rcases step.cases with turn | ⟨ctx, -, rfl⟩ | aside
  · obtain ⟨ctx, phase, going, -, rfl⟩ := exists_of_pollRun? turn
    have run := h.run
    rw [going] at run
    cases phase with
    | entered => exact inOrder_enter h.orderly ctx
    | awaitingFactory asked =>
      obtain ⟨started, core, there⟩ := run
      exact inOrder_awaitFactory ⟨h.orderly, started, core⟩ there ctx
    | awaitingFeeds =>
      obtain ⟨started, core, closed, reported⟩ := run
      exact inOrder_awaitFeeds ⟨h.orderly, started, core⟩ closed reported ctx
    | serving => exact inOrder_serve h.orderly ctx
  · refine ⟨h.orderly.frame ?_ rfl, trivial⟩
    exact .of_gate rfl rfl rfl rfl rfl (.of_surroundings (.refl _) _)
  · refine ⟨h.orderly.frame aside.frame aside.started, ?_⟩
    rw [aside.run]
    exact h.run.frame aside.frame aside.started

/-- Order is kept for life. -/
theorem InOrder.life (h : InOrder mark w) (life : Life w w') : InOrder mark w' := by
  induction life with
  | refl => exact h
  | tail _ step ih => exact ih.step step

/-- What is constructed is in order. -/
theorem Fresh.inOrder (fresh : Fresh w) : InOrder w.surroundings.journal.length w := by
  refine ⟨⟨fun _ => ⟨fresh.core, fresh.informers⟩, ?_, ⟨Nat.le_refl _, ?_⟩, fresh.binds, ?_⟩, ?_⟩
  · intro t there
    rw [fresh.core] at there
    contradiction
  · exact fun feed synced => absurd synced (fresh.unsynced feed)
  · rw [fresh.informers]
    exact fun t there => (List.not_mem_nil there).elim
  · rw [fresh.run]
    trivial

/-! ### What stays -/

theorem Step.grows (step : Step w w') : w.cache.gate.Grows w'.cache.gate := by
  rcases step.cases with turn | ⟨ctx, -, rfl⟩ | aside
  · obtain ⟨ctx, phase, -, -, rfl⟩ := exists_of_pollRun? turn
    exact (w.proceed_spec ctx phase).1.gate.grows
  · exact .refl _
  · exact aside.gate.grows

/-- The parts and the drivers are settled by the construction. -/
theorem Life.parts (life : Life w w') : w'.parts = w.parts ∧ w'.drivers = w.drivers := by
  induction life with
  | refl => exact ⟨rfl, rfl⟩
  | @tail v v' before step ih =>
    rcases step.cases with turn | ⟨ctx, -, rfl⟩ | aside
    · obtain ⟨ctx, phase, -, -, rfl⟩ := exists_of_pollRun? turn
      have proceeds := (v.proceed_spec ctx phase).1
      exact ⟨proceeds.parts.trans ih.1, proceeds.drivers.trans ih.2⟩
    · exact ih
    · exact ⟨aside.parts.trans ih.1, aside.drivers.trans ih.2⟩

theorem Life.grows (life : Life w w') : w.cache.gate.Grows w'.cache.gate := by
  induction life with
  | refl => exact .refl _
  | tail _ step ih => exact ih.trans step.grows

theorem core_serve (w : Scheduler) (ctx : Token) : (w.serve ctx).core = w.core := by
  unfold serve
  split <;> rfl

/-- The run does not touch a core that is there. -/
theorem core_of_turn (h : InOrder mark w) {t : CoreTask} (there : w.core = some t)
    (turn : w.pollRun? = some w') : w'.core = some t := by
  obtain ⟨ctx, phase, going, -, rfl⟩ := exists_of_pollRun? turn
  have run := h.run
  rw [going] at run
  have started := (h.orderly.core t there).1
  cases phase with
  | entered =>
    rw [proceed, enter, if_pos started]
    exact there
  -- A run that waits for the caches has not admitted a core.
  | awaitingFactory asked =>
    rw [run.2.1] at there
    contradiction
  | awaitingFeeds =>
    rw [run.2.1] at there
    contradiction
  | serving =>
    rw [proceed, core_serve]
    exact there

/-- A core stays, with its snapshot; one that has been invoked has been so for good. -/
theorem Life.core (h : InOrder mark w) {t : CoreTask} (there : w.core = some t)
    (life : Life w w') : ∃ t', w'.core = some t' ∧ t'.feeds = t.feeds ∧
      (t.play.fate ≠ .pending → t'.play.fate ≠ .pending) := by
  induction life with
  | refl => exact ⟨t, there, rfl, id⟩
  | tail before step ih =>
    obtain ⟨t', there', feeds, begun⟩ := ih
    rcases step.cases with turn | ⟨ctx, -, rfl⟩ | aside
    · exact ⟨t', core_of_turn (h.life before) there' turn, feeds, begun⟩
    · exact ⟨t', there', feeds, begun⟩
    · have same := aside.feeds
      rw [there', Option.map_some, Option.map_eq_some_iff] at same
      obtain ⟨t'', there'', feeds'⟩ := same
      refine ⟨t'', there'', feeds'.trans feeds, ?_⟩
      intro under
      obtain ⟨t₃, there₃, under₃⟩ := aside.begun t' there' (begun under)
      rw [there'', Option.some.injEq] at there₃
      rw [there₃]
      exact under₃

/-- A scheduler whose only run has given up before the core was there. -/
structure Spent (w : Scheduler) : Prop where
  started : w.started = true
  core : w.core = none
  run (ctx : Token) (phase : RunPhase) : w.run = .going ctx phase → phase = .entered

theorem Spent.step (h : Spent w) (step : Step w w') : Spent w' := by
  rcases step.cases with turn | ⟨ctx, -, rfl⟩ | aside
  · obtain ⟨ctx, phase, going, -, rfl⟩ := exists_of_pollRun? turn
    obtain rfl := h.run ctx phase going
    rw [proceed, enter, if_pos h.started]
    exact ⟨h.started, h.core, fun _ _ other => by cases other⟩
  · refine ⟨h.started, h.core, ?_⟩
    intro ctx' phase other
    cases other
    rfl
  · refine ⟨aside.started.trans h.started, aside.core_eq_none h.core, ?_⟩
    rw [aside.run]
    exact h.run

/-- A scheduler whose only run has given up has no core for life. -/
theorem Spent.life (h : Spent w) (life : Life w w') : Spent w' := by
  induction life with
  | refl => exact h
  | tail _ step ih => exact ih.step step

/-- A run that has given up leaves a scheduler spent. -/
theorem InOrder.spent (h : InOrder mark w) {time : Nat}
    (returned : w.run = .returned time (.error .cacheSyncTimeout)) : Spent w := by
  have run := h.run
  rw [returned] at run
  refine ⟨run.1, run.2, ?_⟩
  intro ctx phase going
  rw [returned] at going
  contradiction

/-! ## Admission -/

/-- The core is invoked: its task takes its first step. -/
structure InvokesCore (t : CoreTask) (w w' : Scheduler) : Prop where
  core : w.core = some t
  pending : t.play.fate = .pending
  next : w.pollTask? .core = some w'

theorem InvokesCore.step {t : CoreTask} (h : InvokesCore t w w') : Step w w' :=
  .stirred (.polled (.task .core) h.next)

/-- What the core is invoked on is entered into the journal. -/
theorem InvokesCore.after {t : CoreTask} (h : InvokesCore t w w') :
    (∃ t', w'.core = some t' ∧ t'.play.fate ≠ .pending) ∧
      Entry.mk w.surroundings.now (.call (.coreRun (w.cache.view t.feeds))) ∈
        w'.surroundings.journal := by
  have next := h.next
  simp only [pollTask?, h.core, CoreTask.step?, Performance.next?_of_pending h.pending,
    Option.map_some, Option.some.injEq] at next
  rw [← next]
  exact ⟨⟨_, rfl, by simp⟩, List.mem_cons_self⟩

/-- What the invocation of the core tells in the life of a scheduler: `u` is the state before it and
`w` any state after. -/
structure Admission (w₀ : Scheduler) (t : CoreTask) (u u' w : Scheduler) : Prop where
  isSealed : u.cache.gate.isSealed = true
  /-- The factory has been asked in this life, and has reported. -/
  reported : HasReport w₀.surroundings.journal.length u
  /-- Every feed has been reported as synced in this life. -/
  synced (feed : FeedId) (state : Feed.FeedState) : u.cache.gate.state? feed = some state →
    state = .synced ∧ u.surroundings.NotedSynced w₀.surroundings.journal.length feed
  /-- The core gets the registered feeds, and no others, with their stores. -/
  exact (feed : FeedId) (store : Nat) : (feed, store) ∈ t.feeds ↔ u.cache.gate.Binds feed store
  handed : Entry.mk u.surroundings.now (.call (.coreRun (u.cache.view t.feeds))) ∈
    u'.surroundings.journal
  /-- Each store is the one that the registration has given. -/
  registered (v : Scheduler) (feed : FeedId) (id : Nat) (c : Cache) : Life w₀ v →
    v.cache.register feed = .ok (id, c) → Life (v.perform (.register feed)).1 u →
    (feed, id) ∈ t.feeds
  drivers : ∀ d ∈ w₀.drivers, (d.informer.feed, d.store) ∈ t.feeds
  /-- The feeds stay synced, and stay what they are. -/
  stays (feed : FeedId) (state : Feed.FeedState) : w.cache.gate.state? feed = some state →
    state = .synced
  same (feed : FeedId) (store : Nat) : (feed, store) ∈ t.feeds ↔ w.cache.gate.Binds feed store
  keeps : ∃ t', w.core = some t' ∧ t'.feeds = t.feeds
  /-- The core sees what an informer has written to its store. -/
  sees : ∀ i ∈ w.informers, (i.feed, w.cache.contents i.store) ∈ w.cache.view t.feeds
  /-- The core is not invoked again. -/
  once (t' : CoreTask) (w' : Scheduler) : ¬InvokesCore t' w w'

theorem perform_register {v : Scheduler} {feed : FeedId} {id : Nat} {c : Cache}
    (taken : v.cache.register feed = .ok (id, c)) :
    (v.perform (.register feed)).1.cache.gate.Binds feed id := by
  have registered : registerFeed v.surroundings v.cache feed =
      .ok (id, v.surroundings.note .outside (.feedRegistered feed), c) := by
    rw [registerFeed, taken]
  obtain ⟨line, -, same⟩ := v.exists_withCache true c
  simp only [perform, register, registered, same]
  exact Gate.binds_of_register (registerFeed_eq_ok registered).1

/-- What the invocation of the core tells, put together from the order before it
and the growth after. -/
theorem admission_of_invokesCore {w₀ u u' : Scheduler} {t : CoreTask} (fresh : Fresh w₀)
    (before : Life w₀ u) (invokes : InvokesCore t u u') (after : Life u' w) :
    Admission w₀ t u u' w := by
  have order := fresh.inOrder.life before
  obtain ⟨-, admits⟩ := order.orderly.core t invokes.core
  have onward : Life u w := .head invokes.step after
  have order' := order.life onward
  obtain ⟨⟨t₁, there₁, begun₁⟩, handed⟩ := invokes.after
  obtain ⟨t₂, there₂, feeds₂, -⟩ := Life.core order invokes.core onward
  obtain ⟨-, admits₂⟩ := order'.orderly.core t₂ there₂
  rw [feeds₂] at admits₂
  exact {
    isSealed := admits.isSealed
    reported := admits.reported
    synced := fun feed state found => by
      obtain rfl := Gate.eq_synced_of_allSynced admits.synced found
      exact ⟨rfl, order.orderly.noted.noted feed found⟩
    exact := admits.exact
    handed := handed
    registered := fun v feed id c _ taken later =>
      (admits.exact feed id).2 ((perform_register taken).grows later.grows)
    drivers := fun d there =>
      (admits.exact _ _).2 ((fresh.binds d there).grows before.grows)
    stays := fun feed state found => Gate.eq_synced_of_allSynced admits₂.synced found
    same := admits₂.exact
    keeps := ⟨t₂, there₂, feeds₂⟩
    sees := fun i there =>
      List.mem_map.2 ⟨(i.feed, i.store),
        (admits₂.exact _ _).2 (order'.orderly.informers i there), rfl⟩
    once := fun t' w' again => by
      obtain ⟨t₃, there₃, -, begun₃⟩ := Life.core (order.step invokes.step) there₁ after
      rw [again.core, Option.some.injEq] at there₃
      rw [← there₃] at begun₃
      exact begun₃ begun₁ again.pending }

/-- **Admission.** In the life of a scheduler that has been constructed, the core is invoked on all
feeds and on nothing else, once all of them are synced for good, and not again; after a run has
given up it is not invoked at all, and it has not been before. -/
theorem core_admission {s s' : Surroundings} {assembly : Assembly} {builder : Builder}
    {w₀ : Scheduler} (built : construct s assembly builder = (s', .ok w₀)) :
    (∀ t u u' w, Life w₀ u → InvokesCore t u u' → Life u' w → Admission w₀ t u u' w) ∧
    ∀ u w time, Life w₀ u → u.run = .returned time (.error .cacheSyncTimeout) → Life u w →
      (∀ t v v', Life w₀ v → InvokesCore t v v' → ¬Life v' u) ∧ ∀ t w', ¬InvokesCore t w w' := by
  have fresh := fresh_of_construct built
  refine ⟨fun t u u' w before invokes after =>
    admission_of_invokesCore fresh before invokes after, ?_⟩
  intro u w time before returned after
  have spent := (fresh.inOrder.life before).spent returned
  refine ⟨?_, ?_⟩
  · intro t v v' earlier invokes later
    obtain ⟨t', there, -⟩ := (admission_of_invokesCore fresh earlier invokes later).keeps
    rw [spent.core] at there
    contradiction
  · intro t w' invokes
    have none := (spent.life after).core
    rw [invokes.core] at none
    contradiction

/-- The core of the small scheduler is invoked after two milliseconds, on the one feed there is. -/
theorem core_admission_small :
    ∃ t u u', Life small u ∧ InvokesCore t u u' ∧ ("pods", 0) ∈ t.feeds ∧
      ∀ t' w', ¬InvokesCore t' u' w' := by
  let w₁ := small.beginRun (.context 0)
  let w₂ := w₁.pollRun?.getD w₁
  let w₃ := (w₂.pollTask? (.informer 0)).getD w₂
  let w₄ := (w₃.pollTask? (.informer 0)).getD w₃
  let w₅ : Scheduler := Machine.setNow 2 w₄
  let w₆ := w₅.awaitFactory (.context 0) 0
  let w₇ := (w₆.pollTask? .core).getD w₆
  have begun : Life small w₁ := .single (.begun (.context 0) rfl)
  have waits : Life small w₂ := begun.tail (.stirred (.polled .run rfl))
  have starts : Life small w₃ := waits.tail (.stirred (.polled (.task (.informer 0)) rfl))
  have reports : Life small w₄ := starts.tail (.stirred (.polled (.task (.informer 0)) rfl))
  have waited : Life small w₅ := reports.tail (.elapsed 2 (by decide))
  have serves : Life small w₆ := waited.tail (.stirred (.polled .run rfl))
  have synced : (InformerFactory.mk [] (some 2) false).unsynced = [] := by
    simp [InformerFactory.unsynced]
  have goes : w₆ = w₅.takeReport.awaitFeeds (.context 0) := rfl
  let t : CoreTask := .launch smallBuilder [("pods", 0)]
  have there : w₆.core = some t := by
    rw [goes, takeReport_of_synced synced]
    rfl
  have next : w₆.pollTask? .core = some w₇ := by
    have able : (w₆.pollTask? .core).isSome := by
      simp only [pollTask?, there]
      rfl
    obtain ⟨w, polled⟩ := Option.isSome_iff_exists.1 able
    simp only [w₇, polled, Option.getD_some]
  have invokes : InvokesCore t w₆ w₇ := ⟨there, rfl, next⟩
  have built : construct (.start ⟨"0", .epoch⟩) smallAssembly smallBuilder =
      (small.surroundings, .ok small) := rfl
  have admission := (core_admission built).1 t w₆ w₇ w₇ serves invokes .refl
  exact ⟨t, w₆, w₇, serves, invokes, admission.drivers ⟨⟨"pods", [.act .sync]⟩, 0⟩ (by decide),
    admission.once⟩

end Scheduler

end SchedulerHost.Host
