import Mathlib.Data.Nat.Find
import SchedulerHost.Proofs.Scheduler.Life
import SchedulerHost.Proofs.Scheduler.Turn

/-!
# The outcome of a run

How the first run of a scheduler ends, and when, whatever happens aside of it.

* `Course`: what becomes of a scheduler from the beginning of a run on, with the states in which
  moments were left. A moment is left only when the run cannot go on, and none is passed over at
  which the factory reports.
* `Stage`: how far a run has come, and what it has found at the moments before.
* **Outcome** (`run_outcome`): the run gives up at the first moment at which its token is cancelled,
  or serves from the first moment at which the caches are synced until the shutdown.
-/

namespace SchedulerHost.Host

namespace Scheduler

/-! ## Moments -/

/-- The first moment at which something holds, among the states in which moments were left. -/
def FirstAt (p : Scheduler → Prop) (rests : List Scheduler) (t : Nat) : Prop :=
  (∃ w ∈ rests, w.surroundings.now = t ∧ p w) ∧ ∀ w ∈ rests, p w → t ≤ w.surroundings.now

def Never (p : Scheduler → Prop) (rests : List Scheduler) : Prop := ∀ w ∈ rests, ¬p w

variable {p : Scheduler → Prop} {w w' : Scheduler} {past : List Scheduler} {t t' : Nat}

theorem FirstAt.unique (h : FirstAt p past t) (h' : FirstAt p past t') : t = t' := by
  obtain ⟨⟨v, there, at_t, holds⟩, least⟩ := h
  obtain ⟨⟨v', there', at_t', holds'⟩, least'⟩ := h'
  have := least v' there' holds'
  have := least' v there holds
  omega

theorem FirstAt.not_never (h : FirstAt p past t) : ¬Never p past := by
  obtain ⟨⟨v, there, -, holds⟩, -⟩ := h
  exact fun never => never v there holds

/-- What holds at some moment holds at a first one. -/
theorem exists_firstAt (h : ∃ w ∈ past, p w) : ∃ t, FirstAt p past t := by
  classical
  obtain ⟨w, there, holds⟩ := h
  have some_time : ∃ t, ∃ w ∈ past, w.surroundings.now = t ∧ p w := ⟨_, w, there, rfl, holds⟩
  exact ⟨Nat.find some_time, Nat.find_spec some_time,
    fun v there' holds' => Nat.find_min' some_time ⟨v, there', rfl, holds'⟩⟩

/-- What holds now and did not before holds now for the first time. -/
theorem firstAt_now (holds : p w) (never : Never p past) :
    FirstAt p (w :: past) w.surroundings.now := by
  refine ⟨⟨w, List.mem_cons_self, rfl, holds⟩, ?_⟩
  intro v there holds'
  rcases List.mem_cons.1 there with rfl | before
  · exact Nat.le_refl _
  · exact absurd holds' (never v before)

/-- The present state may change, as long as its moment is not left and nothing is lost. -/
theorem FirstAt.stir (h : FirstAt p (w :: past) t) (same : w'.surroundings.now = w.surroundings.now)
    (reached : t ≤ w.surroundings.now) (keeps : p w → p w') : FirstAt p (w' :: past) t := by
  obtain ⟨⟨v, there, at_t, holds⟩, least⟩ := h
  constructor
  · rcases List.mem_cons.1 there with rfl | before
    · exact ⟨w', List.mem_cons_self, same.trans at_t, keeps holds⟩
    · exact ⟨v, List.mem_cons_of_mem _ before, at_t, holds⟩
  · intro v' there' holds'
    rcases List.mem_cons.1 there' with rfl | before
    · omega
    · exact least v' (List.mem_cons_of_mem _ before) holds'

/-- Time may go on. -/
theorem FirstAt.elapse (h : FirstAt p past t) (later : t ≤ w.surroundings.now) :
    FirstAt p (w :: past) t := by
  obtain ⟨⟨v, there, at_t, holds⟩, least⟩ := h
  refine ⟨⟨v, List.mem_cons_of_mem _ there, at_t, holds⟩, ?_⟩
  intro v' there' holds'
  rcases List.mem_cons.1 there' with rfl | before
  · exact later
  · exact least v' before holds'

/-! ## Courses -/

/-- What becomes of a scheduler, with the states in which moments were left, the latest first. A
moment is left when the run can go on no more, and none is passed over at
which the factory reports. -/
inductive Course (w₀ : Scheduler) : List Scheduler → Scheduler → Prop
  | begun : Course w₀ [] w₀
  | stirred {past : List Scheduler} {w w' : Scheduler} (before : Course w₀ past w)
    (stir : Stir w w') : Course w₀ past w'
  | elapsed {past : List Scheduler} {w : Scheduler} (before : Course w₀ past w)
    (rest : w.pollRun? = none) (t : Nat) (later : w.surroundings.now < t)
    (early : ∀ due ∈ w.factoryAlarm, t ≤ due) : Course w₀ (w :: past) (Machine.setNow t w)

def CaughtUp (asked : Nat) (w : Scheduler) : Prop :=
  w.factoryReported asked = true ∧ w.cache.gate.allSynced = true

def Cancelled (token : Token) (w : Scheduler) : Prop := w.isCancelled token = true

/-- Once the gate is sealed, a factory that has reported and feeds that are synced stay so. -/
theorem Frame.caughtUp (frame : Frame w w') {asked : Nat}
    (closed : w.cache.gate.isSealed = true) (h : CaughtUp asked w) : CaughtUp asked w' :=
  ⟨frame.factoryReported h.1, frame.gate.grows.allSynced closed h.2⟩

/-! ## Stages -/

/-- How far a first run has come, and what it has found at the moments before: `early` tells whether
its token was cancelled when it began. -/
inductive Stage (ctx : Token) (asked : Nat) (early : Prop) (past : List Scheduler) (w : Scheduler) :
    RunState → Prop
  | entered (first : past = []) (now : w.surroundings.now = asked) (fresh : w.started = false)
    (known : early → Cancelled ctx w) : Stage ctx asked early past w (.going ctx .entered)
  | awaitingFactory (kept : Never (Cancelled ctx) past)
    (unreported : Never (fun v => v.factoryReported asked = true) past) (late : ¬early) :
    Stage ctx asked early past w (.going ctx (.awaitingFactory asked))
  | awaitingFeeds (closed : w.cache.gate.isSealed = true)
    (reported : w.factoryReported asked = true) (kept : Never (Cancelled ctx) past)
    (behind : Never (CaughtUp asked) past) (late : ¬early) :
    Stage ctx asked early past w (.going ctx .awaitingFeeds)
  | serving (T : Nat) (closed : w.cache.gate.isSealed = true)
    (first : FirstAt (CaughtUp asked) (w :: past) T)
    (kept : ∀ v ∈ past, Cancelled ctx v → T ≤ v.surroundings.now)
    (up : Never (Cancelled .shutdown) past) (late : ¬early) :
    Stage ctx asked early past w (.going ctx .serving)
  | gaveUp (c : Nat) (first : FirstAt (Cancelled ctx) (w :: past) c)
    (behind : ∀ v ∈ past, CaughtUp asked v → c ≤ v.surroundings.now) (known : early → c = asked) :
    Stage ctx asked early past w (.returned c (.error .cacheSyncTimeout))
  | served (T s : Nat) (closed : w.cache.gate.isSealed = true)
    (first : FirstAt (CaughtUp asked) (w :: past) T)
    (kept : ∀ v ∈ past, Cancelled ctx v → T ≤ v.surroundings.now)
    (down : FirstAt (Cancelled .shutdown) (w :: past) s) (late : ¬early) :
    Stage ctx asked early past w (.returned (max T s) (.ok ()))

variable {ctx : Token} {asked : Nat} {early : Prop} {run : RunState}

/-- The first moment is not after the present one. -/
theorem FirstAt.le_now (h : FirstAt p (w :: past) t)
    (ordered : ∀ v ∈ past, v.surroundings.now < w.surroundings.now) : t ≤ w.surroundings.now := by
  obtain ⟨⟨v, there, rfl, -⟩, -⟩ := h
  rcases List.mem_cons.1 there with rfl | before
  · exact Nat.le_refl _
  · exact Nat.le_of_lt (ordered v before)

/-- Nothing aside of the run changes how far it has come. -/
theorem Stage.aside (stage : Stage ctx asked early past w run) (aside : Aside w w')
    (same : w'.surroundings.now = w.surroundings.now)
    (ordered : ∀ v ∈ past, v.surroundings.now < w.surroundings.now) :
    Stage ctx asked early past w' run := by
  have frame := aside.frame
  cases stage with
  | entered first now fresh known =>
    exact .entered first (same.trans now) (aside.started.trans fresh)
      fun h => frame.isCancelled (known h)
  | awaitingFactory kept unreported late => exact .awaitingFactory kept unreported late
  | awaitingFeeds closed reported kept behind late =>
    exact .awaitingFeeds (frame.gate.grows.isSealed closed) (frame.factoryReported reported) kept
      behind late
  | serving T closed first kept up late =>
    exact .serving T (frame.gate.grows.isSealed closed)
      (first.stir same (first.le_now ordered) (frame.caughtUp closed)) kept up late
  | gaveUp c first behind known =>
    exact .gaveUp c (first.stir same (first.le_now ordered) frame.isCancelled) behind known
  | served T s closed first kept down late =>
    exact .served T s (frame.gate.grows.isSealed closed)
      (first.stir same (first.le_now ordered) (frame.caughtUp closed)) kept
      (down.stir same (down.le_now ordered) frame.isCancelled) late

/-- The moments lie in a row, and no token is restored. -/
structure Timeline (asked : Nat) (past : List Scheduler) (w : Scheduler) : Prop where
  ordered : ∀ v ∈ past, v.surroundings.now < w.surroundings.now
  begun : ∀ v ∈ w :: past, asked ≤ v.surroundings.now
  lasting : ∀ v ∈ past, ∀ token, Cancelled token v → Cancelled token w

theorem Timeline.stir (line : Timeline asked past w)
    (same : w'.surroundings.now = w.surroundings.now)
    (keeps : ∀ token, Cancelled token w → Cancelled token w') : Timeline asked past w' := by
  constructor
  · intro v there
    rw [same]
    exact line.ordered v there
  · intro v there
    rcases List.mem_cons.1 there with rfl | before
    · rw [same]
      exact line.begun w List.mem_cons_self
    · exact line.begun v (List.mem_cons_of_mem _ before)
  · exact fun v there token h => keeps token (line.lasting v there token h)

/-! ### The turn of the run -/

/-- A run that serves goes on until the shutdown, which may have come before. -/
theorem stage_serving (line : Timeline asked past w) {T : Nat}
    (closed : w.cache.gate.isSealed = true) (first : FirstAt (CaughtUp asked) (w :: past) T)
    (kept : ∀ v ∈ past, Cancelled ctx v → T ≤ v.surroundings.now) (late : ¬early)
    (up : Never (Cancelled .shutdown) past ∨ T = w.surroundings.now) :
    Stage ctx asked early past w (w.outlookServing ctx) := by
  have reached : T ≤ w.surroundings.now := first.le_now line.ordered
  unfold outlookServing
  split
  · next down =>
    rcases up with never | now
    · have stage := Stage.served T w.surroundings.now closed first kept
        (firstAt_now (p := Cancelled .shutdown) down never) late
      rwa [Nat.max_eq_right reached] at stage
    · -- The shutdown may be long past when the caches are synced.
      have sometime : ∃ v ∈ w :: past, Cancelled .shutdown v := ⟨w, List.mem_cons_self, down⟩
      obtain ⟨s, since⟩ := exists_firstAt sometime
      have stage := Stage.served T s closed first kept since late
      have := since.le_now line.ordered
      rwa [Nat.max_eq_left (by omega), now] at stage
  · next alive =>
    refine .serving T closed first kept ?_ late
    intro v there down
    exact alive (line.lasting v there .shutdown down)

/-- A run whose factory has reported looks at its token, and then at the feeds. -/
theorem stage_feeds (line : Timeline asked past w) (closed : w.cache.gate.isSealed = true)
    (reported : w.factoryReported asked = true) (kept : Never (Cancelled ctx) past)
    (behind : Never (CaughtUp asked) past) (late : ¬early) :
    Stage ctx asked early past w (w.outlookFeeds ctx) := by
  unfold outlookFeeds
  split
  · next cancelled =>
    exact .gaveUp _ (firstAt_now (p := Cancelled ctx) cancelled kept)
      (fun v there h => absurd h (behind v there)) fun h => absurd h late
  · split
    · next synced =>
      exact stage_serving line closed (firstAt_now (p := CaughtUp asked) ⟨reported, synced⟩ behind)
        (fun v there h => absurd h (kept v there)) late (.inr rfl)
    · exact .awaitingFeeds closed reported kept behind late

/-- A run that has asked the factory looks at its token, and then at the report. -/
theorem stage_factory (line : Timeline asked past w)
    (closed : w.isCancelled ctx = false → w.factoryReported asked = true →
      w.cache.gate.isSealed = true)
    (kept : Never (Cancelled ctx) past)
    (unreported : Never (fun v => v.factoryReported asked = true) past)
    (known : early → Cancelled ctx w ∧ w.surroundings.now = asked) :
    Stage ctx asked early past w (w.outlookFactory ctx asked) := by
  unfold outlookFactory
  split
  · next cancelled =>
    exact .gaveUp _ (firstAt_now (p := Cancelled ctx) cancelled kept)
      (fun v there h => absurd h.1 (unreported v there)) fun h => (known h).2
  · next alive =>
    have late : ¬early := fun h => alive (known h).1
    split
    · next reported =>
      exact stage_feeds line (closed (by simpa using alive) reported) reported kept
        (fun v there h => unreported v there h.1) late
    · exact .awaitingFactory kept unreported late

/-- A turn of the run brings it as far as what it finds lets it come. -/
theorem Stage.turn (stage : Stage ctx asked early past w w.run) (line : Timeline asked past w)
    (next : w.pollRun? = some w') :
    Timeline asked past w' ∧ Stage ctx asked early past w' w'.run := by
  obtain ⟨ctx', phase, going, able, rfl⟩ := exists_of_pollRun? next
  obtain ⟨proceeds, run, closed⟩ := w.proceed_spec ctx' phase
  have line' : Timeline asked past (w.proceed ctx' phase) :=
    line.stir proceeds.surroundings.now fun token h => (proceeds.isCancelled token).trans h
  have now := proceeds.surroundings.now
  refine ⟨line', ?_⟩
  rw [run]
  rw [going] at stage
  -- The stages of other phases are told apart by the state of the run.
  generalize same : RunState.going ctx' phase = state at stage
  cases stage with
  | entered first began fresh known =>
    cases same
    rw [outlook, fresh, if_neg (by simp), ← proceeds.outlookFactory, began]
    apply stage_factory line'
    · intro kept reported
      rw [proceeds.isCancelled] at kept
      rw [proceeds.factoryReported] at reported
      exact closed asked (by simp [askedAt, fresh, began]) kept reported
    · rw [first]
      exact fun v there => by cases there
    · rw [first]
      exact fun v there => by cases there
    · exact fun h => ⟨(proceeds.isCancelled _).trans (known h), now.trans began⟩
  | awaitingFactory kept unreported late =>
    cases same
    rw [outlook, ← proceeds.outlookFactory]
    apply stage_factory line' ?_ kept unreported fun h => absurd h late
    intro alive reported
    rw [proceeds.isCancelled] at alive
    rw [proceeds.factoryReported] at reported
    exact closed asked rfl alive reported
  | awaitingFeeds sealed' reported kept behind late =>
    cases same
    rw [outlook, ← proceeds.outlookFeeds]
    refine stage_feeds line' (proceeds.gate.grows.isSealed sealed') ?_ kept behind late
    rw [proceeds.factoryReported]
    exact reported
  | serving T sealed' first kept up late =>
    cases same
    rw [outlook, ← proceeds.outlookServing]
    refine stage_serving line' (proceeds.gate.grows.isSealed sealed') ?_ kept late (.inl up)
    refine first.stir now (first.le_now line.ordered) fun h => ⟨?_, ?_⟩
    · rw [proceeds.factoryReported]
      exact h.1
    · rw [proceeds.synced]
      exact h.2
  | gaveUp c first behind known => cases same
  | served T s sealed' first kept down late => cases same

/-! ### The end of a moment -/

/-- A run at rest waits for something that is not there. -/
theorem runCanProceed_of_rest {phase : RunPhase} (going : w.run = .going ctx phase)
    (rest : w.pollRun? = none) : w.runCanProceed ctx phase = false := by
  simpa [pollRun?, going] using rest

theorem never_cons (holds : ¬p w) (never : Never p past) : Never p (w :: past) := by
  intro v there
  rcases List.mem_cons.1 there with rfl | before
  · exact holds
  · exact never v before

/-- What is the case at every moment at which a token is cancelled, if it was at those before. -/
theorem late_cons (reached : t ≤ w.surroundings.now)
    (late : ∀ v ∈ past, p v → t ≤ v.surroundings.now) :
    ∀ v ∈ w :: past, p v → t ≤ v.surroundings.now := by
  intro v there h
  rcases List.mem_cons.1 there with rfl | before
  · exact reached
  · exact late v before h

/-- A moment at whose end a run waits on tells of nothing it waits for. -/
theorem Stage.elapse (stage : Stage ctx asked early past w w.run) (line : Timeline asked past w)
    (rest : w.pollRun? = none) (later : w.surroundings.now < t) :
    Timeline asked (w :: past) (Machine.setNow t w) ∧
      Stage ctx asked early (w :: past) (Machine.setNow t w) (Machine.setNow t w).run := by
  have line' : Timeline asked (w :: past) (Machine.setNow t w) := by
    constructor
    · intro v there
      rcases List.mem_cons.1 there with rfl | before
      · exact later
      · exact Nat.lt_trans (line.ordered v before) later
    · intro v there
      rcases List.mem_cons.1 there with rfl | before
      · exact Nat.le_trans (line.begun w List.mem_cons_self) (Nat.le_of_lt later)
      · exact line.begun v before
    · intro v there token h
      rcases List.mem_cons.1 there with rfl | before
      · exact h
      · exact line.lasting v before token h
  refine ⟨line', ?_⟩
  have aside : Aside w (Machine.setNow t w) := aside_setNow (Nat.le_of_lt later)
  show Stage ctx asked early (w :: past) (Machine.setNow t w) w.run
  generalize going : w.run = run at stage
  cases stage with
  | entered first began fresh known =>
    have stuck := runCanProceed_of_rest going rest
    contradiction
  | awaitingFactory kept unreported late =>
    have stuck := runCanProceed_of_rest going rest
    rw [runCanProceed, Bool.or_eq_false_iff] at stuck
    exact .awaitingFactory (never_cons (by simp [Cancelled, stuck.1]) kept)
      (never_cons (by simp [stuck.2]) unreported) late
  | awaitingFeeds closed reported kept behind late =>
    have stuck := runCanProceed_of_rest going rest
    rw [runCanProceed, Bool.or_eq_false_iff] at stuck
    exact .awaitingFeeds closed (aside.frame.factoryReported reported)
      (never_cons (by simp [Cancelled, stuck.1]) kept)
      (never_cons (by simp [CaughtUp, stuck.2]) behind) late
  | serving T closed first kept up late =>
    have stuck := runCanProceed_of_rest going rest
    rw [runCanProceed] at stuck
    have reached := first.le_now line.ordered
    exact .serving T closed (first.elapse (Nat.le_of_lt (Nat.lt_of_le_of_lt reached later)))
      (late_cons reached kept) (never_cons (by simp [Cancelled, stuck]) up) late
  | gaveUp c first behind known =>
    have reached := first.le_now line.ordered
    exact .gaveUp c (first.elapse (Nat.le_of_lt (Nat.lt_of_le_of_lt reached later)))
      (late_cons reached behind) known
  | served T s closed first kept down late =>
    have reached := first.le_now line.ordered
    have since := down.le_now line.ordered
    exact .served T s closed (first.elapse (Nat.le_of_lt (Nat.lt_of_le_of_lt reached later)))
      (late_cons reached kept) (down.elapse (Nat.le_of_lt (Nat.lt_of_le_of_lt since later))) late

/-- **Stages.** A first run is at one of its stages at any time. -/
theorem Course.stage {w₁ : Scheduler} (fresh : w₁.started = false)
    (course : Course (w₁.beginRun ctx) past w) :
    Timeline w₁.surroundings.now past w ∧
      Stage ctx w₁.surroundings.now (Cancelled ctx w₁) past w w.run := by
  induction course with
  | begun =>
    refine ⟨⟨?_, ?_, ?_⟩, .entered rfl rfl fresh id⟩
    · exact fun v there => by cases there
    · intro v there
      obtain rfl := List.mem_singleton.1 there
      exact Nat.le_refl _
    · exact fun v there => by cases there
  | stirred before stir ih =>
    obtain ⟨line, stage⟩ := ih
    rcases stir.cases with turn | ⟨aside, same⟩
    · exact stage.turn line turn
    · refine ⟨line.stir same fun token h => aside.frame.isCancelled h, ?_⟩
      rw [aside.run]
      exact stage.aside aside same line.ordered
  | elapsed before rest t later early ih =>
    obtain ⟨line, stage⟩ := ih
    exact stage.elapse line rest later

/-! ## The outcome -/

/-- A run that serves is at rest once it has looked at the shutdown. -/
theorem rest_of_outlookServing (run : w.run = w.outlookServing ctx) : w.pollRun? = none := by
  unfold outlookServing at run
  split at run
  · rw [pollRun?, run]
  · next alive => simp [pollRun?, run, runCanProceed, alive]

/-- The same of one that has looked at the feeds. -/
theorem rest_of_outlookFeeds (run : w.run = w.outlookFeeds ctx) : w.pollRun? = none := by
  unfold outlookFeeds at run
  split at run
  · rw [pollRun?, run]
  · next kept =>
    split at run
    · exact rest_of_outlookServing run
    · next behind => simp [pollRun?, run, runCanProceed, kept, behind]

/-- And of one that has looked for the report of its factory. -/
theorem rest_of_outlookFactory {asked : Nat} (run : w.run = w.outlookFactory ctx asked) :
    w.pollRun? = none := by
  unfold outlookFactory at run
  split at run
  · rw [pollRun?, run]
  · next kept =>
    split at run
    · exact rest_of_outlookFeeds run
    · next unreported => simp [pollRun?, run, runCanProceed, kept, unreported]

/-- After its turn the run can go on no more, so every moment can be left. -/
theorem pollRun?_of_turn (next : w.pollRun? = some w') : w'.pollRun? = none := by
  obtain ⟨ctx, phase, going, able, rfl⟩ := exists_of_pollRun? next
  obtain ⟨proceeds, run, -⟩ := w.proceed_spec ctx phase
  cases phase with
  | entered =>
    rw [outlook] at run
    split at run
    · rw [pollRun?, run]
    · rw [← proceeds.outlookFactory] at run
      exact rest_of_outlookFactory run
  | awaitingFactory asked =>
    rw [outlook, ← proceeds.outlookFactory] at run
    exact rest_of_outlookFactory run
  | awaitingFeeds =>
    rw [outlook, ← proceeds.outlookFeeds] at run
    exact rest_of_outlookFeeds run
  | serving =>
    rw [outlook, ← proceeds.outlookServing] at run
    exact rest_of_outlookServing run

/-- How a first run is doing, given the states in which moments were left: `early` tells whether its
token was cancelled before it began at the moment `asked`. -/
structure Outcome (ctx : Token) (asked : Nat) (early : Prop) (rests : List Scheduler)
    (run : RunState) : Prop where
  /-- It gives up at its beginning. -/
  early_timeout : early → run = .returned asked (.error .cacheSyncTimeout)
  /-- It gives up when its token is cancelled before the caches are synced. -/
  timeout (c : Nat) : FirstAt (Cancelled ctx) rests c →
    (∀ T, FirstAt (CaughtUp asked) rests T → c < T) →
    run = .returned c (.error .cacheSyncTimeout)
  /-- It ends well at the shutdown, or at the synchronisation if that is later. -/
  ok (T s : Nat) : FirstAt (CaughtUp asked) rests T →
    (∀ c, FirstAt (Cancelled ctx) rests c → T < c) → FirstAt (Cancelled .shutdown) rests s →
    run = .returned (max T s) (.ok ())
  /-- It serves as long as there is no shutdown. -/
  serving (T : Nat) : FirstAt (CaughtUp asked) rests T →
    (∀ c, FirstAt (Cancelled ctx) rests c → T < c) → Never (Cancelled .shutdown) rests →
    run = .going ctx .serving
  /-- It waits as long as there is neither. -/
  waiting : Never (Cancelled ctx) rests → Never (CaughtUp asked) rests →
    ∃ phase, run = .going ctx phase
  /-- There is no other outcome. -/
  only (t : Nat) (outcome : Except Error Unit) : run = .returned t outcome →
    (outcome = .error .cacheSyncTimeout ∧ FirstAt (Cancelled ctx) rests t) ∨
    (outcome = .ok () ∧ ∃ T s, FirstAt (CaughtUp asked) rests T ∧
      FirstAt (Cancelled .shutdown) rests s ∧ t = max T s)

/-- A run that has found nothing that it waits for waits on. -/
theorem Outcome.of_waiting {rests : List Scheduler} {phase : RunPhase}
    (kept : Never (Cancelled ctx) rests) (behind : Never (CaughtUp asked) rests) (late : ¬early) :
    Outcome ctx asked early rests (.going ctx phase) where
  early_timeout h := absurd h late
  timeout c first _ := absurd kept first.not_never
  ok T s first _ _ := absurd behind first.not_never
  serving T first _ _ := absurd behind first.not_never
  waiting _ _ := ⟨phase, rfl⟩
  only t outcome returned := by cases returned

/-- What is late by all that was before is late now. -/
theorem FirstAt.late {q : Scheduler → Prop} (h : FirstAt q (w :: past) t')
    (late : ∀ v ∈ past, q v → t ≤ v.surroundings.now) (reached : t ≤ w.surroundings.now) :
    t ≤ t' := by
  obtain ⟨⟨v, there, rfl, holds⟩, -⟩ := h
  exact late_cons reached late v there holds

/-- A first run that can go on no more is doing as it should. -/
theorem Course.outcome {w₁ : Scheduler} (fresh : w₁.started = false)
    (course : Course (w₁.beginRun ctx) past w) (rest : w.pollRun? = none) :
    Outcome ctx w₁.surroundings.now (Cancelled ctx w₁) (w :: past) w.run := by
  obtain ⟨line, stage⟩ := course.stage fresh
  -- The run can go on no more, so what its stage waits for is not there at this moment either.
  generalize going : w.run = run at stage
  cases stage with
  | entered first began fresh' known =>
    have stuck := runCanProceed_of_rest going rest
    contradiction
  | awaitingFactory kept unreported late =>
    have stuck := runCanProceed_of_rest going rest
    rw [runCanProceed, Bool.or_eq_false_iff] at stuck
    refine .of_waiting (never_cons (by simp [Cancelled, stuck.1]) kept) ?_ late
    exact never_cons (by simp [CaughtUp, stuck.2]) fun v there h => unreported v there h.1
  | awaitingFeeds closed reported kept behind late =>
    have stuck := runCanProceed_of_rest going rest
    rw [runCanProceed, Bool.or_eq_false_iff] at stuck
    exact .of_waiting (never_cons (by simp [Cancelled, stuck.1]) kept)
      (never_cons (by simp [CaughtUp, stuck.2]) behind) late
  | serving T closed first kept up late =>
    have stuck := runCanProceed_of_rest going rest
    rw [runCanProceed] at stuck
    have reached := first.le_now line.ordered
    have never : Never (Cancelled .shutdown) (w :: past) :=
      never_cons (by simp [Cancelled, stuck]) up
    exact {
      early_timeout := fun h => absurd h late
      timeout := fun c cancelled before =>
        absurd (before T first) (Nat.not_lt.2 (cancelled.late kept reached))
      ok := fun T' s _ _ down => absurd never down.not_never
      serving := fun _ _ _ _ => rfl
      waiting := fun _ behind => absurd behind first.not_never
      only := fun t outcome returned => by cases returned }
  | gaveUp c first behind known =>
    have reached := first.le_now line.ordered
    have early (T : Nat) (synced : FirstAt (CaughtUp w₁.surroundings.now) (w :: past) T)
        (before : ∀ c, FirstAt (Cancelled ctx) (w :: past) c → T < c) : False :=
      absurd (before c first) (Nat.not_lt.2 (synced.late behind reached))
    exact {
      early_timeout := fun h => by rw [known h]
      timeout := fun c' cancelled _ => by rw [first.unique cancelled]
      ok := fun T s synced before _ => (early T synced before).elim
      serving := fun T synced before _ => (early T synced before).elim
      waiting := fun kept _ => absurd kept first.not_never
      only := fun t outcome returned => by
        cases returned
        exact .inl ⟨rfl, first⟩ }
  | served T s closed first kept down late =>
    have reached := first.le_now line.ordered
    exact {
      early_timeout := fun h => absurd h late
      timeout := fun c cancelled before =>
        absurd (before T first) (Nat.not_lt.2 (cancelled.late kept reached))
      ok := fun T' s' synced _ down' => by rw [first.unique synced, down.unique down']
      serving := fun _ _ _ never => absurd never down.not_never
      waiting := fun _ behind => absurd behind first.not_never
      only := fun t outcome returned => by
        cases returned
        exact .inr ⟨rfl, T, s, first, down, rfl⟩ }

/-- **Outcome.** Whatever happens aside of the first run of a scheduler, at any moment one turn is
enough for the run to go on no more, and then it is doing as it should. -/
theorem run_outcome {w₁ : Scheduler} (fresh : w₁.started = false)
    (course : Course (w₁.beginRun ctx) past w) :
    let rested := w.pollRun?.getD w
    rested.pollRun? = none ∧
      Outcome ctx w₁.surroundings.now (Cancelled ctx w₁) (rested :: past) rested.run := by
  intro rested
  have course : Course (w₁.beginRun ctx) past rested ∧ rested.pollRun? = none := by
    cases next : w.pollRun? with
    | none =>
      have same : rested = w := by simp [rested, next]
      exact ⟨same ▸ course, same ▸ next⟩
    | some w' =>
      have turned : rested = w' := by simp [rested, next]
      exact ⟨turned ▸ course.stirred (.polled .run next), turned ▸ pollRun?_of_turn next⟩
  exact ⟨course.2, course.1.outcome fresh course.2⟩

/-- The token of the small scheduler's run is cancelled after a millisecond, when its factory has
not reported yet. -/
theorem run_outcome_small :
    ∃ past w, Course (small.beginRun (.context 0)) past w ∧ (w.pollRun?.getD w).pollRun? = none ∧
      (w.pollRun?.getD w).run = .returned 1 (.error .cacheSyncTimeout) := by
  let w₀ := small.beginRun (.context 0)
  let w₁ := w₀.pollRun?.getD w₀
  let w₂ : Scheduler := Machine.setNow 1 w₁
  let w₃ := (w₂.perform (.cancel (.context 0))).1
  let w₄ := w₃.pollRun?.getD w₃
  have waits : Course w₀ [] w₁ := .stirred .begun (.polled .run rfl)
  have waited : Course w₀ [w₁] w₂ := .elapsed waits rfl 1 (by decide) (by decide)
  have cancelled : Course w₀ [w₁] w₃ := .stirred waited (.asked (.cancel (.context 0)) rfl)
  have kept : ¬Cancelled (.context 0) w₁ := by
    intro h
    contradiction
  have first : FirstAt (Cancelled (.context 0)) [w₄, w₁] 1 := by
    refine ⟨⟨w₄, List.mem_cons_self, rfl, rfl⟩, ?_⟩
    intro v there h
    rcases List.mem_cons.1 there with rfl | before
    · exact Nat.le_refl 1
    · obtain rfl := List.mem_singleton.1 before
      exact absurd h kept
  have behind : Never (CaughtUp 0) [w₄, w₁] := by
    intro v there h
    rcases List.mem_cons.1 there with rfl | before
    · exact absurd h.1 (by decide)
    · obtain rfl := List.mem_singleton.1 before
      exact absurd h.1 (by decide)
  obtain ⟨rest, outcome⟩ := run_outcome rfl cancelled
  exact ⟨[w₁], w₃, cancelled, rest, outcome.timeout 1 first fun T synced =>
    absurd behind synced.not_never⟩

end Scheduler

end SchedulerHost.Host
