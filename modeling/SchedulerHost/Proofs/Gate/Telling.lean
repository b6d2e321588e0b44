import Mathlib.Data.List.Basic
import Mathlib.Logic.ExistsUnique
import SchedulerHost.Proofs.Gate.Attending

/-!
# The order of reports

Feeds report that they are running and that they are synced, from anywhere and in any order. A
report moves its feed forward to what is reported or leaves it where it is, so what becomes of a
feed depends on what is reported and not on when.

* `FeedState.after`: what becomes of a state, said without any order.
* `getElem?_takeAll`: what becomes of every feed of a gate.
* **Reports in any order** (`reports_in_any_order`): what comes of reports, who is told that its
  report was the first, and what unknown feeds can do.
-/

namespace SchedulerHost.Feed

inductive Report where
  | running (feed : FeedId)
  | synced (feed : FeedId)
deriving DecidableEq

def Report.feed : Report → FeedId
  | .running feed => feed
  | .synced feed => feed

/-- What becomes of the state of a feed by reports, whatever their order. -/
def FeedState.after (state : FeedState) (feed : FeedId) (reports : List Report) : FeedState :=
  if state = .synced ∨ .synced feed ∈ reports then .synced
  else if state = .running ∨ .running feed ∈ reports then .running
  else .notStarted

namespace FeedState

theorem after_nil (state : FeedState) (feed : FeedId) : state.after feed [] = state := by
  cases state <;> rfl

/-- Reports can be taken one by one. -/
theorem after_cons (state : FeedState) (feed : FeedId) (report : Report) (reports : List Report) :
    state.after feed (report :: reports) = (state.after feed [report]).after feed reports := by
  simp only [after, List.mem_cons, List.not_mem_nil, or_false]
  cases state <;> grind

/-- Reports of other feeds do nothing. -/
theorem after_of_ne (state : FeedState) {feed : FeedId} {report : Report}
    (other : report.feed ≠ feed) : state.after feed [report] = state := by
  cases report with
  | running named =>
    have different : feed ≠ named := Ne.symm other
    cases state <;> simp [after, different]
  | synced named =>
    have different : feed ≠ named := Ne.symm other
    cases state <;> simp [after, different]

/-- In which order feeds are reported makes no difference. -/
theorem after_perm (state : FeedState) (feed : FeedId) {reports reports' : List Report}
    (same : reports.Perm reports') : state.after feed reports = state.after feed reports' := by
  simp only [after, same.mem_iff]

/-- A feed is synced once it has been reported as synced, and by nothing else. -/
theorem after_eq_synced_iff {state : FeedState} {feed : FeedId} {reports : List Report} :
    state.after feed reports = .synced ↔ state = .synced ∨ .synced feed ∈ reports := by
  unfold after
  split
  · simp_all
  · split <;> simp_all

/-- Reports take no feed back. -/
theorem rank_le_after (state : FeedState) (feed : FeedId) (reports : List Report) :
    state.rank ≤ (state.after feed reports).rank := by
  cases state with
  | notStarted => exact Nat.zero_le _
  | running =>
    unfold after
    split <;> simp [rank]
  | synced => simp [after]

end FeedState

namespace Gate

def take (g : Gate) : Report → Gate
  | .running feed => (g.markRunning feed).2
  | .synced feed => (g.markSynced feed).2

def takeAll (g : Gate) (reports : List Report) : Gate := reports.foldl take g

theorem getElem?_take (g : Gate) (report : Report) (feed : FeedId) :
    (g.take report).feeds[feed]? =
      (g.feeds[feed]?).map
        fun entry => { entry with state := entry.state.after feed [report] } := by
  cases found : g.feeds[feed]? with
  | none =>
    cases report with
    | running named => simp [take, getElem?_markRunning, found]
    | synced named => simp [take, getElem?_markSynced, found]
  | some entry =>
    obtain ⟨state, store⟩ := entry
    cases report with
    | running named =>
      by_cases same : named = feed
      · cases state <;> simp [take, getElem?_markRunning, found, same, FeedState.after]
      · have kept := state.after_of_ne (show (Report.running named).feed ≠ feed from same)
        simp [take, getElem?_markRunning, found, same, kept]
    | synced named =>
      by_cases same : named = feed
      · simp [take, getElem?_markSynced, found, same, FeedState.after]
      · have kept := state.after_of_ne (show (Report.synced named).feed ≠ feed from same)
        simp [take, getElem?_markSynced, found, same, kept]

/-- **What becomes of a feed.** Only its state changes, and that by what is reported of it. -/
theorem getElem?_takeAll (g : Gate) (reports : List Report) (feed : FeedId) :
    (g.takeAll reports).feeds[feed]? =
      (g.feeds[feed]?).map fun entry => { entry with state := entry.state.after feed reports } := by
  induction reports generalizing g with
  | nil =>
    simp only [takeAll, List.foldl_nil, FeedState.after_nil]
    exact Option.map_id'.symm
  | cons report reports ih =>
    calc ((g.take report).takeAll reports).feeds[feed]?
        = ((g.take report).feeds[feed]?).map
            fun entry => { entry with state := entry.state.after feed reports } := ih _
      _ = (g.feeds[feed]?).map
            fun entry => { entry with state := entry.state.after feed (report :: reports) } := by
          rw [getElem?_take, Option.map_map]
          simp only [Function.comp_def, ← FeedState.after_cons]

/-- What becomes of every feed is told by the reports, in whatever order they came. -/
theorem state?_takeAll (g : Gate) (reports : List Report) (feed : FeedId) :
    (g.takeAll reports).state? feed = (g.state? feed).map (·.after feed reports) := by
  rw [state?, getElem?_takeAll, state?, Option.map_map, Option.map_map]
  rfl

/-- Gates in which the same is found list the same. -/
theorem toList_feeds_congr {g g' : Gate}
    (same : ∀ feed : FeedId, g.feeds[feed]? = g'.feeds[feed]?) : g.feeds.toList = g'.feeds.toList :=
  Std.TreeMap.equiv_iff_toList_eq.1 (Std.TreeMap.Equiv.of_forall_constGet?_eq same)

/-- The order of reports does not matter to what is listed. -/
theorem toList_takeAll_perm (g : Gate) {reports reports' : List Report}
    (same : reports.Perm reports') :
    (g.takeAll reports).feeds.toList = (g.takeAll reports').feeds.toList := by
  apply toList_feeds_congr
  intro feed
  simp only [getElem?_takeAll, FeedState.after_perm _ feed same]

/-- The report of a sync after other reports is the first exactly when the feed was registered, and
not synced before. -/
theorem markSynced_fst_takeAll (g : Gate) (reports : List Report) (feed : FeedId) :
    ((g.takeAll reports).markSynced feed).1 = true ↔
      (∃ state, g.state? feed = some state ∧ state ≠ .synced) ∧ .synced feed ∉ reports := by
  have state := state?_takeAll g reports feed
  cases found : g.state? feed with
  | none =>
    rw [found, Option.map_none] at state
    simp [markSynced_of_unknown state]
  | some earlier =>
    rw [found, Option.map_some] at state
    have first : ((g.takeAll reports).markSynced feed).1 = true ↔
        earlier.after feed reports ≠ .synced := by
      rw [markSynced_fst_of_known (by simp [state]), isSynced, state]
      simp
    rw [first, ne_eq, FeedState.after_eq_synced_iff, not_or]
    simp only [Option.some.injEq, exists_eq_left', ne_eq]

end Gate

end SchedulerHost.Feed

namespace SchedulerHost.Host.WaitingRoom

open Feed (FeedId FeedState Report)

/-- The command by which a report is made. -/
def reporting : Report → Command
  | .running feed => .markRunning feed
  | .synced feed => .markSynced feed

/-- A room after reports, one after the other. -/
def told (r : WaitingRoom) (reports : List Report) : WaitingRoom :=
  reports.foldl (fun r report => (r.perform (reporting report)).1) r

/-- What is answered to one of several reports, by number. -/
def answer? (r : WaitingRoom) (reports : List Report) (i : Nat) : Option Reply :=
  reports[i]?.map fun report => ((r.told (reports.take i)).perform (reporting report)).2

theorem cache_perform_reporting (r : WaitingRoom) (report : Report) :
    (r.perform (reporting report)).1.cache =
      { r.cache with gate := r.cache.gate.take report } := by
  cases report with
  | running feed => exact cache_withCache r _ _
  | synced feed => exact cache_withCache r _ _

/-- Reports change the gate alone. -/
theorem cache_told (r : WaitingRoom) (reports : List Report) :
    (r.told reports).cache = { r.cache with gate := r.cache.gate.takeAll reports } := by
  induction reports generalizing r with
  | nil => rfl
  | cons report reports ih =>
    calc ((r.perform (reporting report)).1.told reports).cache
        = { (r.perform (reporting report)).1.cache with
            gate := (r.perform (reporting report)).1.cache.gate.takeAll reports } := ih _
      _ = { r.cache with gate := r.cache.gate.takeAll (report :: reports) } := by
          rw [cache_perform_reporting]
          rfl

/-- The report of an unknown feed is remarked upon at most. -/
theorem perform_reporting_of_unknown {r : WaitingRoom} {report : Report}
    (unknown : r.cache.gate.state? report.feed = none) :
    ∃ s, r.surroundings.Extends s ∧
      (r.perform (reporting report)).1 = { r with surroundings := s } := by
  cases report with
  | running feed =>
    have unknown : r.cache.gate.state? feed = none := unknown
    refine ⟨_, .refl _, ?_⟩
    simp only [reporting, perform, Cache.markRunning, Feed.Gate.markRunning_of_unknown unknown]
    rfl
  | synced feed =>
    have unknown : r.cache.gate.state? feed = none := unknown
    refine ⟨_, extends_noteSync r.surroundings .outside feed (r.cache.gate.syncOutcome feed), ?_⟩
    simp only [reporting, perform, reportSynced, Feed.Gate.markSynced_of_unknown unknown]
    rfl

theorem told_append (r : WaitingRoom) (earlier later : List Report) :
    r.told (earlier ++ later) = (r.told earlier).told later := List.foldl_append

theorem told_take_succ (r : WaitingRoom) {reports : List Report} {i : Nat} {report : Report}
    (there : reports[i]? = some report) :
    r.told (reports.take (i + 1)) =
      ((r.told (reports.take i)).perform (reporting report)).1 := by
  rw [List.take_add_one, there, Option.toList_some, told_append]
  rfl

theorem state?_told (r : WaitingRoom) (reports : List Report) (feed : FeedId) :
    (r.told reports).cache.gate.state? feed =
      (r.cache.gate.state? feed).map (·.after feed reports) := by
  rw [cache_told]
  exact Feed.Gate.state?_takeAll _ _ _

/-- No report takes a feed back. -/
theorem state?_perform_reporting (r : WaitingRoom) (report : Report) {feed : FeedId}
    {state : FeedState} (there : r.cache.gate.state? feed = some state) :
    ∃ later, (r.perform (reporting report)).1.cache.gate.state? feed = some later ∧
      state.rank ≤ later.rank := by
  refine ⟨state.after feed [report], ?_, state.rank_le_after feed [report]⟩
  exact (state?_told r [report] feed).trans (congrArg (Option.map _) there)

/-- Whoever reports a sync is told whether the feed was registered and not synced, and whether it is
the first to report it. -/
theorem answer?_synced (r : WaitingRoom) {reports : List Report} {i : Nat} {feed : FeedId}
    (there : reports[i]? = some (.synced feed)) :
    r.answer? reports i = some (.flag ((r.cache.gate.state? feed).any (· ≠ .synced) &&
      decide (i = reports.idxOf (.synced feed)))) := by
  have answered : r.answer? reports i = some (.flag
      ((r.told (reports.take i)).cache.gate.markSynced feed).1) := by
    rw [answer?, there]
    rfl
  have first : Report.synced feed ∉ reports.take i ↔ i = reports.idxOf (.synced feed) := by
    have member := List.mem_of_getElem? there
    have seen : Report.synced feed ∈ reports.take (i + 1) := by
      rw [List.take_add_one, there]
      simp
    rw [List.mem_take_iff_idxOf_lt member] at seen ⊢
    omega
  rw [answered, cache_told]
  congr 2
  rw [Bool.eq_iff_iff, Feed.Gate.markSynced_fst_takeAll, first]
  cases r.cache.gate.state? feed <;> simp

/-- **Reports in any order.** Whatever is reported to a gate, of feeds that it knows or not and
however often: the order makes no difference to what is listed and which feeds are synced. What
becomes of a feed is told by what was reported of it, and no report takes a feed back. The sync of a
registered feed is new to the gate once, when it is first reported, and the report of an unknown
feed is remarked upon at most. -/
theorem reports_in_any_order (r : WaitingRoom) (reports : List Report) :
    (∀ reports', reports.Perm reports' →
      (r.told reports).cache.gate.listing = (r.told reports').cache.gate.listing ∧
      (r.told reports).cache.gate.snapshot = (r.told reports').cache.gate.snapshot) ∧
    (∀ feed, (r.told reports).cache.gate.state? feed =
      (r.cache.gate.state? feed).map fun state =>
        if state = .synced ∨ .synced feed ∈ reports then .synced
        else if state = .running ∨ .running feed ∈ reports then .running
        else .notStarted) ∧
    (∀ i feed state, (r.told (reports.take i)).cache.gate.state? feed = some state →
      ∃ later, (r.told (reports.take (i + 1))).cache.gate.state? feed = some later ∧
        state.rank ≤ later.rank) ∧
    (∀ (i : Nat) feed, reports[i]? = some (.synced feed) →
      r.answer? reports i = some (.flag ((r.cache.gate.state? feed).any (· ≠ .synced) &&
        decide (i = reports.idxOf (.synced feed))))) ∧
    (∀ feed state, r.cache.gate.state? feed = some state → state ≠ .synced →
      .synced feed ∈ reports →
        ∃! i : Nat, reports[i]? = some (.synced feed) ∧
          r.answer? reports i = some (.flag true)) ∧
    ∀ (i : Nat) report, reports[i]? = some report → r.cache.gate.state? report.feed = none →
      ∃ s, (r.told (reports.take i)).surroundings.Extends s ∧
        r.told (reports.take (i + 1)) = { r.told (reports.take i) with surroundings := s } := by
  refine ⟨?_, state?_told r reports, ?_, fun i feed => r.answer?_synced, ?_, ?_⟩
  · intro reports' same
    have listed := r.cache.gate.toList_takeAll_perm same
    rw [cache_told, cache_told]
    simp only [Feed.Gate.listing, Feed.Gate.snapshot, listed, and_self]
  · intro i feed state there
    cases next : reports[i]? with
    | none =>
      have all : reports.take (i + 1) = reports.take i := by
        rw [List.take_add_one, next, Option.toList_none, List.append_nil]
      rw [all]
      exact ⟨state, there, Nat.le_refl _⟩
    | some report =>
      rw [told_take_succ r next]
      exact state?_perform_reporting _ report there
  · intro feed state there unsynced reported
    have first := List.getElem?_idxOf reported
    refine ⟨reports.idxOf (.synced feed), ⟨first, ?_⟩, ?_⟩
    · rw [answer?_synced r first, there]
      simpa using unsynced
    · rintro i ⟨found, answered⟩
      rw [answer?_synced r found, Option.some.injEq, Reply.flag.injEq, Bool.and_eq_true,
        decide_eq_true_iff] at answered
      exact answered.2
  · intro i report there unknown
    rw [told_take_succ r there]
    apply perform_reporting_of_unknown
    rw [state?_told, unknown, Option.map_none]

end SchedulerHost.Host.WaitingRoom
