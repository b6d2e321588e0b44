import Mathlib.Logic.Basic
import SchedulerHost.Feed.Gate

/-!
# The growth of a gate

Feeds come and go on, and nothing is ever taken back: `Gate.Grows` relates a gate to what becomes of
it, whatever is done.

* Every operation makes a gate grow (`grows_register`, `grows_markRunning`, `grows_markSynced`,
  `grows_beginWait`).
* **Answers** (`answers_register`, `answers_markRunning`, `answers_markSynced`): an operation tells
  that something has changed exactly when the listing of the feeds is another.
* **A sealed gate stays synced** (`Grows.allSynced`): once it is sealed no feed is added, so a gate
  whose feeds are all synced then is synced for good. Before that a registration may undo it.
-/

namespace SchedulerHost.Feed

def FeedState.rank : FeedState → Nat
  | .notStarted => 0
  | .running => 1
  | .synced => 2

/-- Nothing is further along than synced. -/
theorem FeedState.eq_synced_of_rank_le {state : FeedState} (h : rank .synced ≤ state.rank) :
    state = .synced := by
  cases state with
  | synced => rfl
  | notStarted => simp [rank] at h
  | running => simp [rank] at h

namespace Gate

/-! ### What is found in a gate -/

theorem state?_eq_some_iff {g : Gate} {feed : FeedId} {state : FeedState} :
    g.state? feed = some state ↔ ∃ entry, g.feeds[feed]? = some entry ∧ entry.state = state := by
  rw [state?, Option.map_eq_some_iff]

theorem mem_toList_feeds {g : Gate} {feed : FeedId} {entry : FeedEntry} :
    (feed, entry) ∈ g.feeds.toList ↔ g.feeds[feed]? = some entry :=
  Std.TreeMap.mem_toList_iff_getElem?_eq_some

theorem allSynced_iff {g : Gate} :
    g.allSynced = true ↔
      ∀ (feed : FeedId) (entry : FeedEntry), g.feeds[feed]? = some entry →
        entry.state = .synced := by
  rw [allSynced, List.all_eq_true]
  constructor
  · intro all feed entry found
    simpa using all (feed, entry) (mem_toList_feeds.2 found)
  · rintro all ⟨feed, entry⟩ member
    simpa using all feed entry (mem_toList_feeds.1 member)

/-- Where all feeds are synced, every feed that is known is. -/
theorem eq_synced_of_allSynced {g : Gate} (h : g.allSynced = true) {feed : FeedId}
    {state : FeedState} (known : g.state? feed = some state) : state = .synced := by
  obtain ⟨entry, found, rfl⟩ := state?_eq_some_iff.1 known
  exact allSynced_iff.1 h feed entry found

theorem allSynced_eq_false_iff {g : Gate} :
    g.allSynced = false ↔
      ∃ (feed : FeedId) (entry : FeedEntry), g.feeds[feed]? = some entry ∧
        entry.state ≠ .synced := by
  rw [← Bool.not_eq_true, allSynced_iff]
  simp only [not_forall, exists_prop, ne_eq]

/-- A snapshot shows the synced feeds, each with its store. -/
theorem mem_snapshot_iff {g : Gate} {feed : FeedId} {store : Nat} :
    (feed, store) ∈ g.snapshot ↔ g.feeds[feed]? = some ⟨.synced, store⟩ := by
  rw [snapshot, List.mem_filterMap]
  constructor
  · rintro ⟨⟨other, state, id⟩, member, picked⟩
    by_cases synced : state = .synced
    · simp only [synced, if_true, Option.some.injEq, Prod.mk.injEq] at picked
      obtain ⟨rfl, rfl⟩ := picked
      rw [← synced]
      exact mem_toList_feeds.1 member
    · simp [synced] at picked
  · intro found
    exact ⟨(feed, ⟨.synced, store⟩), mem_toList_feeds.2 found, by simp⟩

theorem getElem?_register {g g' : Gate} {feed : FeedId} {store : Nat}
    (h : g.register feed store = .ok g') (other : FeedId) :
    g'.feeds[other]? = if feed = other then some ⟨.notStarted, store⟩ else g.feeds[other]? := by
  unfold register at h
  split at h
  · contradiction
  · split at h
    · contradiction
    · simp only [Except.ok.injEq] at h
      subst h
      simp [Std.TreeMap.getElem?_insert]

/-- A feed is refused after a wait has begun, and when it is there already;
otherwise it is taken. -/
theorem register_eq (g : Gate) (feed : FeedId) (store : Nat) :
    (g.isSealed = true ∧ g.register feed store = .error (.sealed feed)) ∨
    (g.isSealed = false ∧ (g.state? feed).isSome ∧
      g.register feed store = .error (.duplicate feed)) ∨
    (g.isSealed = false ∧ g.state? feed = none ∧
      g.register feed store =
        .ok { g with feeds := g.feeds.insert feed ⟨.notStarted, store⟩ }) := by
  unfold register
  cases closed : g.isSealed with
  | true => simp
  | false =>
    have known : g.feeds.contains feed = (g.state? feed).isSome := by simp [state?]
    cases there : (g.state? feed).isSome with
    | true => simp [known, there]
    | false =>
      rw [Option.isSome_eq_false_iff, Option.isNone_iff_eq_none] at there
      simp [known, there]

theorem getElem?_markRunning (g : Gate) (feed other : FeedId) :
    (g.markRunning feed).2.feeds[other]? =
      (g.feeds[other]?).map fun entry =>
        if feed = other ∧ entry.state = .notStarted then { entry with state := .running }
        else entry := by
  unfold markRunning
  split
  · next store found =>
    by_cases same : feed = other
    · subst same
      simp [found]
    · rw [Std.TreeMap.getElem?_insert]
      simp [same]
  · next started =>
    cases found : g.feeds[other]? with
    | none => rfl
    | some entry =>
      obtain ⟨state, store⟩ := entry
      by_cases same : feed = other
      · subst same
        cases state with
        | notStarted => exact absurd found (started store)
        | running => simp
        | synced => simp
      · simp [same]

theorem getElem?_markSynced (g : Gate) (feed other : FeedId) :
    (g.markSynced feed).2.feeds[other]? =
      (g.feeds[other]?).map fun entry =>
        if feed = other then { entry with state := .synced } else entry := by
  unfold markSynced
  split
  · next unknown =>
    by_cases same : feed = other
    · subst same
      simp [unknown]
    · cases g.feeds[other]? <;> simp [same]
  · next state store found =>
    by_cases same : feed = other
    · subst same
      split <;> simp_all
    · split <;> simp [Std.TreeMap.getElem?_insert, same]

@[simp] theorem isSealed_markRunning (g : Gate) (feed : FeedId) :
    (g.markRunning feed).2.isSealed = g.isSealed := by
  unfold markRunning
  split <;> rfl

@[simp] theorem isSealed_markSynced (g : Gate) (feed : FeedId) :
    (g.markSynced feed).2.isSealed = g.isSealed := by
  unfold markSynced
  split
  · rfl
  · split <;> rfl

/-! ### Synced feeds -/

def isSynced (g : Gate) (feed : FeedId) : Bool := g.state? feed = some .synced

/-- A report that a feed is running makes no feed synced. -/
@[simp] theorem isSynced_markRunning (g : Gate) (feed other : FeedId) :
    (g.markRunning feed).2.isSynced other = g.isSynced other := by
  rw [isSynced, isSynced, state?_markRunning]
  by_cases starts : feed = other ∧ g.state? other = some .notStarted
  · simp [starts]
  · rw [if_neg starts]

/-- A feed that is registered is synced after the report. -/
theorem isSynced_markSynced {g : Gate} {feed : FeedId} (known : (g.state? feed).isSome = true) :
    (g.markSynced feed).2.isSynced feed = true := by
  simp [isSynced, state?_markSynced, known]

/-- A report is the first for its feed exactly when the feed is registered and not synced. -/
theorem markSynced_fst_of_known {g : Gate} {feed : FeedId} (known : (g.state? feed).isSome = true) :
    (g.markSynced feed).1 = !g.isSynced feed := by
  rw [state?, Option.isSome_map] at known
  obtain ⟨⟨state, store⟩, found⟩ := Option.isSome_iff_exists.1 known
  by_cases already : state = .synced
  · simp [markSynced, isSynced, state?, found, already]
  · simp [markSynced, isSynced, state?, found, already]

/-- The report of a feed that is not registered changes nothing. -/
theorem markRunning_of_unknown {g : Gate} {feed : FeedId} (unknown : g.state? feed = none) :
    g.markRunning feed = (false, g) := by
  rw [state?, Option.map_eq_none_iff] at unknown
  simp only [markRunning, unknown]

theorem markSynced_of_unknown {g : Gate} {feed : FeedId} (unknown : g.state? feed = none) :
    g.markSynced feed = (false, g) := by
  rw [state?, Option.map_eq_none_iff] at unknown
  simp only [markSynced, unknown]

/-! ### Answers -/

theorem mem_listing_iff {g : Gate} {feed : FeedId} {state : FeedState} :
    (feed, state) ∈ g.listing ↔ g.state? feed = some state := by
  rw [listing, List.mem_map, state?_eq_some_iff]
  constructor
  · rintro ⟨⟨feed, entry⟩, member, same⟩
    obtain ⟨rfl, rfl⟩ := Prod.mk.inj same
    exact ⟨entry, mem_toList_feeds.1 member, rfl⟩
  · rintro ⟨entry, found, rfl⟩
    exact ⟨(feed, entry), mem_toList_feeds.2 found, rfl⟩

/-- What an operation on the gate answers: whether the listing of the feeds is another now. -/
def Answers (told : Bool) (g g' : Gate) : Prop := told = true ↔ g'.listing ≠ g.listing

theorem answers_refl (g : Gate) : Answers false g g := by
  simp [Answers]

/-- A feed that changes its state makes for another listing. -/
theorem answers_of_state? {g g' : Gate} {feed : FeedId} {state : FeedState}
    (before : g.state? feed ≠ some state) (after : g'.state? feed = some state) :
    Answers true g g' := by
  refine iff_of_true rfl fun same => before ?_
  rw [← mem_listing_iff, ← same, mem_listing_iff]
  exact after

/-- A registration that is not refused has changed something. -/
theorem answers_register {g g' : Gate} {feed : FeedId} {store : Nat}
    (h : g.register feed store = .ok g') : Answers true g g' := by
  rcases register_eq g feed store with ⟨-, refused⟩ | ⟨-, -, refused⟩ | ⟨-, fresh, taken⟩
  · rw [refused] at h
    contradiction
  · rw [refused] at h
    contradiction
  · have unknown : g.state? feed ≠ some .notStarted := by simp [fresh]
    refine answers_of_state? unknown ?_
    rw [state?, getElem?_register h, if_pos rfl]
    rfl

/-- The answer of a report is that of the listing, so whoever is told of it misses nothing. -/
theorem answers_markRunning (g : Gate) (feed : FeedId) :
    Answers (g.markRunning feed).1 g (g.markRunning feed).2 := by
  have state := g.state?_markRunning feed feed
  unfold markRunning at state ⊢
  split
  · next store found =>
    have before : g.state? feed = some .notStarted := by simp [state?, found]
    rw [found, if_pos ⟨rfl, before⟩] at state
    exact answers_of_state? (by simp [before]) state
  · exact answers_refl g

/-- A report of a sync is answered by whether it has changed anything. -/
theorem answers_markSynced (g : Gate) (feed : FeedId) :
    Answers (g.markSynced feed).1 g (g.markSynced feed).2 := by
  have state := g.state?_markSynced feed feed
  unfold markSynced at state ⊢
  split
  · exact answers_refl g
  · next before store found =>
    split
    · exact answers_refl g
    · next unsynced =>
      have known : g.state? feed = some before := by simp [state?, found]
      rw [found, if_pos ⟨rfl, by simp [known]⟩] at state
      simp only [if_neg unsynced] at state
      exact answers_of_state? (by simpa [known] using unsynced) state

/-- Where nothing is told, the feeds are as far as they were. -/
theorem Answers.allSynced {g g' : Gate} (h : Answers false g g') : g'.allSynced = g.allSynced := by
  have all (g : Gate) : g.allSynced = g.listing.all fun listed => listed.2 = .synced := by
    rw [Gate.allSynced, listing, List.all_map]
    rfl
  have same : g'.listing = g.listing := by simpa [Answers] using h
  rw [all, all, same]

/-! ### Growth -/

/-- What becomes of a gate: feeds keep their stores and never go back, a seal is never broken, and
a sealed gate takes no feeds. -/
structure Grows (g g' : Gate) : Prop where
  keeps (feed : FeedId) (entry : FeedEntry) : g.feeds[feed]? = some entry →
    ∃ later, g'.feeds[feed]? = some later ∧ later.store = entry.store ∧
      entry.state.rank ≤ later.state.rank
  isSealed : g.isSealed = true → g'.isSealed = true
  closed (feed : FeedId) : g.isSealed = true → (g'.feeds[feed]?).isSome → (g.feeds[feed]?).isSome

theorem Grows.refl (g : Gate) : g.Grows g :=
  ⟨fun _ entry found => ⟨entry, found, rfl, Nat.le_refl _⟩, id, fun _ _ there => there⟩

theorem Grows.trans {g₁ g₂ g₃ : Gate} (first : g₁.Grows g₂) (last : g₂.Grows g₃) :
    g₁.Grows g₃ := by
  constructor
  · intro feed entry found
    obtain ⟨middle, found', store, rank⟩ := first.keeps feed entry found
    obtain ⟨later, found'', store', rank'⟩ := last.keeps feed middle found'
    exact ⟨later, found'', store'.trans store, Nat.le_trans rank rank'⟩
  · exact fun h => last.isSealed (first.isSealed h)
  · exact fun feed h there => first.closed feed h (last.closed feed (first.isSealed h) there)

theorem grows_register {g g' : Gate} {feed : FeedId} {store : Nat}
    (h : g.register feed store = .ok g') : g.Grows g' := by
  have found := getElem?_register h
  rcases register_eq g feed store with ⟨-, refused⟩ | ⟨-, -, refused⟩ | ⟨opened, fresh, taken⟩
  · rw [refused] at h
    contradiction
  · rw [refused] at h
    contradiction
  · constructor
    · intro other entry there
      refine ⟨entry, ?_, rfl, Nat.le_refl _⟩
      have different : feed ≠ other := by
        rintro rfl
        simp [state?, there] at fresh
      rw [found, if_neg different, there]
    · intro closed
      rw [opened] at closed
      contradiction
    · intro other closed
      rw [opened] at closed
      contradiction

theorem grows_markRunning (g : Gate) (feed : FeedId) : g.Grows (g.markRunning feed).2 := by
  constructor
  · intro other entry found
    rw [getElem?_markRunning, found, Option.map_some]
    by_cases starts : feed = other ∧ entry.state = .notStarted
    · rw [if_pos starts]
      refine ⟨_, rfl, rfl, ?_⟩
      simp [starts.2, FeedState.rank]
    · rw [if_neg starts]
      exact ⟨entry, rfl, rfl, Nat.le_refl _⟩
  · rw [isSealed_markRunning]
    exact id
  · intro other _ there
    rw [getElem?_markRunning, Option.isSome_map] at there
    exact there

theorem grows_markSynced (g : Gate) (feed : FeedId) : g.Grows (g.markSynced feed).2 := by
  constructor
  · intro other entry found
    rw [getElem?_markSynced, found, Option.map_some]
    by_cases same : feed = other
    · rw [if_pos same]
      refine ⟨_, rfl, rfl, ?_⟩
      cases entry.state <;> simp [FeedState.rank]
    · rw [if_neg same]
      exact ⟨entry, rfl, rfl, Nat.le_refl _⟩
  · rw [isSealed_markSynced]
    exact id
  · intro other _ there
    rw [getElem?_markSynced, Option.isSome_map] at there
    exact there

theorem grows_beginWait (g : Gate) : g.Grows g.beginWait :=
  ⟨fun _ entry found => ⟨entry, found, rfl, Nat.le_refl _⟩, fun _ => rfl, fun _ _ there => there⟩

/-! ### What stays -/

variable {g g' : Gate}

/-- A synced feed stays synced, with the same store. -/
theorem Grows.synced (grows : g.Grows g') {feed : FeedId} {store : Nat}
    (h : g.feeds[feed]? = some ⟨.synced, store⟩) : g'.feeds[feed]? = some ⟨.synced, store⟩ := by
  obtain ⟨⟨state, id⟩, found, same, rank⟩ := grows.keeps feed _ h
  obtain rfl : id = store := same
  obtain rfl : state = .synced := FeedState.eq_synced_of_rank_le rank
  exact found

/-- A feed is registered with the store of a number. -/
def Binds (g : Gate) (feed : FeedId) (store : Nat) : Prop :=
  ∃ entry, g.feeds[feed]? = some entry ∧ entry.store = store

theorem Binds.grows {feed : FeedId} {store : Nat} (h : g.Binds feed store) (grows : g.Grows g') :
    g'.Binds feed store := by
  obtain ⟨entry, found, rfl⟩ := h
  obtain ⟨later, found', same, -⟩ := grows.keeps feed entry found
  exact ⟨later, found', same⟩

/-- A feed has one store only. -/
theorem Binds.unique {feed : FeedId} {store store' : Nat} (h : g.Binds feed store)
    (h' : g.Binds feed store') : store = store' := by
  obtain ⟨entry, found, rfl⟩ := h
  obtain ⟨entry', found', rfl⟩ := h'
  rw [found, Option.some.injEq] at found'
  rw [found']

/-- A feed that is taken is bound to the store that is given with it. -/
theorem binds_of_register {feed : FeedId} {store : Nat} (h : g.register feed store = .ok g') :
    g'.Binds feed store :=
  ⟨⟨.notStarted, store⟩, by rw [getElem?_register h, if_pos rfl], rfl⟩

/-- The feeds of a sealed gate are bound for good, and no others are. -/
theorem Grows.binds_iff (grows : g.Grows g') (closed : g.isSealed = true) {feed : FeedId}
    {store : Nat} : g'.Binds feed store ↔ g.Binds feed store := by
  constructor
  · rintro ⟨entry', found', rfl⟩
    have there : (g.feeds[feed]?).isSome := grows.closed feed closed (by rw [found']; rfl)
    obtain ⟨entry, found⟩ := Option.isSome_iff_exists.1 there
    have bound : g.Binds feed entry.store := ⟨entry, found, rfl⟩
    rwa [(bound.grows grows).unique ⟨entry', found', rfl⟩] at bound
  · exact fun bound => bound.grows grows

/-- The feeds of a sealed gate are its feeds for good. -/
theorem Grows.isSome_iff (grows : g.Grows g') (h : g.isSealed = true) (feed : FeedId) :
    (g'.feeds[feed]?).isSome ↔ (g.feeds[feed]?).isSome := by
  refine ⟨grows.closed feed h, ?_⟩
  intro there
  obtain ⟨entry, found⟩ := Option.isSome_iff_exists.1 there
  obtain ⟨later, found', -, -⟩ := grows.keeps feed entry found
  rw [found']
  rfl

/-- **A sealed gate stays synced.** -/
theorem Grows.allSynced (grows : g.Grows g') (closed : g.isSealed = true)
    (h : g.allSynced = true) : g'.allSynced = true := by
  rw [allSynced_iff] at h ⊢
  intro feed entry found
  have there : (g.feeds[feed]?).isSome := grows.closed feed closed (by rw [found]; rfl)
  obtain ⟨⟨state, store⟩, found'⟩ := Option.isSome_iff_exists.1 there
  obtain rfl : state = .synced := h feed _ found'
  have same := grows.synced found'
  rw [found, Option.some.injEq] at same
  rw [same]

end Gate

end SchedulerHost.Feed
