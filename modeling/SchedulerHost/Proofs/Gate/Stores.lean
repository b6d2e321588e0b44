import Mathlib.Data.List.Induction
import SchedulerHost.Proofs.Gate.Reports
import SchedulerHost.Proofs.Text.ByteOrder

/-!
# Stores behind the gate

Whoever registers a feed gets a store and fills it; everyone else comes to it through the gate, and
only once the feed is synced. The gate hands out the store and not a copy of it, so what is seen is
always the present contents.

* `Dealing`: what can be done to a cache, and to the stores that were got from it, in any order.
* `Cache.Sound`: registered feeds have stores of their own; kept by every dealing.
* `Handed`: a registration that was not refused, with what was done since.
* **Stores behind the gate** (`stores_behind_gate`): what a store holds, when it can be seen, what a
  snapshot shows, and what a change of a store or a refused registration leaves alone.
-/

namespace SchedulerHost.Feed

open Json (Value)

inductive Change where
  | insert (key : String) (object : Value)
  | remove (key : String)
  | replace (listing : List (String × Value))

def Store.change (s : Store) : Change → Store
  | .insert key object => (s.insert key object).2
  | .remove key => (s.remove key).2
  | .replace listing => s.replace listing

namespace Gate

variable {g g' : Gate}

/-! ### Snapshots -/

theorem store?_eq_some_iff {feed : FeedId} {store : Nat} :
    g.store? feed = some store ↔ g.feeds[feed]? = some ⟨.synced, store⟩ := by
  unfold store?
  split
  · next found => simp [found]
  · next other =>
    simp only [reduceCtorEq, false_iff]
    exact other store

/-- The store of a feed can be seen exactly when the feed is synced. -/
theorem isSome_store?_iff {feed : FeedId} :
    (g.store? feed).isSome ↔ g.state? feed = some .synced := by
  rw [Option.isSome_iff_exists, state?_eq_some_iff]
  constructor
  · rintro ⟨store, there⟩
    exact ⟨_, store?_eq_some_iff.1 there, rfl⟩
  · rintro ⟨⟨state, store⟩, found, rfl⟩
    exact ⟨store, store?_eq_some_iff.2 found⟩

/-- The feeds of a snapshot ascend byte by byte. -/
theorem pairwise_snapshot (g : Gate) :
    (g.snapshot.map Prod.fst).Pairwise fun a b => Text.bytes a < Text.bytes b := by
  have ordered : g.feeds.toList.Pairwise fun a b => Text.bytes a.1 < Text.bytes b.1 := by
    refine Std.TreeMap.ordered_keys_toList.imp ?_
    intro a b less
    exact Text.bytes_lt_iff.2 ((compareOfLessAndEq_eq_lt (x := a.1) (y := b.1)).1 less)
  rw [List.pairwise_map, snapshot, List.pairwise_filterMap]
  refine ordered.imp ?_
  intro a b less picked there picked' there'
  obtain ⟨-, same⟩ := Option.ite_none_right_eq_some.1 there
  obtain ⟨-, same'⟩ := Option.ite_none_right_eq_some.1 there'
  rw [← Option.some.inj same, ← Option.some.inj same']
  exact less

/-- A snapshot finds the stores that can be seen when it is taken. -/
theorem lookup_snapshot (g : Gate) (feed : FeedId) : g.snapshot.lookup feed = g.store? feed := by
  have found_iff (store : Nat) : (feed, store) ∈ g.snapshot ↔ g.store? feed = some store :=
    mem_snapshot_iff.trans store?_eq_some_iff.symm
  cases found : g.snapshot.lookup feed with
  | some store =>
    obtain ⟨before, after, split, -⟩ := List.lookup_eq_some_iff.1 found
    exact ((found_iff store).1 (by simp [split])).symm
  | none =>
    cases there : g.store? feed with
    | none => rfl
    | some store =>
      have missing := List.lookup_eq_none_iff.1 found _ ((found_iff store).2 there)
      simp at missing

theorem mem_snapshot_feeds_iff {feed : FeedId} :
    feed ∈ g.snapshot.map Prod.fst ↔ g.state? feed = some .synced := by
  rw [← isSome_store?_iff, Option.isSome_iff_exists, List.mem_map]
  constructor
  · rintro ⟨⟨_, store⟩, member, rfl⟩
    exact ⟨store, store?_eq_some_iff.2 (mem_snapshot_iff.1 member)⟩
  · rintro ⟨store, there⟩
    exact ⟨(feed, store), mem_snapshot_iff.2 (store?_eq_some_iff.1 there), rfl⟩

/-- A feed of which the store can be seen has that store. -/
theorem binds_of_store? {feed : FeedId} {store : Nat} (h : g.store? feed = some store) :
    g.Binds feed store := ⟨_, store?_eq_some_iff.1 h, rfl⟩

/-- The store of a feed can be got exactly while the feed is synced. -/
theorem Binds.store?_eq {feed : FeedId} {store : Nat} (h : g.Binds feed store) :
    g.store? feed = if g.state? feed = some .synced then some store else none := by
  split
  · next synced =>
    obtain ⟨other, there⟩ := Option.isSome_iff_exists.1 (isSome_store?_iff.2 synced)
    rw [there, (binds_of_store? there).unique h]
  · next unsynced =>
    rwa [← isSome_store?_iff, Bool.not_eq_true, Option.isSome_eq_false_iff,
      Option.isNone_iff_eq_none] at unsynced

/-- A store that can be seen can be seen for good. -/
theorem Grows.store? (grows : g.Grows g') {feed : FeedId} {store : Nat}
    (h : g.store? feed = some store) : g'.store? feed = some store :=
  store?_eq_some_iff.2 (grows.synced (store?_eq_some_iff.1 h))

end Gate

end SchedulerHost.Feed

namespace SchedulerHost.Host

open Feed (FeedId Gate GateFault Store Change)

/-- What can be done to a cache and to the stores that were got from it. A store is told by the
number that was returned with it. -/
inductive Dealing where
  | register (feed : FeedId)
  | markRunning (feed : FeedId)
  | markSynced (feed : FeedId)
  | wait
  | store (feed : FeedId)
  | syncedFeeds
  | change (id : Nat) (c : Change)

namespace Cache

/-! ### Dealings -/

/-- The cache after a dealing. To look for a store or to take a snapshot changes nothing. -/
def does (c : Cache) : Dealing → Cache
  | .register feed =>
    match c.register feed with
    | .ok (_, registered) => registered
    | .error _ => c
  | .markRunning feed => { c with gate := (c.gate.markRunning feed).2 }
  | .markSynced feed => { c with gate := (c.gate.markSynced feed).2 }
  | .wait => { c with gate := c.gate.beginWait }
  | .store _ => c
  | .syncedFeeds => c
  | .change id change => c.modifyStore id (·.change change)

def after (c : Cache) (past : List Dealing) : Cache := past.foldl does c

/-- What becomes of a cache without feeds. -/
def ofDealings (past : List Dealing) : Cache := empty.after past

theorem after_append (c : Cache) (earlier later : List Dealing) :
    c.after (earlier ++ later) = (c.after earlier).after later := List.foldl_append

def reading (c : Cache) (snapshot : List (FeedId × Nat)) (feed : FeedId) :
    Option (List (String × Json.Value)) :=
  (snapshot.lookup feed).map c.contents

/-- A registration is refused, or it is not. -/
theorem does_register_cases (c : Cache) (feed : FeedId) :
    (∃ fault, c.register feed = .error fault ∧ c.does (.register feed) = c) ∨
      ∃ id, c.register feed = .ok (id, c.does (.register feed)) := by
  cases h : c.register feed with
  | error fault => exact .inl ⟨fault, rfl, by simp only [does, h]⟩
  | ok registered => exact .inr ⟨registered.1, by simp only [does, h]⟩

/-- Whatever is done, the gate grows. -/
theorem grows_does (c : Cache) (d : Dealing) : c.gate.Grows (c.does d).gate := by
  cases d with
  | register feed =>
    rcases c.does_register_cases feed with ⟨_, -, same⟩ | ⟨_, taken⟩
    · rw [same]
      exact .refl _
    · exact Gate.grows_register (register_eq_ok taken).1
  | markRunning feed => exact Gate.grows_markRunning _ feed
  | markSynced feed => exact Gate.grows_markSynced _ feed
  | wait => exact Gate.grows_beginWait _
  | store feed => exact .refl _
  | syncedFeeds => exact .refl _
  | change id change => exact .refl _

theorem grows_after (c : Cache) (past : List Dealing) : c.gate.Grows (c.after past).gate := by
  induction past generalizing c with
  | nil => exact .refl _
  | cons d past ih => exact (c.grows_does d).trans (ih _)

/-- Only a registration gives a feed a store. -/
theorem binds_does {c : Cache} {d : Dealing} {feed : FeedId} {id : Nat}
    (h : (c.does d).gate.Binds feed id) :
    c.gate.Binds feed id ∨
      d = .register feed ∧ c.register feed = .ok (id, c.does (.register feed)) := by
  obtain ⟨entry, found, rfl⟩ := h
  cases d with
  | register other =>
    rcases c.does_register_cases other with ⟨_, -, same⟩ | ⟨number, taken⟩
    · rw [same] at found
      exact .inl ⟨entry, found, rfl⟩
    · rw [Gate.getElem?_register (register_eq_ok taken).1] at found
      split at found
      · next same =>
        obtain rfl := same
        simp only [Option.some.injEq] at found
        obtain rfl := found
        exact .inr ⟨rfl, taken⟩
      · exact .inl ⟨entry, found, rfl⟩
  | markRunning other =>
    left
    change (c.gate.markRunning other).2.feeds[feed]? = _ at found
    rw [Gate.getElem?_markRunning, Option.map_eq_some_iff] at found
    obtain ⟨before, there, rfl⟩ := found
    refine ⟨before, there, ?_⟩
    split <;> rfl
  | markSynced other =>
    left
    change (c.gate.markSynced other).2.feeds[feed]? = _ at found
    rw [Gate.getElem?_markSynced, Option.map_eq_some_iff] at found
    obtain ⟨before, there, rfl⟩ := found
    refine ⟨before, there, ?_⟩
    split <;> rfl
  | wait => exact .inl ⟨entry, found, rfl⟩
  | store other => exact .inl ⟨entry, found, rfl⟩
  | syncedFeeds => exact .inl ⟨entry, found, rfl⟩
  | change id change => exact .inl ⟨entry, found, rfl⟩

/-! ### The stores -/

def changesOf (id : Nat) (past : List Dealing) : List Change :=
  past.filterMap fun
    | .change other c => if other = id then some c else none
    | _ => none

theorem size_le_does (c : Cache) (d : Dealing) : c.stores.size ≤ (c.does d).stores.size := by
  cases d with
  | register feed =>
    rcases c.does_register_cases feed with ⟨_, -, same⟩ | ⟨_, taken⟩
    · exact Nat.le_of_eq (congrArg (·.stores.size) same.symm)
    · rw [(register_eq_ok taken).2.2, Shelf.size_add]
      exact Nat.le_succ _
  | change id change => exact Nat.le_of_eq (Shelf.size_put _ _ _).symm
  | markRunning feed => exact Nat.le_refl _
  | markSynced feed => exact Nat.le_refl _
  | wait => exact Nat.le_refl _
  | store feed => exact Nat.le_refl _
  | syncedFeeds => exact Nat.le_refl _

/-- A dealing changes a store only if it is a change of that store. -/
theorem get_does (c : Cache) (d : Dealing) {id : Nat} (inside : id < c.stores.size) :
    (c.does d).stores.get id = (changesOf id [d]).foldl Store.change (c.stores.get id) := by
  cases d with
  | register feed =>
    rcases c.does_register_cases feed with ⟨_, -, same⟩ | ⟨_, taken⟩
    · rw [same]
      rfl
    · rw [(register_eq_ok taken).2.2, Shelf.get_add_of_lt _ _ inside]
      rfl
  | change other change =>
    by_cases same : other = id
    · subst same
      have changes : changesOf other [.change other change] = [change] := by simp [changesOf]
      rw [changes]
      exact Shelf.get_put _ _ inside
    · have changes : changesOf id [.change other change] = [] := by simp [changesOf, same]
      rw [changes]
      exact Shelf.get_put_of_ne _ _ same
  | markRunning feed => rfl
  | markSynced feed => rfl
  | wait => rfl
  | store feed => rfl
  | syncedFeeds => rfl

/-- A store holds what the changes to it have made of it. -/
theorem get_after (c : Cache) (past : List Dealing) {id : Nat} (inside : id < c.stores.size) :
    (c.after past).stores.get id =
      (changesOf id past).foldl Store.change (c.stores.get id) := by
  induction past generalizing c with
  | nil => rfl
  | cons d past ih =>
    calc ((c.does d).after past).stores.get id
        = (changesOf id past).foldl Store.change ((c.does d).stores.get id) :=
          ih _ (Nat.lt_of_lt_of_le inside (c.size_le_does d))
      _ = (changesOf id [d] ++ changesOf id past).foldl Store.change (c.stores.get id) := by
          rw [get_does c d inside, List.foldl_append]
      _ = (changesOf id (d :: past)).foldl Store.change (c.stores.get id) := by
          rw [changesOf, changesOf, ← List.filterMap_append]
          rfl

/-- Registered feeds have stores, and each has its own. -/
structure Sound (c : Cache) : Prop where
  inside (feed : FeedId) (id : Nat) : c.gate.Binds feed id → id < c.stores.size
  apart (feed other : FeedId) (id : Nat) : c.gate.Binds feed id → c.gate.Binds other id →
    feed = other

theorem sound_empty : empty.Sound := by
  constructor
  · rintro feed id ⟨entry, found, -⟩
    simp [empty, Gate.empty] at found
  · rintro feed other id ⟨entry, found, -⟩
    simp [empty, Gate.empty] at found

theorem Sound.does {c : Cache} (h : c.Sound) (d : Dealing) : (c.does d).Sound := by
  constructor
  · intro feed id bound
    rcases binds_does bound with before | ⟨rfl, taken⟩
    · exact Nat.lt_of_lt_of_le (h.inside feed id before) (c.size_le_does d)
    · obtain ⟨-, rfl, stores⟩ := register_eq_ok taken
      rw [stores, Shelf.size_add]
      exact Nat.lt_succ_self _
  · intro feed other id bound bound'
    rcases binds_does bound with before | ⟨rfl, taken⟩
    · rcases binds_does bound' with before' | ⟨rfl, taken'⟩
      · exact h.apart feed other id before before'
      · -- The new store has a number that no feed had before.
        have fresh := (register_eq_ok taken').2.1
        have old := h.inside feed id before
        omega
    · rcases binds_does bound' with before' | ⟨same, -⟩
      · have fresh := (register_eq_ok taken).2.1
        have old := h.inside other id before'
        omega
      · exact (Dealing.register.injEq _ _ ▸ same : feed = other)

theorem Sound.after {c : Cache} (h : c.Sound) (past : List Dealing) : (c.after past).Sound := by
  induction past generalizing c with
  | nil => exact h
  | cons d past ih => exact ih (h.does d)

/-- Whatever was done with a cache, its feeds have stores of their own. -/
theorem sound_ofDealings (past : List Dealing) : (ofDealings past).Sound := sound_empty.after past

/-! ### What was registered -/

/-- A registration of a feed returned the store of a number, and something was done since. -/
def Handed (past : List Dealing) (feed : FeedId) (id : Nat) (later : List Dealing) : Prop :=
  ∃ earlier c, past = earlier ++ .register feed :: later ∧
    (ofDealings earlier).register feed = .ok (id, c)

theorem ofDealings_append (earlier later : List Dealing) :
    ofDealings (earlier ++ later) = (ofDealings earlier).after later := after_append _ _ _

theorem Handed.append {past : List Dealing} {feed : FeedId} {id : Nat} {later : List Dealing}
    (h : Handed past feed id later) (more : List Dealing) :
    Handed (past ++ more) feed id (later ++ more) := by
  obtain ⟨earlier, c, rfl, taken⟩ := h
  exact ⟨earlier, c, by simp, taken⟩

/-- What a cache is after a registration that was not refused. -/
theorem Handed.exists_after {past : List Dealing} {feed : FeedId} {id : Nat} {later : List Dealing}
    (h : Handed past feed id later) :
    ∃ c : Cache, ofDealings past = c.after later ∧ c.gate.Binds feed id ∧ id < c.stores.size ∧
      c.stores.get id = .empty := by
  obtain ⟨earlier, c, rfl, taken⟩ := h
  obtain ⟨accepted, rfl, stores⟩ := register_eq_ok taken
  refine ⟨c, ?_, Gate.binds_of_register accepted, ?_, ?_⟩
  · rw [ofDealings_append]
    show ((ofDealings earlier).does (.register feed)).after later = c.after later
    simp only [does, taken]
  · rw [stores, Shelf.size_add]
    exact Nat.lt_succ_self _
  · rw [stores, Shelf.get_add_size]

/-- A feed keeps the store that its registration returned. -/
theorem Handed.binds {past : List Dealing} {feed : FeedId} {id : Nat} {later : List Dealing}
    (h : Handed past feed id later) : (ofDealings past).gate.Binds feed id := by
  obtain ⟨c, same, bound, -⟩ := h.exists_after
  rw [same]
  exact bound.grows (c.grows_after later)

/-- A store holds what was made of it since it was returned. -/
theorem Handed.get {past : List Dealing} {feed : FeedId} {id : Nat} {later : List Dealing}
    (h : Handed past feed id later) :
    (ofDealings past).stores.get id = (changesOf id later).foldl Store.change .empty := by
  obtain ⟨c, same, -, inside, fresh⟩ := h.exists_after
  rw [same, get_after c later inside, fresh]

/-- A feed that has a store was registered. -/
theorem exists_handed {past : List Dealing} {feed : FeedId} {id : Nat}
    (h : (ofDealings past).gate.Binds feed id) : ∃ later, Handed past feed id later := by
  induction past using List.reverseRecOn with
  | nil =>
    obtain ⟨entry, found, -⟩ := h
    simp [ofDealings, after, empty, Gate.empty] at found
  | append_singleton past d ih =>
    rw [ofDealings_append] at h
    rcases binds_does h with before | ⟨rfl, taken⟩
    · obtain ⟨later, handed⟩ := ih before
      exact ⟨later ++ [d], handed.append [d]⟩
    · exact ⟨[], past, _, rfl, taken⟩

/-- Only a registration gives a feed a store. -/
theorem binds_iff_handed {past : List Dealing} {feed : FeedId} {id : Nat} :
    (ofDealings past).gate.Binds feed id ↔ ∃ later, Handed past feed id later :=
  ⟨exists_handed, fun ⟨_, h⟩ => h.binds⟩

/-! ### Looking -/

/-- What a snapshot shows of a feed is what the feed's store holds now. -/
theorem reading_after (c : Cache) (later : List Dealing) (feed : FeedId) :
    (c.after later).reading c.gate.snapshot feed =
      if c.gate.state? feed = some .synced then (c.after later).contentsOf? feed else none := by
  rw [reading, Gate.lookup_snapshot]
  split
  · next synced =>
    obtain ⟨id, there⟩ := Option.isSome_iff_exists.1 (Gate.isSome_store?_iff.2 synced)
    rw [contentsOf?, there, (c.grows_after later).store? there]
  · next unsynced =>
    rw [← Gate.isSome_store?_iff, Bool.not_eq_true, Option.isSome_eq_false_iff,
      Option.isNone_iff_eq_none] at unsynced
    rw [unsynced, Option.map_none]

/-- A change of one store leaves the others alone. -/
theorem get_change_of_ne (c : Cache) {id other : Nat} (change : Change) (different : id ≠ other) :
    (c.does (.change id change)).stores.get other = c.stores.get other :=
  Shelf.get_put_of_ne _ _ different

/-- What is seen of one feed does not depend on the stores of the others. -/
theorem Sound.contentsOf?_change {c : Cache} (h : c.Sound) {feed other : FeedId} {id : Nat}
    (bound : c.gate.Binds feed id) (different : other ≠ feed) (change : Change) :
    (c.does (.change id change)).contentsOf? other = c.contentsOf? other := by
  show (c.gate.store? other).map _ = (c.gate.store? other).map _
  apply Option.map_congr
  intro number there
  have apart : id ≠ number := by
    rintro rfl
    exact different (h.apart other feed id (Gate.binds_of_store? there) bound)
  rw [contents, contents, get_change_of_ne c change apart]

/-- **Stores behind the gate.** Whatever was done, and in whatever order: the store of a feed can be
seen exactly when the feed is registered and synced, and it is the store that the registration
returned, with all that was made of it since. No two feeds have one store, and a change of one
leaves alone what is seen of the others. A snapshot has the feeds that were synced when it was
taken, in the order of their bytes; it keeps them, and shows what their stores hold now. A
registration that is refused does nothing. -/
theorem stores_behind_gate (past : List Dealing) :
    (∀ feed, ((ofDealings past).gate.store? feed).isSome ↔
      (ofDealings past).gate.state? feed = some .synced) ∧
    (∀ feed, ((ofDealings past).gate.state? feed).isSome ↔ ∃ id later, Handed past feed id later) ∧
    (∀ feed id later, Handed past feed id later →
      (ofDealings past).gate.store? feed =
        (if (ofDealings past).gate.state? feed = some .synced then some id else none) ∧
      (ofDealings past).stores.get id = (changesOf id later).foldl Store.change .empty) ∧
    (∀ feed other id id' later later', Handed past feed id later → Handed past other id' later' →
      (id = id' ↔ feed = other)) ∧
    (∀ feed other id later change, Handed past feed id later → other ≠ feed →
      (ofDealings (past ++ [.change id change])).contentsOf? other =
        (ofDealings past).contentsOf? other ∧
      (∀ id' later', Handed past other id' later' →
        (ofDealings (past ++ [.change id change])).stores.get id' =
          (ofDealings past).stores.get id') ∧
      ∀ earlier rest, past = earlier ++ rest →
        (ofDealings (past ++ [.change id change])).reading (ofDealings earlier).gate.snapshot
            other =
          (ofDealings past).reading (ofDealings earlier).gate.snapshot other) ∧
    (∀ feed, feed ∈ (ofDealings past).gate.snapshot.map Prod.fst ↔
      (ofDealings past).gate.state? feed = some .synced) ∧
    ((ofDealings past).gate.snapshot.map Prod.fst).Pairwise
      (fun a b => Text.bytes a < Text.bytes b) ∧
    (∀ later,
      ((ofDealings (past ++ later)).view (ofDealings past).gate.snapshot).map Prod.fst =
        (ofDealings past).gate.snapshot.map Prod.fst ∧
      ∀ feed, (ofDealings (past ++ later)).reading (ofDealings past).gate.snapshot feed =
        if (ofDealings past).gate.state? feed = some .synced
        then (ofDealings (past ++ later)).contentsOf? feed else none) ∧
    ∀ feed fault, (ofDealings past).register feed = .error fault →
      ofDealings (past ++ [.register feed]) = ofDealings past := by
  have sound := sound_ofDealings past
  refine ⟨fun _ => Gate.isSome_store?_iff, ?_, fun _ _ _ h => ⟨h.binds.store?_eq, h.get⟩, ?_, ?_,
    fun _ => Gate.mem_snapshot_feeds_iff, Gate.pairwise_snapshot _, ?_, ?_⟩
  · intro feed
    simp only [← binds_iff_handed]
    rw [Gate.state?, Option.isSome_map, Option.isSome_iff_exists]
    constructor
    · rintro ⟨entry, found⟩
      exact ⟨entry.store, entry, found, rfl⟩
    · rintro ⟨_, entry, found, -⟩
      exact ⟨entry, found⟩
  · intro feed other id id' later later' h h'
    constructor
    · rintro rfl
      exact sound.apart feed other id h.binds h'.binds
    · rintro rfl
      exact h.binds.unique h'.binds
  · intro feed other id later change h different
    rw [ofDealings_append]
    have seen := sound.contentsOf?_change h.binds different change
    refine ⟨seen, ?_, ?_⟩
    · intro id' later' h'
      apply get_change_of_ne
      rintro rfl
      exact different (sound.apart other feed id h'.binds h.binds)
    · rintro earlier rest rfl
      have now := reading_after (ofDealings earlier) rest other
      have next := reading_after (ofDealings earlier) (rest ++ [.change id change]) other
      rw [after_append, ← ofDealings_append] at next
      rw [← ofDealings_append] at now
      rw [now, next]
      exact if_congr Iff.rfl seen rfl
  · intro later
    refine ⟨?_, ?_⟩
    · rw [view, List.map_map]
      rfl
    · intro feed
      rw [ofDealings_append]
      exact reading_after _ later feed
  · intro feed fault refused
    rw [ofDealings_append]
    show (ofDealings past).does (.register feed) = _
    simp only [does, refused]

/-- What is put into a store before its feed is synced is seen afterwards. -/
example : (ofDealings [.register "nodes", .change 0 (.insert "node-1" .null),
    .markSynced "nodes"]).contentsOf? "nodes" = some [("node-1", .null)] := by rfl

end Cache

end SchedulerHost.Host
