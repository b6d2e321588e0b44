import SchedulerHost.Feed.Gate
import SchedulerHost.Feed.Store
import SchedulerHost.Host.Surroundings
import SchedulerHost.Shelf

/-!
# The cache

The gate and the stores of its feeds. Whoever registers a feed gets the number of its store and
keeps writing to it; whoever looks at a synced feed sees the same store.

Main statement: `register_stores`.
-/

namespace SchedulerHost.Host

open Feed (FeedId Gate GateFault Store)

/-- The gate and the stores of its feeds. -/
structure Cache where
  gate : Gate
  stores : Shelf Store

namespace Cache

def empty : Cache := ⟨.empty, .empty⟩

/-- Registers a feed and gives it an empty store. -/
def register (c : Cache) (feed : FeedId) : Except GateFault (Nat × Cache) :=
  match c.gate.register feed c.stores.size with
  | .error fault => .error fault
  | .ok gate => .ok (c.stores.size, ⟨gate, c.stores.add .empty⟩)

def markRunning (c : Cache) (feed : FeedId) : Bool × Cache :=
  let marked := c.gate.markRunning feed
  (marked.1, { c with gate := marked.2 })

def modifyStore (c : Cache) (id : Nat) (f : Store → Store) : Cache :=
  { c with stores := c.stores.put id (f (c.stores.get id)) }

def contents (c : Cache) (id : Nat) : List (String × Json.Value) := (c.stores.get id).toList

/-- The contents of a feed, once it is synced. -/
def contentsOf? (c : Cache) (feed : FeedId) : Option (List (String × Json.Value)) :=
  (c.gate.store? feed).map c.contents

/-- The present contents of the feeds of a snapshot. -/
def view (c : Cache) (snapshot : List (FeedId × Nat)) : FeedsView :=
  snapshot.map fun (feed, id) => (feed, c.contents id)

def summary (c : Cache) (snapshot : List (FeedId × Nat)) : String :=
  "SyncedFeeds \x7b stores: \x7b" ++
    ", ".intercalate (snapshot.map fun (feed, id) =>
      "FeedId(" ++ Text.quoted feed ++ "): " ++ (c.stores.get id).summary) ++
    "\x7d \x7d"

end Cache

/-! ### Reports and their notices -/

def registerFeed (s : Surroundings) (c : Cache) (feed : FeedId) :
    Except GateFault (Nat × Surroundings × Cache) :=
  match c.register feed with
  | .error fault => .error fault
  | .ok (id, c) => .ok (id, s.note .outside (.feedRegistered feed), c)

def noteSync (s : Surroundings) (scope : Scope) (feed : FeedId) : Feed.SyncOutcome → Surroundings
  | .transitioned => s.note scope (.feedSynced feed)
  | .already => s
  | .unknown => s.note scope (.unknownFeedReported feed)

/-- Takes the report that a feed is synced, and tells whether it was the first. -/
def reportSynced (s : Surroundings) (c : Cache) (scope : Scope) (feed : FeedId) :
    Bool × Surroundings × Cache :=
  let marked := c.gate.markSynced feed
  (marked.1, noteSync s scope feed (c.gate.syncOutcome feed), { c with gate := marked.2 })

/-- A registered feed gets a new store, and the others keep theirs. -/
theorem register_stores {c c' : Cache} {feed : FeedId} {id : Nat}
    (h : c.register feed = .ok (id, c')) :
    id = c.stores.size ∧ c'.stores = c.stores.add .empty := by
  unfold Cache.register at h
  split at h
  · contradiction
  · simp only [Except.ok.injEq, Prod.mk.injEq] at h
    obtain ⟨rfl, rfl⟩ := h
    exact ⟨rfl, rfl⟩

end SchedulerHost.Host
