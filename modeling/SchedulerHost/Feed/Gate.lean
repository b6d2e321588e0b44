import SchedulerHost.Numeric.Numeral
import Std.Data.TreeMap

/-!
# The gate

The readiness of a set of feeds. Feeds are registered until a wait for all of them begins; that
seals the gate. A feed starts, runs and is synced, and never goes back.

Main statements: `state?_markSynced` and `state?_markRunning`, which say what a report does to the
state of every feed.
-/

namespace SchedulerHost.Feed

abbrev FeedId := String

/-- How far a feed has come. -/
inductive FeedState where
  | notStarted
  | running
  | synced
deriving DecidableEq

def FeedState.name : FeedState → String
  | .notStarted => "not-started"
  | .running => "running"
  | .synced => "synced"

/-- A registered feed: how far it has come, and the number of its store. -/
structure FeedEntry where
  state : FeedState
  store : Nat
deriving DecidableEq

/-- The registered feeds, and whether a wait has begun. -/
structure Gate where
  feeds : Std.TreeMap FeedId FeedEntry
  isSealed : Bool

/-- Why a feed cannot be registered. -/
inductive GateFault where
  | sealed (feed : FeedId)
  | duplicate (feed : FeedId)
deriving DecidableEq

def GateFault.message : GateFault → String
  | .sealed feed => "Feed '" ++ feed ++ "' registered after the sync wait began"
  | .duplicate feed => "Feed '" ++ feed ++ "' is already registered"

/-- What a report of a sync comes to. -/
inductive SyncOutcome where
  | transitioned
  | already
  | unknown
deriving DecidableEq

namespace Gate

def empty : Gate := ⟨∅, false⟩

instance : Inhabited Gate := ⟨empty⟩

/-! ### Looking -/

def state? (g : Gate) (feed : FeedId) : Option FeedState := (g.feeds[feed]?).map (·.state)

/-- The registered feeds in ascending order, with their states. -/
def listing (g : Gate) : List (FeedId × FeedState) :=
  g.feeds.toList.map fun (feed, entry) => (feed, entry.state)

def allSynced (g : Gate) : Bool := g.feeds.toList.all fun (_, entry) => entry.state = .synced

/-- The store of a feed, once it is synced. -/
def store? (g : Gate) (feed : FeedId) : Option Nat :=
  match g.feeds[feed]? with
  | some ⟨.synced, store⟩ => some store
  | _ => none

/-- The feeds that are synced, in ascending order, with the numbers of their stores. -/
def snapshot (g : Gate) : List (FeedId × Nat) :=
  g.feeds.toList.filterMap fun (feed, entry) =>
    if entry.state = .synced then some (feed, entry.store) else none

/-- The feeds that are not synced, in ascending order, with their states. -/
def pending (g : Gate) : List (FeedId × FeedState) := g.listing.filter fun (_, s) => s ≠ .synced

/-! ### Changing -/

def register (g : Gate) (feed : FeedId) (store : Nat) : Except GateFault Gate :=
  if g.isSealed then .error (.sealed feed)
  else if g.feeds.contains feed then .error (.duplicate feed)
  else .ok { g with feeds := g.feeds.insert feed ⟨.notStarted, store⟩ }

/-- Takes the report that a feed is running, and tells whether anything has changed. -/
def markRunning (g : Gate) (feed : FeedId) : Bool × Gate :=
  match g.feeds[feed]? with
  | some ⟨.notStarted, store⟩ => (true, { g with feeds := g.feeds.insert feed ⟨.running, store⟩ })
  | _ => (false, g)

/-- What the report that a feed is synced comes to. -/
def syncOutcome (g : Gate) (feed : FeedId) : SyncOutcome :=
  match g.feeds[feed]? with
  | none => .unknown
  | some entry => if entry.state = .synced then .already else .transitioned

/-- Takes the report that a feed is synced, and tells whether anything has changed. -/
def markSynced (g : Gate) (feed : FeedId) : Bool × Gate :=
  match g.feeds[feed]? with
  | none => (false, g)
  | some ⟨state, store⟩ =>
    if state = .synced then (false, g)
    else (true, { g with feeds := g.feeds.insert feed ⟨.synced, store⟩ })

/-- A wait begins: no further feeds are taken. -/
def beginWait (g : Gate) : Gate := { g with isSealed := true }

/-! ### What reports do -/

/-- A feed that had not started is running after the report; all else is as before. -/
theorem state?_markRunning (g : Gate) (feed other : FeedId) :
    (g.markRunning feed).2.state? other =
      if feed = other ∧ g.state? other = some .notStarted then some .running
      else g.state? other := by
  unfold markRunning state?
  split
  · next store h =>
    by_cases same : feed = other
    · subst same
      simp [h]
    · simp [Std.TreeMap.getElem?_insert, same]
  · next h =>
    by_cases same : feed = other
    · subst same
      cases found : g.feeds[feed]? with
      | none => simp
      | some entry =>
        obtain ⟨state, store⟩ := entry
        cases state with
        | notStarted => exact absurd found (h store)
        | running => simp
        | synced => simp
    · simp [same]

/-- A registered feed is synced after the report; all else is as before. -/
theorem state?_markSynced (g : Gate) (feed other : FeedId) :
    (g.markSynced feed).2.state? other =
      if feed = other ∧ (g.state? other).isSome then some .synced else g.state? other := by
  unfold markSynced state?
  split
  · next h =>
    by_cases same : feed = other
    · subst same
      simp [h]
    · simp [same]
  · next state store h =>
    by_cases same : feed = other
    · subst same
      split <;> simp_all
    · split <;> simp [Std.TreeMap.getElem?_insert, same]

end Gate

end SchedulerHost.Feed
