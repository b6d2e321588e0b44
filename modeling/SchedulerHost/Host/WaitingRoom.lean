import SchedulerHost.Host.Clock
import SchedulerHost.Host.Informer
import SchedulerHost.Host.Wait

/-!
# Waiting rooms

A gate with those who wait at it, and with the informers and other writers that report to it.
-/

namespace SchedulerHost.Host

open Feed (FeedId FeedState GateFault)
open Json (Value)

/-- Who proceeds in a waiting room, by number. -/
inductive RoomAgent where
  | informer (index : Nat)
  | wait (index : Nat)
deriving DecidableEq, Hashable

/-- A gate with all who have to do with it: those who registered a feed themselves, the snapshots
that were taken, the informers, those who wait, and the line of who proceeds. -/
structure WaitingRoom where
  surroundings : Surroundings
  cache : Cache
  writers : List (FeedId × Nat)
  snapshots : List (List (FeedId × Nat))
  drivers : List Driver
  informers : List InformerTask
  waits : List Wait
  line : Line RoomAgent

namespace WaitingRoom

def start (stamp : Event.Stamp) : WaitingRoom := ⟨.start stamp, .empty, [], [], [], [], [], .empty⟩

/-! ### Proceeding -/

def awaitsFeeds (r : WaitingRoom) : RoomAgent → Bool
  | .informer _ => false
  | .wait i => r.waits[i]?.any (·.phase = .waiting)

/-- The cache after something was done to it. Those who wait for the feeds are woken when they are
told that a feed has changed. -/
def withCache (r : WaitingRoom) (told : Bool) (c : Cache) : WaitingRoom :=
  if told then { r with cache := c, line := r.line.wake r.awaitsFeeds } else { r with cache := c }

def poll? (r : WaitingRoom) : RoomAgent → Option WaitingRoom
  | .informer i =>
    match r.informers[i]? with
    | none => none
    | some t =>
      (t.step? r.surroundings r.cache).map fun (told, s, c, t) =>
        { r.withCache told c with surroundings := s, informers := r.informers.set i t }
  | .wait i =>
    match r.waits[i]? with
    | none => none
    | some w =>
      (w.step? r.surroundings r.cache.gate).map fun (g, w) =>
        { r with cache := { r.cache with gate := g }, waits := r.waits.set i w }

instance : Machine WaitingRoom RoomAgent where
  now r := r.surroundings.now
  setNow t r := { r with surroundings := { r.surroundings with now := t } }
  line r := r.line
  setLine l r := { r with line := l }
  poll? a r := r.poll? a
  alarms r := r.informers.flatMap (·.play.alarms)
  work r :=
    (r.informers.map (·.work)).foldr (· + ·) 0 + (r.waits.map (·.work)).foldr (· + ·) 0

/-! ### Commands -/

inductive Command where
  | register (feed : FeedId)
  | insert (feed : FeedId) (key : String) (object : Value)
  | replace (feed : FeedId) (listing : List (String × Value))
  | markRunning (feed : FeedId)
  | markSynced (feed : FeedId)
  | isSynced
  | state (feed : FeedId)
  | contents (feed : FeedId)
  | snapshot
  | read (snapshot : Nat) (feed : FeedId)
  | wait (cancel : Token)
  | cancel (token : Token)
  | drive (informer : Informer)
  | launch (driver : Nat) (stop : Token)
  | advance (ms : Nat)

inductive Reply where
  | done
  | refused (fault : GateFault)
  | registered (contents : List (String × Value))
  | noWriter
  | replaced (old : Option Value)
  | flag (b : Bool)
  | state (state : Option FeedState)
  | contents (contents : Option (List (String × Value)))
  | snapshot (view : FeedsView) (summary : String)
  | reading (view : FeedsView) (contents : Option (List (String × Value)))
  | number (n : Nat)
  | driver (n : Nat) (feed : FeedId)

/-- The store of the one who registered a feed. -/
def writer? (r : WaitingRoom) (feed : FeedId) : Option Nat := r.writers.lookup feed

def register (r : WaitingRoom) (feed : FeedId) : WaitingRoom × Reply :=
  match registerFeed r.surroundings r.cache feed with
  | .error fault => (r, .refused fault)
  | .ok (id, s, c) =>
    ({ r.withCache true c with surroundings := s, writers := r.writers ++ [(feed, id)] },
      .registered (c.contents id))

/-- Registers the feed of an informer. -/
def drive (r : WaitingRoom) (informer : Informer) : WaitingRoom × Reply :=
  match Driver.register r.surroundings r.cache informer with
  | .error fault => (r, .refused fault)
  | .ok (driver, s, c) =>
    ({ r.withCache true c with surroundings := s, drivers := r.drivers ++ [driver] },
      .driver r.drivers.length informer.feed)

/-- Launches an informer, and tells the state of its feed. -/
def launch (r : WaitingRoom) (driver : Nat) (stop : Token) : WaitingRoom × Reply :=
  match r.drivers[driver]? with
  | none => (r, .state none)
  | some d =>
    let (task, told, c) := d.launch r.cache stop
    let r := r.withCache told c
    ({ r with
      informers := r.informers ++ [task]
      line := r.line.toBack (.informer r.informers.length) },
      .state (c.gate.state? d.informer.feed))

def wait (r : WaitingRoom) (cancel : Token) : WaitingRoom × Reply :=
  ({ r with waits := r.waits ++ [.new cancel], line := r.line.toBack (.wait r.waits.length) },
    .number r.waits.length)

/-- Does what is asked, without letting anyone else proceed. -/
def perform (r : WaitingRoom) : Command → WaitingRoom × Reply
  | .register feed => r.register feed
  | .insert feed key object =>
    match r.writer? feed with
    | none => (r, .noWriter)
    | some id =>
      ({ r with cache := r.cache.modifyStore id fun store => (store.insert key object).2 },
        .replaced ((r.cache.stores.get id).get? key))
  | .replace feed listing =>
    match r.writer? feed with
    | none => (r, .noWriter)
    | some id =>
      ({ r with cache := r.cache.modifyStore id fun store => store.replace listing }, .done)
  | .markRunning feed =>
    let (told, c) := r.cache.markRunning feed
    (r.withCache told c, .done)
  | .markSynced feed =>
    let (first, s, c) := reportSynced r.surroundings r.cache .outside feed
    ({ r.withCache first c with surroundings := s }, .flag first)
  | .isSynced => (r, .flag r.cache.gate.allSynced)
  | .state feed => (r, .state (r.cache.gate.state? feed))
  | .contents feed => (r, .contents (r.cache.contentsOf? feed))
  | .snapshot =>
    let snapshot := r.cache.gate.snapshot
    ({ r with snapshots := r.snapshots ++ [snapshot] },
      .snapshot (r.cache.view snapshot) (r.cache.summary snapshot))
  | .read index feed =>
    let snapshot := r.snapshots.getD index []
    (r, .reading (r.cache.view snapshot) ((snapshot.lookup feed).map r.cache.contents))
  | .wait cancel => r.wait cancel
  | .cancel token => ({ r with surroundings := r.surroundings.cancel token }, .done)
  | .drive informer => r.drive informer
  | .launch driver stop => r.launch driver stop
  | .advance ms => (Machine.advance ms r, .done)

end WaitingRoom

end SchedulerHost.Host
