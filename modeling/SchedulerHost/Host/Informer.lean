import SchedulerHost.Host.Cache
import SchedulerHost.Host.Script

/-!
# Informers

An informer keeps the store of one feed in step with something outside, and reports to the gate
once its first listing is in place. A driver registers the feed; launching it starts the informer.
-/

namespace SchedulerHost.Host

open Feed (FeedId GateFault)
open Json (Value)

/-- What an informer does in its script. -/
inductive FeedAction where
  | insert (key : String) (object : Value)
  | remove (key : String)
  | replace (listing : List (String × Value))
  | sync
deriving DecidableEq

/-- An informer: its feed and its script. -/
structure Informer where
  feed : FeedId
  script : List (Action FeedAction)
deriving DecidableEq

/-- An informer whose feed is registered, with the number of its store. -/
structure Driver where
  informer : Informer
  store : Nat
deriving DecidableEq

/-- An informer that has been launched, with the token that stops it. -/
structure InformerTask where
  feed : FeedId
  store : Nat
  stop : Token
  play : Performance FeedAction
deriving DecidableEq

def Driver.register (s : Surroundings) (c : Cache) (informer : Informer) :
    Except GateFault (Driver × Surroundings × Cache) :=
  match registerFeed s c informer.feed with
  | .error fault => .error fault
  | .ok (id, s, c) => .ok (⟨informer, id⟩, s, c)

/-- Launches an informer: its feed is running from now on, its task takes its first step later. The
answer tells whether the feed has changed. -/
def Driver.launch (d : Driver) (c : Cache) (stop : Token) : InformerTask × Bool × Cache :=
  (⟨d.informer.feed, d.store, stop, .ofScript d.informer.script⟩, c.markRunning d.informer.feed)

namespace InformerTask

/-- Performs an action of an informer, and tells whether it changes the state of a feed. -/
def perform (s : Surroundings) (c : Cache) (t : InformerTask) :
    FeedAction → Bool × Surroundings × Cache
  | .insert key object => (false, s, c.modifyStore t.store fun store => (store.insert key object).2)
  | .remove key => (false, s, c.modifyStore t.store fun store => (store.remove key).2)
  | .replace listing => (false, s, c.modifyStore t.store fun store => store.replace listing)
  | .sync =>
    let (first, s, c) := reportSynced s c (.informer t.feed) t.feed
    (first, s.call (.informerSync t.feed first), c)

/-- The next step of an informer, if there is one now,
and whether it changes the state of a feed. -/
def step? (s : Surroundings) (c : Cache) (t : InformerTask) :
    Option (Bool × Surroundings × Cache × InformerTask) :=
  match t.play.next? s.now (s.isCancelled t.stop) with
  | none => none
  | some (move, play) =>
    let t' := { t with play := play }
    match move with
    | .begin =>
      some (false, (s.note (.informer t.feed) .informerStarted).call (.informerRun t.feed), c, t')
    | .finish =>
      some (false, (s.call (.informerStop t.feed)).note (.informer t.feed) .informerStopped, c, t')
    | .pass => some (false, s, c, t')
    | .act a =>
      let (told, s, c) := t.perform s c a
      some (told, s, c, t')

def work (t : InformerTask) : Nat := t.play.work fun _ => 1

end InformerTask

end SchedulerHost.Host
