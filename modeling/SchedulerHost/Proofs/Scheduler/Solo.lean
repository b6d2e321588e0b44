import Mathlib.Logic.Relation
import SchedulerHost.Proofs.Scheduler.Topics

/-!
# An informer by itself

What an informer does when there is nobody else: it takes the steps of its script as soon as it can,
time goes on when it cannot, and the shutdown comes when it is to come.

* `Deed`, `Cue`: what an informer has done and when, and when the shutdown comes.
* **One effect per step** (`InformerTask.step?_effect`): what a step does to the store and the feed
  of an informer, and what is entered of it, depends on nothing else.
* **There is one way to go on** (`Solo.step_unique`), so an informer comes to rest at a moment in
  one way only (`Solo.eq_of_rests`).
-/

namespace SchedulerHost.Host

open Feed (FeedId)
open Relation (ReflTransGen)
open Surroundings (Tells tells_note tells_call)

/-! ### Deeds -/

/-- Something that an informer has done, and when. -/
structure Deed where
  time : Nat
  move : Move FeedAction

/-- When the shutdown comes: the moment, and how many steps an informer takes
at that moment before. -/
structure Cue where
  time : Nat
  after : Nat
deriving DecidableEq

def countAt (time : Nat) (deeds : List Deed) : Nat := (deeds.filter (·.time = time)).length

theorem countAt_append (time : Nat) (deeds : List Deed) (move : Move FeedAction) :
    countAt time (deeds ++ [⟨time, move⟩]) = countAt time deeds + 1 := by
  simp [countAt]

/-- What an action makes of the store of the feed. -/
def FeedAction.write (store : Feed.Store) : FeedAction → Feed.Store
  | .insert key object => (store.insert key object).2
  | .remove key => (store.remove key).2
  | .replace listing => store.replace listing
  | .sync => store

def Move.write (store : Feed.Store) : Move FeedAction → Feed.Store
  | .act a => a.write store
  | _ => store

def Move.isReport : Move FeedAction → Bool
  | .act .sync => true
  | _ => false

/-- The call that a step of an informer makes, if it makes one: a report is answered by whether it
is the first. -/
def Move.call? (feed : FeedId) (synced : Bool) : Move FeedAction → Option Call
  | .begin => some (.informerRun feed)
  | .finish => some (.informerStop feed)
  | .act .sync => some (.informerSync feed !synced)
  | _ => none

/-- The entry that a step of an informer makes for its call. -/
def Deed.entry? (feed : FeedId) (synced : Bool) (d : Deed) : Option Entry :=
  (d.move.call? feed synced).map fun call => ⟨d.time, .call call⟩

def Entry.ofFeed? (feed : FeedId) (e : Entry) : Option Entry :=
  if e.topic = .feed feed then some e else none

/-! ### The effect of a step -/

/-- What a step of an informer does to its feed, and what is entered of it. -/
structure InformerTask.Effect (t : InformerTask) (s : Surroundings) (c : Cache)
    (move : Move FeedAction) (s' : Surroundings) (c' : Cache) : Prop where
  store : c'.stores.get t.store = move.write (c.stores.get t.store)
  isSynced : c'.gate.isSynced t.feed = (c.gate.isSynced t.feed || move.isReport)
  told : Tells (Entry.ofFeed? t.feed)
    (Deed.entry? t.feed (c.gate.isSynced t.feed) ⟨s.now, move⟩).toList s s'

variable {s s' : Surroundings} {c c' : Cache} {t t' : InformerTask}

/-- A change of the store of the feed is not told. -/
theorem InformerTask.effect_modifyStore (s : Surroundings) (room : t.store < c.stores.size)
    {a : FeedAction} (change : a ≠ .sync) :
    t.Effect s c (.act a) s (c.modifyStore t.store fun store => a.write store) where
  store := Shelf.get_put _ _ room
  isSynced := by
    cases a with
    | sync => contradiction
    | _ => exact (Bool.or_false _).symm
  told := by
    cases a with
    | sync => contradiction
    | _ => exact .refl _ s

/-- What an informer does in an action is done to its own feed. -/
theorem InformerTask.effect_perform (s : Surroundings) (room : t.store < c.stores.size)
    (known : (c.gate.state? t.feed).isSome = true) (a : FeedAction) :
    t.Effect s c (.act a) (t.perform s c a).2.1 (t.perform s c a).2.2 := by
  cases a with
  | insert key object => exact effect_modifyStore (a := .insert key object) s room nofun
  | remove key => exact effect_modifyStore (a := .remove key) s room nofun
  | replace listing => exact effect_modifyStore (a := .replace listing) s room nofun
  | sync =>
    have noted : Tells (Entry.ofFeed? t.feed) [] s
        (noteSync s (.informer t.feed) t.feed (c.gate.syncOutcome t.feed)) :=
      (enters_noteSync (p := (· = .plain)) rfl s _ _ _).tells fun e plain => by
        rw [Entry.ofFeed?, plain, if_neg nofun]
    have called := tells_call (Entry.ofFeed? t.feed)
      (noteSync s (.informer t.feed) t.feed (c.gate.syncOutcome t.feed))
      (.informerSync t.feed (c.gate.markSynced t.feed).1)
    refine ⟨rfl, (Feed.Gate.isSynced_markSynced known).trans (Bool.or_true _).symm, ?_⟩
    have answers := Feed.Gate.markSynced_fst_of_known known
    have now := (extends_noteSync s (.informer t.feed) t.feed (c.gate.syncOutcome t.feed)).now
    have told := noted.trans called
    rw [now, answers] at told
    simpa [Entry.ofFeed?, Entry.topic, Deed.entry?, Move.call?, perform, reportSynced, answers]
      using told

/-- **One effect per step.** What a step of an informer does depends on its performance, on the time
and its token, and on its own feed. -/
theorem InformerTask.step?_effect {told : Bool} (room : t.store < c.stores.size)
    (known : (c.gate.state? t.feed).isSome = true) (h : t.step? s c = some (told, s', c', t')) :
    ∃ move play, t.play.next? s.now (s.isCancelled t.stop) = some (move, play) ∧
      t' = { t with play := play } ∧ t.Effect s c move s' c' := by
  unfold step? at h
  split at h
  · contradiction
  · next move play next =>
    have unsynced (b : Bool) : b = (b || false) := (Bool.or_false b).symm
    cases move with
    | begin =>
      cases h
      refine ⟨.begin, play, next, rfl, ⟨rfl, unsynced _, ?_⟩⟩
      have told := (tells_note (Entry.ofFeed? t.feed) s (.informer t.feed) .informerStarted).trans
        (tells_call _ _ (.informerRun t.feed))
      simp only [Entry.ofFeed?, Entry.topic, reduceCtorEq, if_true, if_false] at told
      exact told
    | finish =>
      cases h
      refine ⟨.finish, play, next, rfl, ⟨rfl, unsynced _, ?_⟩⟩
      have told := (tells_call (Entry.ofFeed? t.feed) s (.informerStop t.feed)).trans
        (tells_note _ _ (.informer t.feed) .informerStopped)
      simp only [Entry.ofFeed?, Entry.topic, reduceCtorEq, if_true, if_false] at told
      exact told
    | pass =>
      cases h
      exact ⟨.pass, play, next, rfl, ⟨rfl, unsynced _, .refl _ s⟩⟩
    | act a =>
      cases h
      exact ⟨.act a, play, next, rfl, effect_perform s room known a⟩

/-! ### By itself -/

/-- An informer by itself: the time, and whether the shutdown has come; how far it has come; the
store of its feed, and whether the feed is synced; what it has done,
and what has been entered of it. -/
structure Solo where
  now : Nat
  down : Bool
  play : Performance FeedAction
  store : Feed.Store
  synced : Bool
  deeds : List Deed
  told : List Entry

namespace Solo

variable {feed : FeedId} {shutdown : Option Cue} {x y z : Solo}

def fresh (script : List (Action FeedAction)) (now : Nat) (down : Bool) : Solo :=
  ⟨now, down, .ofScript script, .empty, false, [], []⟩

/-- Is the shutdown to come before anything else? -/
def IsDue (shutdown : Option Cue) (x : Solo) : Prop :=
  x.down = false ∧ shutdown = some ⟨x.now, countAt x.now x.deeds⟩

def after (feed : FeedId) (move : Move FeedAction) (play : Performance FeedAction) (x : Solo) :
    Solo :=
  { x with
    play := play
    store := move.write x.store
    synced := x.synced || move.isReport
    deeds := x.deeds ++ [⟨x.now, move⟩]
    told := x.told ++ (Deed.entry? feed x.synced ⟨x.now, move⟩).toList }

/-- How an informer goes on by itself. -/
inductive Step (feed : FeedId) (shutdown : Option Cue) (x : Solo) : Solo → Prop
  | falls (due : x.IsDue shutdown) : Step feed shutdown x { x with down := true }
  | acts {move : Move FeedAction} {play : Performance FeedAction} (early : ¬x.IsDue shutdown)
    (next : x.play.next? x.now x.down = some (move, play)) :
    Step feed shutdown x (x.after feed move play)
  | waits (early : ¬x.IsDue shutdown) (stuck : x.play.next? x.now x.down = none) :
    Step feed shutdown x { x with now := x.now + 1 }

/-- **There is one way to go on.** -/
theorem step_unique : Relator.RightUnique (Step feed shutdown) := by
  intro x y z first last
  cases first with
  | falls due =>
    cases last with
    | falls => rfl
    | acts early => exact absurd due early
    | waits early => exact absurd due early
  | acts early next =>
    cases last with
    | falls due => exact absurd due early
    | acts _ next' =>
      rw [next, Option.some.injEq, Prod.mk.injEq] at next'
      rw [next'.1, next'.2]
    | waits _ stuck =>
      rw [stuck] at next
      contradiction
  | waits early stuck =>
    cases last with
    | falls due => exact absurd due early
    | acts _ next =>
      rw [stuck] at next
      contradiction
    | waits => rfl

/-- Time does not go back. -/
theorem now_le (steps : ReflTransGen (Step feed shutdown) x y) : x.now ≤ y.now := by
  induction steps with
  | refl => exact Nat.le_refl _
  | tail _ step ih =>
    cases step with
    | falls => exact ih
    | acts => exact ih
    | waits => exact Nat.le_succ_of_le ih

/-- Nothing is left to be done at this moment. -/
structure Rests (shutdown : Option Cue) (x : Solo) : Prop where
  early : ¬x.IsDue shutdown
  stuck : x.play.next? x.now x.down = none

/-- Whoever has come to rest goes on at a later moment. -/
theorem Rests.eq_of_now (rests : x.Rests shutdown) (steps : ReflTransGen (Step feed shutdown) x y)
    (same : y.now = x.now) : y = x := by
  rcases ReflTransGen.cases_head steps with rfl | ⟨z, step, later⟩
  · rfl
  · -- The only way to go on is to wait, and time does not go back.
    have passed : z = { x with now := x.now + 1 } :=
      step_unique step (.waits rests.early rests.stuck)
    have onward := now_le later
    rw [passed, same] at onward
    exact absurd onward (Nat.not_succ_le_self _)

/-- **Coming to rest.** There is one way to come to rest at a moment. -/
theorem eq_of_rests (steps : ReflTransGen (Step feed shutdown) x y)
    (steps' : ReflTransGen (Step feed shutdown) x z) (rests : y.Rests shutdown)
    (rests' : z.Rests shutdown) (same : y.now = z.now) : y = z := by
  -- There is one way to go on, so the one is reached from the other.
  rcases ReflTransGen.total_of_right_unique step_unique steps steps' with onward | onward
  · exact (rests.eq_of_now onward same.symm).symm
  · exact rests'.eq_of_now onward same

/-- Time goes on while there is nothing to do and the shutdown does not come. -/
theorem steps_wait (span : Nat)
    (stuck : ∀ k < span, x.play.next? (x.now + k) x.down = none)
    (early : ∀ k < span, x.down = false → ∀ cue, shutdown = some cue → cue.time ≠ x.now + k) :
    ReflTransGen (Step feed shutdown) x { x with now := x.now + span } := by
  induction span with
  | zero => exact .refl
  | succ span ih =>
    have before := ih (fun k lt => stuck k (Nat.lt_succ_of_lt lt))
      fun k lt => early k (Nat.lt_succ_of_lt lt)
    refine before.tail (.waits ?_ (stuck span (Nat.lt_succ_self _)))
    exact fun due => early span (Nat.lt_succ_self _) due.1 _ due.2 rfl

/-! ### Once -/

/-- What has been done begins with the beginning, at a moment, and there is no other. -/
def BegunOnce (time : Nat) (deeds : List Deed) : Prop :=
  ∃ rest, deeds = ⟨time, .begin⟩ :: rest ∧ ∀ d ∈ rest, d.move ≠ .begin

/-- Only a performance that is pending begins. -/
theorem pending_of_begin {now : Nat} {down : Bool} {p p' : Performance FeedAction}
    (next : p.next? now down = some (.begin, p')) : p.fate = .pending := by
  cases Performance.stepped_of_next? next with
  | begins pending => exact pending

/-- An informer begins at once, and only once. -/
theorem begunOnce {script : List (Action FeedAction)} {now : Nat} {down : Bool}
    (steps : ReflTransGen (Step feed shutdown) (fresh script now down) x) :
    (x.play.fate = .pending ∧ x.deeds = [] ∧ x.now = now) ∨
      (x.play.fate ≠ .pending ∧ BegunOnce now x.deeds) := by
  induction steps with
  | refl => exact .inl ⟨rfl, rfl, rfl⟩
  | @tail x y _ step ih =>
    cases step with
    | falls => exact ih
    | @acts move play early next =>
      have begun := (Performance.stepped_of_next? next).fate_ne_pending
      refine .inr ⟨begun, ?_⟩
      rcases ih with ⟨pending, nothing, rfl⟩ | ⟨under, rest, same, others⟩
      · rw [Performance.next?_of_pending pending, Option.some.injEq, Prod.mk.injEq] at next
        exact ⟨[], by simp [after, nothing, next.1], fun _ there => by cases there⟩
      · refine ⟨rest ++ [⟨x.now, move⟩], by simp [after, same], ?_⟩
        intro d there
        rcases List.mem_append.1 there with before | last
        · exact others d before
        · -- A performance that is under way does not begin.
          rw [List.mem_singleton.1 last]
          rintro rfl
          exact under (pending_of_begin next)
    | waits early stuck =>
      rcases ih with ⟨pending, -, -⟩ | begun
      · rw [Performance.next?_of_pending pending] at stuck
        contradiction
      · exact .inr begun

end Solo

end SchedulerHost.Host
