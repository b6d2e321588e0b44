import Mathlib.Logic.Relation
import SchedulerHost.Host.WaitingRoom
import SchedulerHost.Proofs.Gate.Reports
import SchedulerHost.Proofs.Machine.Settling

/-!
# Attendance at a gate

What may become of a waiting room whatever is asked of it, and in whatever order those who are woken
go on. Nobody is asked whether they can go on: a wait that has begun is woken by a change of a feed
and by the cancellation of its token, and by nothing else.

* `Step`: one step of anyone, as small as they come; `Reachable`: where steps lead to; `Traced`: the
  same with a record of who was polled on the way (`reachable_iff_exists_traced`).
* **Nobody is overlooked** (`Attended.step`, `Reachable.attended`): the gate is sealed exactly when
  a wait has begun, and a wait that can go on is woken.
* **Beginnings** (`Traced.hasBegun_iff`): a wait has begun exactly when one has been polled.
-/

namespace SchedulerHost.Host

open Feed (FeedId FeedState)
open Relation (ReflTransGen)

/-- A wait begins, or comes to its outcome; the feeds are looked at first. -/
theorem Wait.step?_cases {s : Surroundings} {g g' : Feed.Gate} {w w' : Wait}
    (h : w.step? s g = some (g', w')) :
    (w.phase = .fresh ∧ g' = g.beginWait ∧ w'.cancel = w.cancel ∧ w'.phase = .waiting) ∨
    (w.phase = .waiting ∧ g' = g ∧ w'.cancel = w.cancel ∧
      (g.allSynced = true ∧ w'.phase = .ended true ∨
        g.allSynced = false ∧ s.isCancelled w.cancel = true ∧ w'.phase = .ended false)) := by
  unfold step? at h
  cases phase : w.phase with
  | fresh =>
    simp only [phase, Option.some.injEq, Prod.mk.injEq] at h
    obtain ⟨rfl, rfl⟩ := h
    exact .inl ⟨rfl, rfl, rfl, rfl⟩
  | waiting =>
    cases synced : g.allSynced with
    | true =>
      simp only [phase, synced, if_true, Option.some.injEq, Prod.mk.injEq] at h
      obtain ⟨rfl, rfl⟩ := h
      exact .inr ⟨rfl, rfl, rfl, .inl ⟨rfl, rfl⟩⟩
    | false =>
      simp only [phase, synced, Bool.false_eq_true, if_false, Option.ite_none_right_eq_some,
        Option.some.injEq, Prod.mk.injEq] at h
      obtain ⟨cancelled, rfl, rfl⟩ := h
      exact .inr ⟨rfl, rfl, rfl, .inr ⟨rfl, cancelled, rfl⟩⟩
  | ended synced => simp [phase] at h

namespace WaitingRoom

/-! ## Steps -/

/-- A wait has begun, as its phase tells. The past tells the same:
it has been polled (`Traced.hasBegun_iff`). -/
def HasBegun (r : WaitingRoom) : Prop :=
  ∃ (i : Nat) (w : Wait), r.waits[i]? = some w ∧ w.phase ≠ .fresh

def notify (picked : RoomAgent → Bool) (r : WaitingRoom) : WaitingRoom :=
  { r with line := r.line.wake picked }

def heeds (r : WaitingRoom) (token : Token) : RoomAgent → Bool
  | .informer i => r.informers[i]?.any (·.stop = token)
  | .wait i => r.waits[i]?.any (·.cancel = token)

def Command.isBrief : Command → Bool
  | .advance _ => false
  | _ => true

/-- Does what is asked, and wakes whoever learns of it: those who are new, and those who listen to a
token that is cancelled. -/
def ask (r : WaitingRoom) (c : Command) : WaitingRoom :=
  let asked := (r.perform c).1
  match c with
  | .wait _ => asked.notify (· = .wait r.waits.length)
  | .launch _ _ => asked.notify (· = .informer r.informers.length)
  | .cancel token => asked.notify (r.heeds token)
  | _ => asked

/-- One step of anyone, and who was polled in it. -/
inductive Move : Option RoomAgent → WaitingRoom → WaitingRoom → Prop
  /-- Something is asked. -/
  | asked {r : WaitingRoom} (c : Command) (brief : c.isBrief = true) : Move none r (r.ask c)
  /-- One of the woken takes a step. -/
  | polled {r r' : WaitingRoom} (a : RoomAgent) (woken : a ∈ r.line.woken)
    (next : r.poll? a = some r') : Move (some a) r r'
  /-- One who cannot go on is no longer called, others change places or are woken for nothing. -/
  | lined {r : WaitingRoom} (l : Line RoomAgent) (members : ∀ a ∈ r.line.members, a ∈ l.members)
    (woken : ∀ a ∈ r.line.woken, (r.poll? a).isSome → a ∈ l.woken) :
    Move none r { r with line := l }
  /-- Time goes on. -/
  | elapsed {r : WaitingRoom} (t : Nat) (later : r.surroundings.now ≤ t) :
    Move none r (Machine.setNow t r)

def Step (r r' : WaitingRoom) : Prop := ∃ polled, Move polled r r'

/-- What becomes of a gate without feeds. -/
def Reachable (stamp : Event.Stamp) (r : WaitingRoom) : Prop :=
  ReflTransGen Step (start stamp) r

/-- What becomes of a gate without feeds, with those who were polled on the way,
the latest first. -/
inductive Traced (stamp : Event.Stamp) : List RoomAgent → WaitingRoom → Prop
  | start : Traced stamp [] (start stamp)
  | moved {past : List RoomAgent} {r r' : WaitingRoom} {polled : Option RoomAgent}
    (before : Traced stamp past r) (move : Move polled r r') :
    Traced stamp (polled.toList ++ past) r'

/-- Whatever way has led to a room, it has left a trace. -/
theorem reachable_iff_exists_traced {stamp : Event.Stamp} {r : WaitingRoom} :
    Reachable stamp r ↔ ∃ past, Traced stamp past r := by
  constructor
  · intro h
    induction h with
    | refl => exact ⟨[], .start⟩
    | tail _ step ih =>
      obtain ⟨past, before⟩ := ih
      obtain ⟨polled, move⟩ := step
      exact ⟨_, before.moved move⟩
  · rintro ⟨past, h⟩
    induction h with
    | start => exact .refl
    | moved _ move ih => exact ih.tail ⟨_, move⟩

/-! ## Who can go on -/

theorem poll?_wait {r : WaitingRoom} {i : Nat} {w : Wait} (found : r.waits[i]? = some w) :
    r.poll? (.wait i) =
      (w.step? r.surroundings r.cache.gate).map fun (g, w) =>
        { r with cache := { r.cache with gate := g }, waits := r.waits.set i w } := by
  simp only [poll?, found]

/-- A wait can go on if it has not begun, and once what it waits for is there. -/
theorem isSome_poll?_wait {r : WaitingRoom} {i : Nat} :
    (r.poll? (.wait i)).isSome ↔
      ∃ w, r.waits[i]? = some w ∧
        (w.phase = .fresh ∨
          w.phase = .waiting ∧
            (r.cache.gate.allSynced = true ∨ r.surroundings.isCancelled w.cancel = true)) := by
  cases found : r.waits[i]? with
  | none => simp [poll?, found]
  | some w =>
    rw [poll?_wait found, Option.isSome_map, Wait.step?]
    simp only [Option.some.injEq, exists_eq_left']
    cases w.phase with
    | fresh => simp
    | waiting =>
      cases r.cache.gate.allSynced <;> cases r.surroundings.isCancelled w.cancel <;> simp
    | ended synced => simp

/-- What a wait depends on. -/
theorem able_congr (r r' : WaitingRoom) {i : Nat} (waits : r'.waits = r.waits)
    (synced : r'.cache.gate.allSynced = r.cache.gate.allSynced)
    (cancelled : r'.surroundings.cancelled = r.surroundings.cancelled) :
    (r'.poll? (.wait i)).isSome = true ↔ (r.poll? (.wait i)).isSome = true := by
  rw [isSome_poll?_wait, isSome_poll?_wait, waits, synced]
  simp only [Surroundings.isCancelled, cancelled]

/-- Those who wait are in the line, the gate is sealed by their beginning and by nothing else, and
whoever of them can go on is woken. -/
structure Attended (r : WaitingRoom) : Prop where
  present (i : Nat) : i < r.waits.length → .wait i ∈ r.line.members
  sealed_iff : r.cache.gate.isSealed = true ↔ r.HasBegun
  awake (i : Nat) : (r.poll? (.wait i)).isSome → .wait i ∈ r.line.woken

theorem attended_start (stamp : Event.Stamp) : Attended (start stamp) := by
  constructor
  · intro i inside
    simp [start] at inside
  · simp [start, HasBegun, Cache.empty, Feed.Gate.empty]
  · intro i able
    simp [start, poll?] at able

/-- What is attended stays so when nothing happens to the waits, as long as those who become able to
go on are woken. -/
theorem Attended.of_waits {r r' : WaitingRoom} (h : r.Attended) (waits : r'.waits = r.waits)
    (closed : r'.cache.gate.isSealed = r.cache.gate.isSealed)
    (members : ∀ a ∈ r.line.members, a ∈ r'.line.members)
    (kept : ∀ i, (r'.poll? (.wait i)).isSome → .wait i ∈ r.line.woken →
      .wait i ∈ r'.line.woken)
    (able : ∀ i, (r'.poll? (.wait i)).isSome →
      (r.poll? (.wait i)).isSome ∨ .wait i ∈ r'.line.woken) : r'.Attended := by
  constructor
  · intro i inside
    rw [waits] at inside
    exact members _ (h.present i inside)
  · rw [closed, h.sealed_iff, HasBegun, HasBegun, waits]
  · intro i goes
    rcases able i goes with before | there
    · exact kept i goes (h.awake i before)
    · exact there

/-- To wake more than can go on does no harm. -/
theorem Attended.notify {r : WaitingRoom} (h : r.Attended) (picked : RoomAgent → Bool) :
    (r.notify picked).Attended := by
  refine h.of_waits rfl rfl (fun _ member => member) ?_ ?_
  · intro i _ woken
    exact Line.mem_woken_wake.2 (.inl woken)
  · intro i able
    exact .inl ((able_congr r (r.notify picked) rfl rfl rfl).1 able)

/-! ## What is not done by a wait -/

/-- Something is done that leaves the waits alone. If it makes a difference to whether all feeds are
synced, those who wait for them are woken. -/
structure Spares (r r' : WaitingRoom) : Prop where
  waits : r'.waits = r.waits
  grows : r.cache.gate.Grows r'.cache.gate
  closed : r'.cache.gate.isSealed = r.cache.gate.isSealed
  cancelled : r'.surroundings.cancelled = r.surroundings.cancelled
  members : ∀ a ∈ r.line.members, a ∈ r'.line.members
  woken : ∀ a ∈ r.line.woken, a ∈ r'.line.woken
  told : r'.cache.gate.allSynced = r.cache.gate.allSynced ∨
    ∀ a ∈ r.line.members, r.awaitsFeeds a = true → a ∈ r'.line.woken

/-- Whoever waits for the feeds is told of what is done to the cache. -/
theorem Attended.spared {r r' : WaitingRoom} (h : r.Attended) (spares : Spares r r') :
    r'.Attended := by
  refine h.of_waits spares.waits spares.closed spares.members
    (fun _ _ there => spares.woken _ there) ?_
  intro i able
  rcases spares.told with same | told
  · exact .inl ((able_congr r r' spares.waits same spares.cancelled).1 able)
  · obtain ⟨w, found, fresh | ⟨waiting, -⟩⟩ := isSome_poll?_wait.1 able
    · rw [spares.waits] at found
      exact .inl (isSome_poll?_wait.2 ⟨w, found, .inl fresh⟩)
    · rw [spares.waits] at found
      have there : i < r.waits.length := (List.getElem?_eq_some_iff.1 found).1
      exact .inr (told _ (h.present i there) (by simp [awaitsFeeds, found, waiting]))

theorem Spares.refl (r : WaitingRoom) : Spares r r :=
  ⟨rfl, .refl _, rfl, rfl, fun _ member => member, fun _ woken => woken, .inl rfl⟩

@[simp] theorem waits_withCache (r : WaitingRoom) (told : Bool) (c : Cache) :
    (r.withCache told c).waits = r.waits := by
  unfold withCache
  split <;> rfl

@[simp] theorem informers_withCache (r : WaitingRoom) (told : Bool) (c : Cache) :
    (r.withCache told c).informers = r.informers := by
  unfold withCache
  split <;> rfl

@[simp] theorem surroundings_withCache (r : WaitingRoom) (told : Bool) (c : Cache) :
    (r.withCache told c).surroundings = r.surroundings := by
  unfold withCache
  split <;> rfl

@[simp] theorem cache_withCache (r : WaitingRoom) (told : Bool) (c : Cache) :
    (r.withCache told c).cache = c := by
  unfold withCache
  split <;> rfl

@[simp] theorem members_withCache (r : WaitingRoom) (told : Bool) (c : Cache) :
    (r.withCache told c).line.members = r.line.members := by
  unfold withCache
  split <;> rfl

/-- Whoever answers for what was done to the gate makes sure that those who wait are woken. -/
theorem Spares.of_withCache {r r' : WaitingRoom} {told : Bool} {c : Cache}
    (grows : r.cache.gate.Grows c.gate) (closed : c.gate.isSealed = r.cache.gate.isSealed)
    (answers : Feed.Gate.Answers told r.cache.gate c.gate)
    (waits : r'.waits = r.waits) (cache : r'.cache = c)
    (cancelled : r'.surroundings.cancelled = r.surroundings.cancelled)
    (members : ∀ a ∈ r.line.members, a ∈ r'.line.members)
    (woken : r'.line.woken = (r.withCache told c).line.woken) : Spares r r' := by
  subst cache
  cases told with
  | false =>
    refine ⟨waits, grows, closed, cancelled, members, ?_, .inl answers.allSynced⟩
    rw [woken]
    exact fun _ there => there
  | true =>
    have woken : r'.line.woken = (r.line.wake r.awaitsFeeds).woken := woken
    refine ⟨waits, grows, closed, cancelled, members, ?_, .inr ?_⟩
    · rw [woken]
      exact fun _ there => Line.mem_woken_wake.2 (.inl there)
    · rw [woken]
      exact fun _ member awaits => Line.mem_woken_wake.2 (.inr ⟨member, awaits⟩)

/-- Whoever waits for the feeds does not wait for the contents of a store. -/
theorem spares_modifyStore (r : WaitingRoom) (id : Nat) (f : Feed.Store → Feed.Store) :
    Spares r { r with cache := r.cache.modifyStore id f } :=
  ⟨rfl, .refl _, rfl, rfl, fun _ member => member, fun _ woken => woken, .inl rfl⟩

/-- Those who wait are told of a new feed, which is one more that is not synced. -/
theorem spares_register (r : WaitingRoom) (feed : FeedId) : Spares r (r.register feed).1 := by
  unfold register
  split
  · exact .refl r
  · next id s c taken =>
    obtain ⟨accepted, -, -, rfl⟩ := registerFeed_eq_ok taken
    exact .of_withCache (Feed.Gate.grows_register accepted) (isSealed_of_register accepted)
      (Feed.Gate.answers_register accepted) (waits_withCache r true c) (cache_withCache r true c)
      rfl (by rw [members_withCache]; exact fun _ member => member) rfl

theorem spares_drive (r : WaitingRoom) (informer : Informer) :
    Spares r (r.drive informer).1 := by
  unfold drive Driver.register
  cases taken : registerFeed r.surroundings r.cache informer.feed with
  | error fault => exact .refl r
  | ok registered =>
    obtain ⟨id, s, c⟩ := registered
    obtain ⟨accepted, -, -, rfl⟩ := registerFeed_eq_ok taken
    exact .of_withCache (Feed.Gate.grows_register accepted) (isSealed_of_register accepted)
      (Feed.Gate.answers_register accepted) (waits_withCache r true c) (cache_withCache r true c)
      rfl (by rw [members_withCache]; exact fun _ member => member) rfl

theorem spares_launch (r : WaitingRoom) (driver : Nat) (stop : Token) :
    Spares r (r.launch driver stop).1 := by
  unfold launch
  split
  · exact .refl r
  · next d found =>
    refine .of_withCache (Feed.Gate.grows_markRunning r.cache.gate d.informer.feed)
      (Feed.Gate.isSealed_markRunning _ _) (Feed.Gate.answers_markRunning _ _)
      (waits_withCache r _ _) (cache_withCache r _ _) ?_ ?_ rfl
    · rw [surroundings_withCache]
    · intro a member
      apply Line.mem_members_toBack
      rw [members_withCache]
      exact member

/-- Nothing that is asked for is done to the waits, but that one is added,
or its token cancelled. -/
theorem spares_perform (r : WaitingRoom) (c : Command) (brief : c.isBrief = true) :
    Spares r (r.perform c).1 ∨ (∃ token, c = .wait token) ∨ ∃ token, c = .cancel token := by
  cases c with
  | wait token => exact .inr (.inl ⟨token, rfl⟩)
  | cancel token => exact .inr (.inr ⟨token, rfl⟩)
  | advance ms => contradiction
  | register feed => exact .inl (spares_register r feed)
  | drive informer => exact .inl (spares_drive r informer)
  | launch driver stop => exact .inl (spares_launch r driver stop)
  | insert feed key object =>
    left
    simp only [perform]
    cases r.writer? feed with
    | none => exact .refl r
    | some id => exact spares_modifyStore r id _
  | replace feed listing =>
    left
    simp only [perform]
    cases r.writer? feed with
    | none => exact .refl r
    | some id => exact spares_modifyStore r id _
  | markRunning feed =>
    left
    refine .of_withCache (Feed.Gate.grows_markRunning r.cache.gate feed)
      (Feed.Gate.isSealed_markRunning _ _) (Feed.Gate.answers_markRunning _ _)
      (waits_withCache r _ _) (cache_withCache r _ _) ?_ ?_ rfl
    · rw [perform, surroundings_withCache]
    · rw [perform, members_withCache]
      exact fun _ member => member
  | markSynced feed =>
    left
    have noted := extends_noteSync r.surroundings .outside feed (r.cache.gate.syncOutcome feed)
    refine .of_withCache (Feed.Gate.grows_markSynced r.cache.gate feed)
      (Feed.Gate.isSealed_markSynced _ _) (Feed.Gate.answers_markSynced _ _)
      (waits_withCache r _ _) (cache_withCache r _ _) noted.cancelled ?_ rfl
    show ∀ a ∈ r.line.members, a ∈ (r.withCache _ _).line.members
    rw [members_withCache]
    exact fun _ member => member
  | isSynced => exact .inl (.refl r)
  | state feed => exact .inl (.refl r)
  | contents feed => exact .inl (.refl r)
  | snapshot =>
    exact .inl ⟨rfl, .refl _, rfl, rfl, fun _ member => member, fun _ woken => woken, .inl rfl⟩
  | read snapshot feed => exact .inl (.refl r)

/-- An informer leaves the waits alone. -/
theorem spares_poll? {r r' : WaitingRoom} {i : Nat} (next : r.poll? (.informer i) = some r') :
    Spares r r' := by
  simp only [poll?] at next
  split at next
  · contradiction
  · next t found =>
    rw [Option.map_eq_some_iff] at next
    obtain ⟨⟨told, s, c, t'⟩, stepped, rfl⟩ := next
    obtain ⟨works, -⟩ := InformerTask.step?_facts stepped
    refine .of_withCache works.gate.grows works.isSealed works.answers (waits_withCache r told c)
      (cache_withCache r told c) works.surroundings.cancelled ?_ rfl
    show ∀ a ∈ r.line.members, a ∈ (r.withCache told c).line.members
    rw [members_withCache]
    exact fun _ member => member

/-! ## What a wait does -/

theorem exists_of_poll?_wait {r r' : WaitingRoom} {i : Nat}
    (next : r.poll? (.wait i) = some r') :
    ∃ w g w', r.waits[i]? = some w ∧ w.step? r.surroundings r.cache.gate = some (g, w') ∧
      r' = { r with cache := { r.cache with gate := g }, waits := r.waits.set i w' } := by
  cases found : r.waits[i]? with
  | none => simp [poll?, found] at next
  | some w =>
    rw [poll?_wait found, Option.map_eq_some_iff] at next
    obtain ⟨⟨g, w'⟩, stepped, rfl⟩ := next
    exact ⟨w, g, w', rfl, stepped, rfl⟩

theorem allSynced_of_step? {s : Surroundings} {g g' : Feed.Gate} {w w' : Wait}
    (h : w.step? s g = some (g', w')) : g'.allSynced = g.allSynced := by
  rcases Wait.step?_cases h with ⟨-, rfl, -⟩ | ⟨-, rfl, -⟩
  · rfl
  · rfl

/-- The turn of a wait makes nobody else able to go on. -/
theorem Attended.polled {r r' : WaitingRoom} {i : Nat} (h : r.Attended)
    (next : r.poll? (.wait i) = some r') : r'.Attended := by
  obtain ⟨w, g, w', found, stepped, rfl⟩ := exists_of_poll?_wait next
  have inside : i < r.waits.length := (List.getElem?_eq_some_iff.1 found).1
  have begun : w'.phase ≠ .fresh := by
    rcases Wait.step?_cases stepped with ⟨-, -, -, waits⟩ | ⟨-, -, -, ⟨-, done⟩ | ⟨-, -, done⟩⟩
    · simp [waits]
    · simp [done]
    · simp [done]
  constructor
  · intro j there
    rw [List.length_set] at there
    exact h.present j there
  · refine iff_of_true ?_ ⟨i, w', by simp [inside], begun⟩
    rcases Wait.step?_cases stepped with ⟨-, rfl, -⟩ | ⟨waiting, rfl, -⟩
    · rfl
    · exact h.sealed_iff.2 ⟨i, w, found, by simp [waiting]⟩
  · intro j able
    -- Whoever has had a turn had been woken for it. The others find the feeds as they were.
    by_cases same : i = j
    · subst same
      exact h.awake i (by rw [next]; rfl)
    · obtain ⟨v, there, ability⟩ := isSome_poll?_wait.1 able
      apply h.awake j
      rw [isSome_poll?_wait]
      refine ⟨v, ?_, ?_⟩
      · rw [← there]
        exact (List.getElem?_set_ne same).symm
      · rw [← allSynced_of_step? stepped]
        exact ability

/-- A new wait is added behind the others. -/
theorem getElem?_waits_append {waits : List Wait} {token : Token} {i : Nat} {w : Wait}
    (found : (waits ++ [.new token])[i]? = some w) :
    waits[i]? = some w ∨ i = waits.length ∧ w = .new token := by
  by_cases old : i < waits.length
  · rw [List.getElem?_append_left old] at found
    exact .inl found
  · rw [List.getElem?_append_right (by omega)] at found
    obtain ⟨inside, there⟩ := List.getElem?_eq_some_iff.1 found
    simp only [List.length_singleton] at inside
    refine .inr ⟨by omega, ?_⟩
    simpa using there.symm

/-- A new wait is called at once. -/
theorem Attended.wait {r : WaitingRoom} (h : r.Attended) (token : Token) :
    (r.ask (.wait token)).Attended := by
  constructor
  · intro j there
    show RoomAgent.wait j ∈ (r.line.toBack (.wait r.waits.length)).members
    by_cases old : j < r.waits.length
    · exact Line.mem_members_toBack (h.present j old)
    · have last : j = r.waits.length := by
        change j < (r.waits ++ [Wait.new token]).length at there
        simp only [List.length_append, List.length_singleton] at there
        omega
      simp [Line.toBack, last]
  · refine h.sealed_iff.trans ⟨?_, ?_⟩
    · rintro ⟨j, w, found, begun⟩
      refine ⟨j, w, ?_, begun⟩
      have inside : j < r.waits.length := (List.getElem?_eq_some_iff.1 found).1
      exact (List.getElem?_append_left inside).trans found
    · rintro ⟨j, w, found, begun⟩
      rcases getElem?_waits_append found with old | ⟨-, rfl⟩
      · exact ⟨j, w, old, begun⟩
      · simp [Wait.new] at begun
  · intro j able
    obtain ⟨w, found, ability⟩ := isSome_poll?_wait.1 able
    show RoomAgent.wait j ∈ ((r.line.toBack _).wake _).woken
    rw [Line.mem_woken_wake]
    rcases getElem?_waits_append found with old | ⟨rfl, -⟩
    · exact .inl (h.awake j (isSome_poll?_wait.2 ⟨w, old, ability⟩))
    · right
      simp [Line.toBack]

/-- Whoever heeds a token is called when it is cancelled. -/
theorem Attended.cancel {r : WaitingRoom} (h : r.Attended) (token : Token) :
    (r.ask (.cancel token)).Attended := by
  refine h.of_waits rfl rfl (fun _ member => member) ?_ ?_
  · intro i _ woken
    exact Line.mem_woken_wake.2 (.inl woken)
  · intro i able
    obtain ⟨w, found, ability⟩ := isSome_poll?_wait.1 able
    change r.waits[i]? = some w at found
    -- Only those who heed the token can have become able, and they are woken.
    by_cases heeds : w.cancel = token
    · right
      have there : i < r.waits.length := (List.getElem?_eq_some_iff.1 found).1
      refine Line.mem_woken_wake.2 (.inr ⟨h.present i there, ?_⟩)
      simp [WaitingRoom.heeds, found, heeds]
    · left
      refine isSome_poll?_wait.2 ⟨w, found, ?_⟩
      change _ ∨ _ ∧ (_ ∨ (r.surroundings.cancel token).isCancelled w.cancel = true) at ability
      rw [Surroundings.isCancelled_cancel_of_ne _ (Ne.symm heeds)] at ability
      exact ability

/-- **Nobody is overlooked.** -/
theorem Attended.step {r r' : WaitingRoom} (h : r.Attended) (step : Step r r') : r'.Attended := by
  obtain ⟨polled, move⟩ := step
  cases move with
  | asked c brief =>
    rcases spares_perform r c brief with spares | ⟨token, rfl⟩ | ⟨token, rfl⟩
    · have done := h.spared spares
      unfold ask
      split
      · exact done.notify _
      · exact done.notify _
      · exact done.notify _
      · exact done
    · exact h.wait token
    · exact h.cancel token
  | polled a woken next =>
    cases a with
    | informer i => exact h.spared (spares_poll? next)
    | wait i => exact h.polled next
  | lined l members woken =>
    have same (i : Nat) := able_congr r { r with line := l } (i := i) rfl rfl rfl
    refine h.of_waits rfl rfl members ?_ ?_
    · exact fun i able there => woken _ there ((same i).1 able)
    · exact fun i able => .inl ((same i).1 able)
  | elapsed t later =>
    exact h.of_waits rfl rfl (fun _ member => member) (fun _ _ woken => woken)
      fun i able => .inl ((able_congr r (Machine.setNow t r) rfl rfl rfl).1 able)

/-- Whatever has led to a room, nobody in it is overlooked. -/
theorem Reachable.attended {stamp : Event.Stamp} {r : WaitingRoom} (h : Reachable stamp r) :
    r.Attended := by
  induction h with
  | refl => exact attended_start stamp
  | tail _ step ih => exact ih.step step

/-! ## What becomes of the gate and of the waits -/

/-- A step is one of a wait, or leaves the waits as they are, but for a new one. -/
theorem Move.waits_cases {polled : Option RoomAgent} {r r' : WaitingRoom}
    (move : Move polled r r') :
    ((∀ i, polled ≠ some (.wait i)) ∧ r.cache.gate.Grows r'.cache.gate ∧
      (r'.waits = r.waits ∨ ∃ token, r'.waits = r.waits ++ [.new token])) ∨
    ∃ i w g w', polled = some (.wait i) ∧ r.waits[i]? = some w ∧
      w.step? r.surroundings r.cache.gate = some (g, w') ∧
      r' = { r with cache := { r.cache with gate := g }, waits := r.waits.set i w' } := by
  cases move with
  | asked c brief =>
    refine .inl ⟨nofun, ?_⟩
    rcases spares_perform r c brief with spares | ⟨token, rfl⟩ | ⟨token, rfl⟩
    · unfold ask
      split <;> exact ⟨spares.grows, .inl spares.waits⟩
    · exact ⟨.refl _, .inr ⟨token, rfl⟩⟩
    · exact ⟨.refl _, .inl rfl⟩
  | polled a woken next =>
    cases a with
    | informer i => exact .inl ⟨nofun, (spares_poll? next).grows, .inl (spares_poll? next).waits⟩
    | wait i =>
      obtain ⟨w, g, w', found, stepped, same⟩ := exists_of_poll?_wait next
      exact .inr ⟨i, w, g, w', rfl, found, stepped, same⟩
  | lined l members woken => exact .inl ⟨nofun, .refl _, .inl rfl⟩
  | elapsed t later => exact .inl ⟨nofun, .refl _, .inl rfl⟩

theorem Step.grows {r r' : WaitingRoom} (step : Step r r') :
    r.cache.gate.Grows r'.cache.gate := by
  obtain ⟨polled, move⟩ := step
  rcases move.waits_cases with ⟨-, grows, -⟩ | ⟨i, w, g, w', -, -, stepped, rfl⟩
  · exact grows
  · rcases Wait.step?_cases stepped with ⟨-, rfl, -⟩ | ⟨-, rfl, -⟩
    · exact Feed.Gate.grows_beginWait _
    · exact .refl _

theorem grows_of_steps {r r' : WaitingRoom} (steps : ReflTransGen Step r r') :
    r.cache.gate.Grows r'.cache.gate := by
  induction steps with
  | refl => exact .refl _
  | tail _ step ih => exact ih.trans step.grows

/-! ## Beginnings -/

/-- Whoever has been polled is there, and a wait has begun exactly when it has been polled. -/
theorem Traced.polled_iff {stamp : Event.Stamp} {past : List RoomAgent} {r : WaitingRoom}
    (h : Traced stamp past r) :
    (∀ i, .wait i ∈ past → i < r.waits.length) ∧
      ∀ i w, r.waits[i]? = some w → (w.phase ≠ .fresh ↔ .wait i ∈ past) := by
  induction h with
  | start => simp [WaitingRoom.start]
  | @moved past r r' polled before move ih =>
    obtain ⟨inside, begun⟩ := ih
    rcases move.waits_cases with ⟨others, -, same⟩ | ⟨j, v, g, v', rfl, found, stepped, rfl⟩
    · have kept (i : Nat) : .wait i ∈ polled.toList ++ past ↔ .wait i ∈ past := by
        simp [others i]
      simp only [kept]
      rcases same with same | ⟨token, same⟩
      · rw [same]
        exact ⟨inside, begun⟩
      · rw [same]
        refine ⟨fun i there => ?_, fun i w there => ?_⟩
        · rw [List.length_append]
          exact Nat.lt_add_right _ (inside i there)
        · rcases getElem?_waits_append there with old | ⟨rfl, rfl⟩
          · exact begun i w old
          · -- It is new, and nobody has polled it.
            exact iff_of_false (· rfl) fun there => Nat.lt_irrefl _ (inside _ there)
    · have there : j < r.waits.length := (List.getElem?_eq_some_iff.1 found).1
      have started : v'.phase ≠ .fresh := by
        rcases Wait.step?_cases stepped with ⟨-, -, -, waits⟩ | ⟨-, -, -, ⟨-, done⟩ | ⟨-, -, done⟩⟩
        · simp [waits]
        · simp [done]
        · simp [done]
      refine ⟨fun i polled => ?_, fun i w at_i => ?_⟩
      · rw [List.length_set]
        rcases List.mem_cons.1 polled with same | before
        · cases same
          exact there
        · exact inside i before
      · by_cases same : j = i
        · subst same
          obtain rfl : v' = w := by simpa [there] using at_i
          exact iff_of_true started List.mem_cons_self
        · rw [List.getElem?_set_ne same] at at_i
          have other : RoomAgent.wait i ≠ .wait j := fun h => same (RoomAgent.wait.inj h).symm
          rw [begun i w at_i]
          simp [other]

/-- **Beginnings.** A wait has begun exactly when one has been polled,
whatever way has led there. -/
theorem Traced.hasBegun_iff {stamp : Event.Stamp} {past : List RoomAgent} {r : WaitingRoom}
    (h : Traced stamp past r) : r.HasBegun ↔ ∃ i, .wait i ∈ past := by
  obtain ⟨inside, begun⟩ := h.polled_iff
  constructor
  · rintro ⟨i, w, found, started⟩
    exact ⟨i, (begun i w found).1 started⟩
  · rintro ⟨i, polled⟩
    have found := List.getElem?_eq_getElem (inside i polled)
    exact ⟨i, _, found, (begun i _ found).2 polled⟩

end WaitingRoom

end SchedulerHost.Host
