import SchedulerHost.Proofs.Gate.Resting

/-!
# Waiting at a gate

What the outcome of a wait tells, that no wait is overlooked, and which feeds can be registered: all
of it whatever is asked of a waiting room, and in whatever order those who are woken go on.

* `Resolves`: a wait comes to its outcome in a step.
* **Waiting and sealing** (`waiting_and_sealing`).
-/

namespace SchedulerHost.Host.WaitingRoom

open Feed (FeedId FeedState)
open Relation (ReflTransGen)

/-! ## Outcomes -/

def outcome? (r : WaitingRoom) (i : Nat) : Option Bool := r.waits[i]?.bind (·.outcome?)

/-- In a step a wait comes to its outcome. -/
structure Resolves (r r' : WaitingRoom) (i : Nat) (outcome : Bool) : Prop where
  step : Step r r'
  before : r.outcome? i = none
  after : r'.outcome? i = some outcome

/-- Does a wait have an outcome after a step? It had it before, or it comes to it in the step. -/
theorem Step.outcome?_cases {r r' : WaitingRoom} (step : Step r r') {i : Nat} {outcome : Bool}
    (later : r'.outcome? i = some outcome) :
    r.outcome? i = some outcome ∨
      ∃ w, r.waits[i]? = some w ∧ r'.cache.gate = r.cache.gate ∧ w.phase = .waiting ∧
        (r.cache.gate.allSynced = true ∧ outcome = true ∨
          r.cache.gate.allSynced = false ∧ r.surroundings.isCancelled w.cancel = true ∧
            outcome = false) := by
  obtain ⟨polled, move⟩ := step
  rcases move.waits_cases with
    ⟨-, -, waits | ⟨token, waits⟩⟩ | ⟨j, w, g, w', -, found, stepped, rfl⟩
  · left
    rwa [outcome?, waits] at later
  · left
    rw [outcome?, waits, Option.bind_eq_some_iff] at later
    obtain ⟨w, found, ended⟩ := later
    rcases getElem?_waits_append found with old | ⟨-, rfl⟩
    · rw [outcome?, old]
      exact ended
    · contradiction
  · by_cases same : j = i
    · subst same
      right
      have inside : j < r.waits.length := (List.getElem?_eq_some_iff.1 found).1
      have ended : w'.outcome? = some outcome := by
        simpa [outcome?, inside] using later
      rcases Wait.step?_cases stepped with
        ⟨-, -, -, waits⟩ | ⟨waits, rfl, -, ⟨synced, done⟩ | ⟨unsynced, cancelled, done⟩⟩
      · simp [Wait.outcome?, waits] at ended
      · refine ⟨w, found, rfl, waits, .inl ⟨synced, ?_⟩⟩
        simpa [Wait.outcome?, done] using ended.symm
      · refine ⟨w, found, rfl, waits, .inr ⟨unsynced, cancelled, ?_⟩⟩
        simpa [Wait.outcome?, done] using ended.symm
    · left
      simpa [outcome?, List.getElem?_set_ne same] using later

/-- A wait is woken by what it waits for. -/
theorem Resolves.cases {r r' : WaitingRoom} {i : Nat} {outcome : Bool}
    (resolves : Resolves r r' i outcome) :
    ∃ w, r.waits[i]? = some w ∧ r'.cache.gate = r.cache.gate ∧ w.phase = .waiting ∧
      (r.cache.gate.allSynced = true ∧ outcome = true ∨
        r.cache.gate.allSynced = false ∧ r.surroundings.isCancelled w.cancel = true ∧
          outcome = false) := by
  rcases resolves.step.outcome?_cases resolves.after with before | found
  · rw [resolves.before] at before
    contradiction
  · exact found

/-- A wait that succeeds has begun, so that it finds the gate sealed; and it finds all feeds synced,
and leaves the gate as it is. -/
theorem Resolves.sealed_and_synced {r r' : WaitingRoom} {i : Nat} (resolves : Resolves r r' i true)
    (attended : r.Attended) :
    r.cache.gate.isSealed = true ∧ r.cache.gate.allSynced = true ∧
      r'.cache.gate = r.cache.gate := by
  obtain ⟨w, found, same, waiting, ⟨synced, -⟩ | ⟨-, -, differs⟩⟩ := resolves.cases
  · have begun : r.HasBegun := ⟨i, w, found, by simp [waiting]⟩
    exact ⟨attended.sealed_iff.2 begun, synced, same⟩
  · contradiction

/-- When those who are woken can do nothing, a wait that is not over can do nothing either: some feed
is not synced, and its token is not cancelled. -/
theorem Attended.stuck_of_rest {r : WaitingRoom} (attended : r.Attended)
    (quiet : ∀ a ∈ r.line.woken, r.poll? a = none) {i : Nat} {w : Wait}
    (found : r.waits[i]? = some w) (pending : w.outcome? = none) :
    r.cache.gate.allSynced = false ∧ r.surroundings.isCancelled w.cancel = false := by
  have unable : r.poll? (.wait i) = none := by
    cases able : r.poll? (.wait i) with
    | none => rfl
    | some next =>
      rw [← able]
      exact quiet _ (attended.awake i (by rw [able]; rfl))
  rw [poll?_wait found, Option.map_eq_none_iff, Wait.step?_eq_none_iff, pending] at unable
  rcases unable with ended | ⟨-, unsynced, kept⟩
  · contradiction
  · exact ⟨unsynced, kept⟩

/-- One who waits for feeds that are synced succeeds in its next turn. -/
theorem turn_wait_of_waiting {r : WaitingRoom} (synced : r.cache.gate.allSynced = true) {i : Nat}
    {w : Wait} (found : r.waits[i]? = some w) (waiting : w.phase = .waiting) (n : Nat) :
    (Machine.turn (.wait i) (n + 1) r).outcome? i = some true := by
  have inside : i < r.waits.length := (List.getElem?_eq_some_iff.1 found).1
  have step : w.step? r.surroundings r.cache.gate =
      some (r.cache.gate, { w with phase := .ended true }) := by
    simp [Wait.step?, waiting, synced]
  have next : Machine.poll? (.wait i) r =
      some { r with waits := r.waits.set i { w with phase := .ended true } } := by
    show r.poll? (.wait i) = _
    rw [poll?_wait found, step]
    rfl
  have quiet : Machine.poll? (.wait i)
      { r with waits := r.waits.set i { w with phase := .ended true } } = none := by
    show poll? _ (.wait i) = none
    rw [poll?_wait (w := { w with phase := .ended true }) (by simp [inside])]
    rfl
  rw [Machine.turn, next]
  cases n with
  | zero => simp [Machine.turn, outcome?, inside, Wait.outcome?]
  | succ n => simp [Machine.turn, quiet, outcome?, inside, Wait.outcome?]

/-- A wait whose feeds are all synced succeeds at once, whatever has become of its token. -/
theorem turn_wait_of_allSynced {r : WaitingRoom} (synced : r.cache.gate.allSynced = true) {i : Nat}
    {w : Wait} (found : r.waits[i]? = some w) (pending : w.outcome? = none) :
    (Machine.turn (.wait i) 2 r).outcome? i = some true := by
  have inside : i < r.waits.length := (List.getElem?_eq_some_iff.1 found).1
  cases phase : w.phase with
  | ended outcome => simp [Wait.outcome?, phase] at pending
  | waiting => exact turn_wait_of_waiting synced found phase 1
  | fresh =>
    obtain ⟨begun, next, synced', there⟩ : ∃ begun, Machine.poll? (.wait i) r = some begun ∧
        begun.cache.gate.allSynced = true ∧
        begun.waits[i]? = some { w with phase := .waiting } := by
      refine ⟨{ r with
        cache := { r.cache with gate := r.cache.gate.beginWait }
        waits := r.waits.set i { w with phase := .waiting } }, ?_, synced, by simp [inside]⟩
      show r.poll? (.wait i) = _
      rw [poll?_wait found, Wait.step?, phase]
      rfl
    rw [Machine.turn, next]
    exact turn_wait_of_waiting synced' there rfl 0

/-- What is found in a sealed and synced gate is there for good. -/
theorem feeds_of_grows {g g' : Feed.Gate} (grows : g.Grows g') (closed : g.isSealed = true)
    (synced : g.allSynced = true) (feed : FeedId) : g'.feeds[feed]? = g.feeds[feed]? := by
  cases found : g.feeds[feed]? with
  | none =>
    rw [← Option.not_isSome_iff_eq_none, grows.isSome_iff closed, found]
    simp
  | some entry =>
    obtain ⟨state, store⟩ := entry
    obtain rfl : state = .synced := Feed.Gate.allSynced_iff.1 synced feed _ found
    exact grows.synced found

/-- Where all feeds are synced for good, no wait fails any more. -/
theorem outcome?_ne_false {r r' : WaitingRoom} (steps : ReflTransGen Step r r')
    (closed : r.cache.gate.isSealed = true) (synced : r.cache.gate.allSynced = true) {i : Nat}
    (before : r.outcome? i ≠ some false) : r'.outcome? i ≠ some false := by
  induction steps with
  | refl => exact before
  | tail steps step ih =>
    intro failed
    rcases step.outcome?_cases failed with earlier | ⟨w, -, -, -, ⟨-, done⟩ | ⟨unsynced, -⟩⟩
    · exact ih earlier
    · contradiction
    · rw [(grows_of_steps steps).allSynced closed synced] at unsynced
      contradiction

/-! ## Waiting and sealing -/

/-- A seal refuses every feed, whether it is known or new. -/
theorem register_of_hasBegun {r : WaitingRoom} (attended : r.Attended) (begun : r.HasBegun)
    (feed : FeedId) : r.perform (.register feed) = (r, .refused (.sealed feed)) := by
  have closed := attended.sealed_iff.2 begun
  have refused : r.cache.gate.register feed r.cache.stores.size = .error (.sealed feed) := by
    rw [Feed.Gate.register, if_pos closed]
  simp only [perform, register, registerFeed, Cache.register, refused]

/-- Before the seal a known feed is refused for being known. -/
theorem register_of_known {r : WaitingRoom} (attended : r.Attended) (opened : ¬r.HasBegun)
    {feed : FeedId} (known : (r.cache.gate.state? feed).isSome) :
    r.perform (.register feed) = (r, .refused (.duplicate feed)) := by
  have unsealed : r.cache.gate.isSealed = false := by
    rw [← Bool.not_eq_true, attended.sealed_iff]
    exact opened
  rcases Feed.Gate.register_eq r.cache.gate feed r.cache.stores.size with
    ⟨closed, -⟩ | ⟨-, -, refused⟩ | ⟨-, fresh, -⟩
  · rw [unsealed] at closed
    contradiction
  · simp only [perform, register, registerFeed, Cache.register, refused]
  · rw [fresh] at known
    contradiction

/-- Before the seal a new feed is taken, with nothing in its store. -/
theorem register_of_new {r : WaitingRoom} (attended : r.Attended) (opened : ¬r.HasBegun)
    {feed : FeedId} (fresh : r.cache.gate.state? feed = none) :
    (r.perform (.register feed)).2 = .registered [] ∧
      (r.perform (.register feed)).1.cache.gate.state? feed = some .notStarted := by
  have unsealed : r.cache.gate.isSealed = false := by
    rw [← Bool.not_eq_true, attended.sealed_iff]
    exact opened
  rcases Feed.Gate.register_eq r.cache.gate feed r.cache.stores.size with
    ⟨closed, -⟩ | ⟨-, known, -⟩ | ⟨-, -, taken⟩
  · rw [unsealed] at closed
    contradiction
  · rw [fresh] at known
    contradiction
  · simp only [perform, register, registerFeed, Cache.register, taken, cache_withCache]
    refine ⟨?_, ?_⟩
    · rw [Cache.contents, Shelf.get_add_size]
      rfl
    · simp [Feed.Gate.state?]

/-- Where not all feeds are synced, one of them is not. -/
theorem exists_unsynced {g : Feed.Gate} (h : g.allSynced = false) :
    ∃ feed state, g.state? feed = some state ∧ state ≠ .synced := by
  obtain ⟨feed, entry, found, unsynced⟩ := Feed.Gate.allSynced_eq_false_iff.1 h
  exact ⟨feed, entry.state, Feed.Gate.state?_eq_some_iff.2 ⟨entry, found, rfl⟩, unsynced⟩

/-- **Waiting and sealing.** In a waiting room that has been reached from an empty one:

* a wait succeeds only when all feeds are synced; from then on nothing changes in the gate, and no
  wait fails, but succeeds as soon as it has a turn;
* a wait fails only when its token is cancelled and some feed is not synced;
* when those who are woken have done all they can, no wait is left that could be over;
* a feed is taken exactly when no wait has ever begun and it is new, and what is refused changes
  nothing;
* a wait has begun exactly when one has been polled on the way, whatever way has led there;
* those who are woken always come to have done all they can. -/
theorem waiting_and_sealing {stamp : Event.Stamp} {r : WaitingRoom} (reached : Reachable stamp r) :
    (∀ (r' : WaitingRoom) (i : Nat), Resolves r r' i true →
      (∀ feed state, r.cache.gate.state? feed = some state → state = .synced) ∧
      ∀ r'', ReflTransGen Step r' r'' →
        (∀ feed : FeedId, r''.cache.gate.feeds[feed]? = r.cache.gate.feeds[feed]?) ∧
        (r''.perform .isSynced).2 = .flag true ∧
        (∀ j, r'.outcome? j = none → r''.outcome? j ≠ some false) ∧
        ∀ (j : Nat) (w : Wait), r''.waits[j]? = some w → w.outcome? = none →
          (Machine.turn (.wait j) 2 r'').outcome? j = some true) ∧
    (∀ (r' : WaitingRoom) (i : Nat), Resolves r r' i false →
      (∃ w, r.waits[i]? = some w ∧ r.surroundings.isCancelled w.cancel = true) ∧
      ∃ feed state, r.cache.gate.state? feed = some state ∧ state ≠ .synced) ∧
    ((∀ a ∈ r.line.woken, r.poll? a = none) →
      ∀ (i : Nat) (w : Wait), r.waits[i]? = some w → w.outcome? = none →
        (∃ feed state, r.cache.gate.state? feed = some state ∧ state ≠ .synced) ∧
        r.surroundings.isCancelled w.cancel = false) ∧
    (∀ feed,
      (r.HasBegun → r.perform (.register feed) = (r, .refused (.sealed feed))) ∧
      (¬r.HasBegun → (r.cache.gate.state? feed).isSome →
        r.perform (.register feed) = (r, .refused (.duplicate feed))) ∧
      (¬r.HasBegun → r.cache.gate.state? feed = none →
        (r.perform (.register feed)).2 = .registered [] ∧
          (r.perform (.register feed)).1.cache.gate.state? feed = some .notStarted)) ∧
    (∀ past, Traced stamp past r → (r.HasBegun ↔ ∃ i, .wait i ∈ past)) ∧
    Reachable stamp (Machine.resume false r) ∧ Machine.Still (Machine.resume false r) := by
  have attended := reached.attended
  have kept := Reachable.reached reached
  refine ⟨?_, ?_, ?_, ?_, fun past traced => traced.hasBegun_iff, (kept.resume false).1,
    kept.still_resume⟩
  · intro r' i resolves
    obtain ⟨closed, synced, same⟩ := resolves.sealed_and_synced attended
    refine ⟨fun feed state there => Feed.Gate.eq_synced_of_allSynced synced there, ?_⟩
    intro r'' steps
    have grows : r.cache.gate.Grows r''.cache.gate := by
      rw [← same]
      exact grows_of_steps steps
    have still := grows.allSynced closed synced
    refine ⟨feeds_of_grows grows closed synced, ?_, ?_, ?_⟩
    · rw [perform, still]
    · intro j pending
      apply outcome?_ne_false steps (same ▸ closed) (same ▸ synced)
      rw [pending]
      simp
    · intro j v there pending
      exact turn_wait_of_allSynced still there pending
  · intro r' i resolves
    obtain ⟨w, found, -, -, ⟨-, differs⟩ | ⟨unsynced, cancelled, -⟩⟩ := resolves.cases
    · contradiction
    · exact ⟨⟨w, found, cancelled⟩, exists_unsynced unsynced⟩
  · intro quiet i w found pending
    obtain ⟨unsynced, kept⟩ := attended.stuck_of_rest quiet found pending
    exact ⟨exists_unsynced unsynced, kept⟩
  · intro feed
    exact ⟨fun begun => register_of_hasBegun attended begun feed,
      fun opened known => register_of_known attended opened known,
      fun opened fresh => register_of_new attended opened fresh⟩

/-- A room with one feed and one wait, which has not begun. -/
def podsRoom : WaitingRoom :=
  ((start ⟨"0", .epoch⟩).ask (.register "pods")).ask (.wait .shutdown)

/-- The wait has begun. -/
def podsAwaited : WaitingRoom := (podsRoom.poll? (.wait 0)).getD podsRoom

/-- The wait is called no more, since it cannot go on. -/
def podsCalm : WaitingRoom := { podsAwaited with line := podsAwaited.line.calm }

/-- The feed is synced, and the wait is called again. -/
def podsSynced : WaitingRoom := podsCalm.ask (.markSynced "pods")

/-- The token of the wait is cancelled, and the wait is called again. -/
def podsCancelled : WaitingRoom := podsCalm.ask (.cancel .shutdown)

/-- A wait that begins, waits at rest, and succeeds or fails,
with what is refused before and after. -/
theorem waiting_and_sealing_podsRoom :
    podsRoom.perform (.register "pods") = (podsRoom, .refused (.duplicate "pods")) ∧
      podsAwaited.perform (.register "nodes") = (podsAwaited, .refused (.sealed "nodes")) ∧
      ((∃ feed state, podsCalm.cache.gate.state? feed = some state ∧ state ≠ .synced) ∧
        podsCalm.surroundings.isCancelled .shutdown = false) ∧
      (∃ r, Resolves podsSynced r 0 true ∧ (r.perform .isSynced).2 = .flag true) ∧
      (∃ r, Resolves podsCancelled r 0 false ∧
        ∃ feed state, podsCancelled.cache.gate.state? feed = some state ∧ state ≠ .synced) ∧
      Machine.Still (Machine.resume false podsRoom) := by
  have asked : Traced ⟨"0", .epoch⟩ [] podsRoom :=
    (Traced.start.moved (.asked (.register "pods") rfl)).moved (.asked (.wait .shutdown) rfl)
  have room : Reachable ⟨"0", .epoch⟩ podsRoom := reachable_iff_exists_traced.2 ⟨_, asked⟩
  have polled : Traced ⟨"0", .epoch⟩ [.wait 0] podsAwaited :=
    asked.moved (.polled (.wait 0) (room.attended.awake 0 rfl) rfl)
  have awaited : Reachable ⟨"0", .epoch⟩ podsAwaited :=
    reachable_iff_exists_traced.2 ⟨_, polled⟩
  have calm : Reachable ⟨"0", .epoch⟩ podsCalm := by
    refine awaited.tail ⟨none, .lined _ (fun _ member => member) ?_⟩
    intro a _ able
    obtain rfl : a = .wait 0 := List.mem_singleton.1 (awaited.fit.mem_of_able able)
    contradiction
  have synced : Reachable ⟨"0", .epoch⟩ podsSynced :=
    calm.tail ⟨none, .asked (.markSynced "pods") rfl⟩
  have cancelled : Reachable ⟨"0", .epoch⟩ podsCancelled :=
    calm.tail ⟨none, .asked (.cancel .shutdown) rfl⟩
  have succeeds : Resolves podsSynced ((podsSynced.poll? (.wait 0)).getD podsSynced) 0 true :=
    ⟨⟨_, .polled (.wait 0) (synced.attended.awake 0 rfl) rfl⟩, rfl, rfl⟩
  have fails :
      Resolves podsCancelled ((podsCancelled.poll? (.wait 0)).getD podsCancelled) 0 false :=
    ⟨⟨_, .polled (.wait 0) (cancelled.attended.awake 0 rfl) rfl⟩, rfl, rfl⟩
  refine ⟨?_, ?_, ?_, ?_, ?_, (waiting_and_sealing room).2.2.2.2.2.2⟩
  · have opened : ¬podsRoom.HasBegun := by
      rw [(waiting_and_sealing room).2.2.2.2.1 _ asked]
      simp
    exact ((waiting_and_sealing room).2.2.2.1 "pods").2.1 opened rfl
  · have begun : podsAwaited.HasBegun :=
      ((waiting_and_sealing awaited).2.2.2.2.1 _ polled).2 ⟨0, List.mem_singleton_self _⟩
    exact ((waiting_and_sealing awaited).2.2.2.1 "nodes").1 begun
  · exact (waiting_and_sealing calm).2.2.1 (fun a woken => nomatch woken) 0 ⟨.shutdown, .waiting⟩
      rfl rfl
  · exact ⟨_, succeeds, (((waiting_and_sealing synced).1 _ 0 succeeds).2 _ .refl).2.1⟩
  · exact ⟨_, fails, ((waiting_and_sealing cancelled).2.1 _ 0 fails).2⟩

end SchedulerHost.Host.WaitingRoom
