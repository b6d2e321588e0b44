import SchedulerHost.Proofs.Scheduler.Admission
import SchedulerHost.Proofs.Scheduler.Launching
import SchedulerHost.Proofs.Scheduler.Solo

/-!
# Apart from an informer

What goes on in a scheduler besides one of its informers, and what all of it leaves alone.

* **Apart** (`apart_of_construct`): the drivers of a scheduler share neither feeds nor stores.
* `Placed`: the informers are those of the drivers, and each has its feed and its store.
* `Beside`: what happens besides an informer, as long as nobody else writes to its store or reports
  its feed, and the shutdown does not come.
* **Elsewhere** (`Beside.elsewhere`): none of it touches the informer, its feed or its store.
* **What an informer does** (`Placed.acts`) depends on nothing but these, the time and the shutdown.
-/

namespace SchedulerHost.Host

open Feed (FeedId Gate)
open Surroundings (Enters Tells enters_cancel)

/-! ### Drivers -/

/-- Two drivers share neither the feed nor the store. -/
def Driver.Apart (d e : Driver) : Prop := d.informer.feed ≠ e.informer.feed ∧ d.store ≠ e.store

/-- A feed that is taken was not there. -/
theorem state?_of_register {g g' : Gate} {feed : FeedId} {store : Nat}
    (h : g.register feed store = .ok g') : g.state? feed = none := by
  rcases Gate.register_eq g feed store with ⟨-, refused⟩ | ⟨-, -, refused⟩ | ⟨-, unknown, -⟩
  · rw [refused] at h
    contradiction
  · rw [refused] at h
    contradiction
  · exact unknown

/-- A row of informers gets feeds that were not there, and new stores. -/
theorem registerAll_apart {s s' : Surroundings} {c c' : Cache} {informers : List Informer}
    {drivers : List Driver} (h : registerAll s c informers = (s', .ok (drivers, c'))) :
    drivers.Pairwise Driver.Apart ∧ c.stores.size ≤ c'.stores.size ∧
      (∀ id < c.stores.size, c'.stores.get id = c.stores.get id) ∧
      ∀ d ∈ drivers, c.gate.state? d.informer.feed = none ∧ c.stores.size ≤ d.store ∧
        d.store < c'.stores.size ∧ c'.stores.get d.store = .empty := by
  induction informers generalizing s c drivers with
  | nil =>
    simp only [registerAll, Prod.mk.injEq, Except.ok.injEq] at h
    obtain ⟨-, rfl, rfl⟩ := h
    exact ⟨.nil, Nat.le_refl _, fun _ _ => rfl, fun _ there => by cases there⟩
  | cons informer rest ih =>
    obtain ⟨id, s₁, c₁, others, taken, later, rfl⟩ := registerAll_cons_eq_ok h
    obtain ⟨accepted, rfl, stores, -⟩ := registerFeed_eq_ok taken
    obtain ⟨apart, grows, kept, laid⟩ := ih later
    have size : c₁.stores.size = c.stores.size + 1 := by rw [stores, Shelf.size_add]
    -- The feed was in the gate when those of the others were taken.
    have other (d : Driver) (there : d ∈ others) : informer.feed ≠ d.informer.feed := by
      intro same
      have unknown := (laid d there).1
      rw [state?_register accepted, if_pos same] at unknown
      contradiction
    refine ⟨.cons ?_ apart, by omega, ?_, ?_⟩
    · intro d there
      have above := (laid d there).2.1
      exact ⟨other d there, by simp only; omega⟩
    · intro id below
      rw [kept id (by omega), stores, Shelf.get_add_of_lt _ _ below]
    · intro d there
      rcases List.mem_cons.1 there with rfl | behind
      · refine ⟨state?_of_register accepted, Nat.le_refl _, by simp only; omega, ?_⟩
        rw [kept c.stores.size (by omega), stores, Shelf.get_add_size]
      · obtain ⟨unknown, above, room, empty⟩ := laid d behind
        refine ⟨?_, by omega, room, empty⟩
        rwa [state?_register accepted, if_neg (other d behind)] at unknown

/-- What an informer works on: its feed, its store and its token. -/
def InformerTask.place (t : InformerTask) : FeedId × Nat × Token := (t.feed, t.store, t.stop)

def Driver.place (d : Driver) : FeedId × Nat × Token := (d.informer.feed, d.store, .shutdown)

namespace Scheduler

variable {w w' : Scheduler} {i : Nat} {d : Driver}

/-- **Apart.** The drivers of a scheduler that has been constructed share nothing, and their stores
are empty. -/
theorem apart_of_construct {s s' : Surroundings} {assembly : Assembly} {builder : Builder}
    (built : construct s assembly builder = (s', .ok w)) :
    w.drivers.Pairwise Driver.Apart ∧
      ∀ d ∈ w.drivers, d.store < w.cache.stores.size ∧ w.cache.stores.get d.store = .empty := by
  obtain ⟨parts, s₁, backend, s₂, drivers, cache, request, s₃, backend', -, registered, -, rfl⟩ :=
    construct_eq_ok built
  obtain ⟨apart, -, -, laid⟩ := registerAll_apart registered
  exact ⟨apart, fun d there => (laid d there).2.2⟩

/-! ### Places -/

/-- A scheduler has launched the informers of its drivers, or none. -/
def Launched (w : Scheduler) : Prop :=
  w.informers.map (·.place) = if w.started then w.drivers.map (·.place) else []

/-- How far the informer of a driver has come. -/
def playOf (w : Scheduler) (i : Nat) (d : Driver) : Performance FeedAction :=
  match w.informers[i]? with
  | none => .ofScript d.informer.script
  | some t => t.play

/-- A driver has its place: its feed is registered, its store is there, and no other driver has the
one or the other. -/
structure Placed (i : Nat) (d : Driver) (w : Scheduler) : Prop where
  tracked : w.drivers[i]? = some d
  known : w.cache.gate.Binds d.informer.feed d.store
  room : d.store < w.cache.stores.size
  apart : w.drivers.Pairwise Driver.Apart
  launched : Launched w

theorem Launched.of_same (launched : Launched w) (informers : w'.informers = w.informers)
    (started : w'.started = w.started) (drivers : w'.drivers = w.drivers) : Launched w' := by
  rw [Launched, informers, started, drivers]
  exact launched

/-- An informer that goes on works on the same. -/
theorem Launched.set (launched : Launched w) {j : Nat} {t : InformerTask}
    (found : w.informers[j]? = some t) (play : Performance FeedAction)
    (informers : w'.informers = w.informers.set j { t with play := play })
    (started : w'.started = w.started) (drivers : w'.drivers = w.drivers) : Launched w' := by
  rw [Launched, informers, started, drivers, map_set_of_same found]
  · exact launched
  · rfl

/-- An informer works on what its driver has registered. -/
theorem Launched.found (launched : Launched w) {t : InformerTask}
    (found : w.informers[i]? = some t) :
    w.started = true ∧ ∃ e, w.drivers[i]? = some e ∧ t.place = e.place := by
  have same := congrArg (·[i]?) launched
  cases started : w.started with
  | false => simp [started, found] at same
  | true =>
    simp only [List.getElem?_map, found, started, if_true, Option.map_some] at same
    obtain ⟨e, there, same⟩ := Option.map_eq_some_iff.1 same.symm
    exact ⟨rfl, e, there, same.symm⟩

/-- Nothing is launched before a run. -/
theorem Launched.nothing (launched : Launched w) (fresh : w.started = false) :
    w.informers = [] := by
  rw [Launched, fresh] at launched
  simpa using launched

/-- Two drivers at different places are apart. -/
theorem Placed.other (placed : Placed i d w) {j : Nat} {e : Driver}
    (there : w.drivers[j]? = some e) (different : j ≠ i) : e.Apart d := by
  have apart := List.pairwise_iff_getElem.1 placed.apart
  obtain ⟨inside, same⟩ := List.getElem?_eq_some_iff.1 placed.tracked
  obtain ⟨inside', same'⟩ := List.getElem?_eq_some_iff.1 there
  rcases Nat.lt_or_gt_of_ne different with before | behind
  · have h := apart j i inside' inside before
    rwa [same, same'] at h
  · have h := apart i j inside inside' behind
    rw [same, same'] at h
    exact ⟨h.1.symm, h.2.symm⟩

theorem Placed.state?_isSome (placed : Placed i d w) :
    (w.cache.gate.state? d.informer.feed).isSome = true := by
  obtain ⟨entry, found, -⟩ := placed.known
  rw [Gate.state?, found]
  rfl

/-! ### Elsewhere -/

/-- What happens elsewhere: an informer, its feed and its store are left alone,
at the same moment. -/
structure Elsewhere (i : Nat) (d : Driver) (w w' : Scheduler) : Prop where
  now : w'.surroundings.now = w.surroundings.now
  down : w'.isCancelled .shutdown = w.isCancelled .shutdown
  play : w'.playOf i d = w.playOf i d
  store : w'.cache.stores.get d.store = w.cache.stores.get d.store
  size : w.cache.stores.size ≤ w'.cache.stores.size
  isSynced : w'.cache.gate.isSynced d.informer.feed = w.cache.gate.isSynced d.informer.feed
  entered : Enters (· ≠ .feed d.informer.feed) w.surroundings w'.surroundings
  launched : Launched w'

theorem playOf_eq (informers : w'.informers = w.informers) (i : Nat) (d : Driver) :
    w'.playOf i d = w.playOf i d := by
  rw [playOf, playOf, informers]

/-- What is about nothing, or about events, is not about a feed. -/
theorem Topic.IsOfEvents.ne_feed {topic : Topic} (h : topic.IsOfEvents) (feed : FeedId) :
    topic ≠ .feed feed := by
  rcases h with rfl | rfl <;> exact nofun

/-- Something is done, but not by an informer. -/
theorem Placed.elsewhere (placed : Placed i d w) {s : Surroundings} {c : Cache} (b : Backend)
    (core : Option CoreTask) (l : Line Agent) (now : s.now = w.surroundings.now)
    (down : s.isCancelled .shutdown = w.isCancelled .shutdown)
    (entered : Enters Topic.IsOfEvents w.surroundings s)
    (store : c.stores.get d.store = w.cache.stores.get d.store)
    (size : w.cache.stores.size ≤ c.stores.size)
    (isSynced : c.gate.isSynced d.informer.feed = w.cache.gate.isSynced d.informer.feed) :
    Elsewhere i d w
      { w with surroundings := s, cache := c, backend := b, core := core, line := l } where
  now := now
  down := down
  play := rfl
  store := store
  size := size
  isSynced := isSynced
  entered := entered.mono fun _ h => Topic.IsOfEvents.ne_feed h _
  launched := placed.launched.of_same rfl rfl rfl

/-- Something is done besides to the cache. -/
theorem Placed.elsewhere_surroundings (placed : Placed i d w) {s : Surroundings} (b : Backend)
    (core : Option CoreTask) (l : Line Agent) (now : s.now = w.surroundings.now)
    (down : s.isCancelled .shutdown = w.isCancelled .shutdown)
    (entered : Enters Topic.IsOfEvents w.surroundings s) :
    Elsewhere i d w { w with surroundings := s, backend := b, core := core, line := l } :=
  placed.elsewhere b core l now down entered rfl (Nat.le_refl _) rfl

/-- Something is done to the gate by someone who has a hold on it. -/
theorem Placed.elsewhere_withGate (placed : Placed i d w) {told : Bool} {g : Gate}
    (isSynced : g.isSynced d.informer.feed = w.cache.gate.isSynced d.informer.feed) :
    Elsewhere i d w (w.withCache told { w.cache with gate := g }) := by
  obtain ⟨line, -, same⟩ := w.exists_withCache told { w.cache with gate := g }
  rw [same]
  exact placed.elsewhere w.backend w.core line rfl rfl (.refl _ _) rfl (Nat.le_refl _) isSynced

/-! ### The run -/

/-- The run launches the informers, and leaves them alone after that. -/
theorem Placed.turned (placed : Placed i d w) (turn : w.pollRun? = some w') :
    w'.playOf i d = w.playOf i d ∧ Launched w' := by
  have life : Life w w' := .single (.stirred (.polled .run turn))
  have drivers := life.parts.2
  obtain ⟨ctx, phase, -, ⟨-, fresh, turned⟩ | ⟨-, turned⟩⟩ := turned_of_pollRun? turn
  · obtain ⟨s, c, b, first, l, -, -, launches⟩ := w.exists_launchAll
    obtain ⟨informers, started⟩ := turned.informers
    have nothing := placed.launched.nothing fresh
    rw [launches] at informers started
    simp only [nothing, List.nil_append] at informers
    refine ⟨?_, ?_⟩
    · -- An informer that has just been launched has come as far as one that has not.
      simp [playOf, informers, nothing, placed.tracked, Driver.task]
    · rw [Launched, informers, started, drivers, List.map_map]
      rfl
  · obtain ⟨informers, started⟩ := turned.informers
    exact ⟨playOf_eq informers i d, placed.launched.of_same informers started drivers⟩

/-- The run leaves an informer alone, but to launch it. -/
theorem Placed.elsewhere_run (placed : Placed i d w) (turn : w.pollRun? = some w') :
    Elsewhere i d w w' := by
  obtain ⟨play, launched⟩ := placed.turned turn
  obtain ⟨ctx, phase, -, -, rfl⟩ := exists_of_pollRun? turn
  have proceeds := (w.proceed_spec ctx phase).1
  exact {
    now := proceeds.surroundings.now
    down := proceeds.isCancelled .shutdown
    play := play
    store := by rw [proceeds.stores]
    size := Nat.le_of_eq (by rw [proceeds.stores])
    isSynced := proceeds.isSynced _
    entered := (enters_proceed w ctx phase).mono fun _ plain => by rw [plain]; exact nofun
    launched := launched }

/-! ### The tasks -/

theorem Placed.elsewhere_recording (placed : Placed i d w)
    (next : w.pollTask? .recording = some w') : Elsewhere i d w w' := by
  cases taskStep_of_pollTask? next with
  | recording structured started stepped =>
    exact placed.elsewhere_surroundings _ w.core w.line stepped.extends.now
      (stepped.extends.isCancelled .shutdown) (Broadcaster.enters_stepped stepped)

theorem Placed.elsewhere_core (placed : Placed i d w) (next : w.pollTask? .core = some w') :
    Elsewhere i d w w' := by
  obtain ⟨t, s, b, t', -, stepped, rfl⟩ := core_of_pollTask? next
  have told := (CoreTask.step?_facts stepped).1
  exact placed.elsewhere_surroundings b (some t') w.line told.now (told.isCancelled .shutdown)
    (CoreTask.enters_step? stepped)

/-- Another informer has another feed and another store. -/
theorem Placed.elsewhere_informer (placed : Placed i d w) {j : Nat} (different : j ≠ i)
    (next : w.pollTask? (.informer j) = some w') : Elsewhere i d w w' := by
  obtain ⟨t, told, s, c, t', line, found, stepped, -, rfl⟩ := informer_of_pollTask? next
  obtain ⟨-, e, there, place⟩ := placed.launched.found found
  have apart := placed.other there different
  simp only [InformerTask.place, Driver.place, Prod.mk.injEq] at place
  obtain ⟨feed, store, -⟩ := place
  obtain ⟨works, move, play, -, rfl⟩ := InformerTask.step?_facts stepped
  have other : d.informer.feed ≠ t.feed := by
    rw [feed]
    exact apart.1.symm
  exact {
    now := works.surroundings.now
    down := works.surroundings.isCancelled .shutdown
    play := by simp [playOf, List.getElem?_set_ne different]
    store := works.stores d.store (by rw [store]; exact apart.2.symm)
    size := Nat.le_of_eq works.size.symm
    isSynced := by
      show c.gate.isSynced _ = _
      rw [Gate.isSynced, Gate.isSynced, works.states _ other]
    entered := (InformerTask.enters_step? stepped).mono fun topic h => by
      rcases h with rfl | rfl
      · simp
      · simpa using other.symm
    launched := placed.launched.set found play rfl rfl rfl }

/-- What a step of the informer of a driver does. -/
structure Acts (i : Nat) (d : Driver) (w : Scheduler) (move : Move FeedAction)
    (play : Performance FeedAction) (w' : Scheduler) : Prop where
  next : (w.playOf i d).next? w.surroundings.now (w.isCancelled .shutdown) = some (move, play)
  play : w'.playOf i d = play
  surroundings : w.surroundings.Extends w'.surroundings
  told : Tells (Entry.ofFeed? d.informer.feed)
    (Deed.entry? d.informer.feed (w.cache.gate.isSynced d.informer.feed)
      ⟨w.surroundings.now, move⟩).toList w.surroundings w'.surroundings
  store : w'.cache.stores.get d.store = move.write (w.cache.stores.get d.store)
  isSynced : w'.cache.gate.isSynced d.informer.feed =
    (w.cache.gate.isSynced d.informer.feed || move.isReport)
  size : w.cache.stores.size ≤ w'.cache.stores.size
  launched : Launched w'

/-- An informer does what its performance says, to its own feed and store. -/
theorem Placed.acts (placed : Placed i d w) (next : w.pollTask? (.informer i) = some w') :
    ∃ move play, Acts i d w move play w' := by
  obtain ⟨t, told, s, c, t', line, found, stepped, -, rfl⟩ := informer_of_pollTask? next
  obtain ⟨-, e, there, place⟩ := placed.launched.found found
  rw [placed.tracked, Option.some.injEq] at there
  simp only [InformerTask.place, Driver.place, ← there, Prod.mk.injEq] at place
  obtain ⟨feed, store, stop⟩ := place
  have works := (InformerTask.step?_facts stepped).1
  obtain ⟨move, play, goes, rfl, effect⟩ := InformerTask.step?_effect
    (by rw [store]; exact placed.room) (by rw [feed]; exact placed.state?_isSome) stepped
  have told := effect.told
  have written := effect.store
  have synced := effect.isSynced
  rw [feed] at told synced
  rw [store] at written
  rw [stop] at goes
  have inside : i < w.informers.length := (List.getElem?_eq_some_iff.1 found).1
  exact ⟨move, play, {
    next := by
      rw [playOf, found]
      exact goes
    play := by simp [playOf, inside]
    surroundings := works.surroundings
    told := told
    store := written
    isSynced := synced
    size := Nat.le_of_eq works.size.symm
    launched := placed.launched.set found play rfl rfl rfl }⟩

/-- There is one step it can take. -/
theorem Placed.acts_of_next (placed : Placed i d w) {move : Move FeedAction}
    {play : Performance FeedAction}
    (next : (w.playOf i d).next? w.surroundings.now (w.isCancelled .shutdown) = some (move, play))
    (polled : w.pollTask? (.informer i) = some w') : Acts i d w move play w' := by
  obtain ⟨move', play', acts⟩ := placed.acts polled
  have same := acts.next
  rw [next, Option.some.injEq, Prod.mk.injEq] at same
  rw [same.1, same.2]
  exact acts

/-! ### Whoever holds the scheduler -/

theorem extends_record (w : Scheduler) (component : String) (remark : Event.Remark) :
    w.surroundings.Extends (w.record component remark).surroundings := by
  unfold record
  cases structured : w.backend with
  | legacy => exact (Surroundings.Extends.call _ _).trans (.call _ _)
  | structured b => exact Backend.extends_emit w.surroundings .outside _ component remark

/-- Where only plain entries are made, nothing is said of a feed. -/
theorem plain_isOfEvents {s s' : Surroundings} (plain : Enters (· = .plain) s s') :
    Enters Topic.IsOfEvents s s' :=
  plain.mono fun _ same => .inl same

/-- A registration leaves the feeds that are there to their informers. -/
theorem Placed.elsewhere_register (placed : Placed i d w) (feed : FeedId) :
    Elsewhere i d w (w.perform (.register feed)).1 := by
  have plain := plain_isOfEvents (w.entersPlain_perform (c := .register feed) rfl)
  simp only [perform, register] at plain ⊢
  split at plain
  · exact placed.elsewhere_surroundings w.backend w.core w.line rfl rfl (.refl _ _)
  · next id s c taken =>
    obtain ⟨accepted, -, stores, rfl⟩ := registerFeed_eq_ok taken
    obtain ⟨line, -, same⟩ := w.exists_withCache true c
    rw [same] at plain ⊢
    refine placed.elsewhere w.backend w.core line rfl rfl plain ?_ ?_ ?_
    · rw [stores, Shelf.get_add_of_lt _ _ placed.room]
    · rw [stores, Shelf.size_add]
      exact Nat.le_succ _
    · -- A feed that is taken is not the one of the driver, which is there already.
      have different : feed ≠ d.informer.feed := by
        rintro rfl
        have there := placed.state?_isSome
        rw [state?_of_register accepted] at there
        contradiction
      rw [Gate.isSynced, Gate.isSynced, state?_register accepted, if_neg different]

/-- Whatever is asked, but for the shutdown and for a report of the feed,
leaves an informer alone. -/
theorem Placed.elsewhere_perform (placed : Placed i d w) {c : Command} (brief : c.isBrief = true)
    (up : c ≠ .cancel .shutdown) (unreported : c ≠ .markSynced d.informer.feed) :
    Elsewhere i d w (w.perform c).1 := by
  cases c with
  | run ctx => contradiction
  | advance ms => contradiction
  | drain ms => contradiction
  | register feed => exact placed.elsewhere_register feed
  | contents feed =>
    exact placed.elsewhere_surroundings w.backend w.core w.line rfl rfl (.refl _ _)
  | cancel token =>
    have other : token ≠ .shutdown := by
      rintro rfl
      exact up rfl
    exact placed.elsewhere_surroundings w.backend w.core w.line (Surroundings.now_cancel _ _)
      (Surroundings.isCancelled_cancel_of_ne _ other) (enters_cancel _ _)
  | markSynced feed =>
    have different : feed ≠ d.informer.feed := by
      rintro rfl
      exact unreported rfl
    have told := extends_noteSync w.surroundings .outside feed (w.cache.gate.syncOutcome feed)
    have plain := plain_isOfEvents (w.entersPlain_perform (c := .markSynced feed) rfl)
    obtain ⟨line, -, same⟩ :=
      w.exists_withCache (reportSynced w.surroundings w.cache .outside feed).1
        (reportSynced w.surroundings w.cache .outside feed).2.2
    simp only [perform, same] at plain ⊢
    refine placed.elsewhere w.backend w.core line told.now (told.isCancelled .shutdown) plain rfl
      (Nat.le_refl _) ?_
    show (w.cache.gate.markSynced feed).2.isSynced d.informer.feed = _
    rw [Gate.isSynced, Gate.isSynced, Gate.state?_markSynced, if_neg fun h => different h.1]
  | record component remark =>
    have told := w.extends_record component remark
    exact placed.elsewhere_surroundings _ w.core w.line told.now (told.isCancelled .shutdown)
      (w.enters_record component remark)
  | startRecording stop =>
    simp only [perform, startRecordingBy]
    split
    · split
      · exact placed.elsewhere_surroundings _ w.core _ rfl rfl (.refl _ _)
      · exact placed.elsewhere_surroundings w.backend w.core w.line rfl rfl (.refl _ _)
    · exact placed.elsewhere_surroundings w.backend w.core w.line rfl rfl (.refl _ _)

/-! ### Beside -/

/-- Something happens besides an informer: someone else takes a step, something is asked for, the
gate and the stores are used. Nobody else writes to the store of the informer or reports its feed,
and the shutdown does not come. -/
inductive Beside (i : Nat) (d : Driver) (w : Scheduler) : Scheduler → Prop
  | polled {w' : Scheduler} (a : Agent) (other : a ≠ .task (.informer i))
    (next : w.poll? a = some w') : Beside i d w w'
  | asked (c : Command) (brief : c.isBrief = true) (up : c ≠ .cancel .shutdown)
    (unreported : c ≠ .markSynced d.informer.feed) : Beside i d w (w.perform c).1
  | lined (l : Line Agent) : Beside i d w { w with line := l }
  | marked (feed : FeedId) :
    Beside i d w (w.withCache (w.cache.markRunning feed).1 (w.cache.markRunning feed).2)
  | waited :
    Beside i d w (w.withCache (!w.cache.gate.isSealed)
      { w.cache with gate := w.cache.gate.beginWait })
  | written (id : Nat) (other : id ≠ d.store) (f : Feed.Store → Feed.Store) :
    Beside i d w { w with cache := w.cache.modifyStore id f }

theorem Beside.stir (beside : Beside i d w w') : Stir w w' := by
  cases beside with
  | polled a other next => exact .polled a next
  | asked c brief => exact .asked c brief
  | lined l => exact .lined l
  | marked feed => exact .marked feed
  | waited => exact .waited
  | written id other f => exact .written id f

/-- **Elsewhere.** Whatever happens besides an informer leaves it, its feed and its store alone. -/
theorem Beside.elsewhere (beside : Beside i d w w') (placed : Placed i d w) :
    Elsewhere i d w w' := by
  cases beside with
  | polled a other next =>
    cases a with
    | run => exact placed.elsewhere_run next
    | task task =>
      cases task with
      | recording => exact placed.elsewhere_recording next
      | core => exact placed.elsewhere_core next
      | informer j => exact placed.elsewhere_informer (fun same => other (by rw [same])) next
  | asked c brief up unreported => exact placed.elsewhere_perform brief up unreported
  | lined l => exact placed.elsewhere_surroundings w.backend w.core l rfl rfl (.refl _ _)
  | marked feed => exact placed.elsewhere_withGate (Gate.isSynced_markRunning _ _ _)
  | waited => exact placed.elsewhere_withGate rfl
  | written id other f =>
    exact placed.elsewhere w.backend w.core w.line rfl rfl (.refl _ _)
      (Shelf.get_put_of_ne _ _ other) (Nat.le_of_eq (Shelf.size_put _ _ _).symm) rfl

/-- A driver keeps its place when nothing is taken from its store and from the informers. -/
theorem Placed.step (placed : Placed i d w) (step : Step w w')
    (size : w.cache.stores.size ≤ w'.cache.stores.size) (launched : Launched w') :
    Placed i d w' := by
  have life : Life w w' := .single step
  have drivers := life.parts.2
  refine ⟨?_, placed.known.grows step.grows, Nat.lt_of_lt_of_le placed.room size, ?_, launched⟩
  · rw [drivers]
    exact placed.tracked
  · rw [drivers]
    exact placed.apart

/-- A driver keeps its place, whatever happens besides its informer. -/
theorem Beside.placed (beside : Beside i d w w') (placed : Placed i d w) : Placed i d w' := by
  have elsewhere := beside.elsewhere placed
  exact placed.step (.stirred beside.stir) elsewhere.size elsewhere.launched

end Scheduler

end SchedulerHost.Host
