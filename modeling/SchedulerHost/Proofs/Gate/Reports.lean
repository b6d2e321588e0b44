import Mathlib.Logic.Basic
import SchedulerHost.Host.Informer
import SchedulerHost.Proofs.Gate.Growth
import SchedulerHost.Proofs.Tasks.Performing

/-!
# Reports

What becomes of the surroundings and of a gate while feeds are registered and informers report.

* `Surroundings.Extends` and `Surroundings.Onward`: what may happen at one moment, and at all.
* `GateOnward`: a gate grows along with its surroundings, and a feed that is synced has been noted
  as synced.
* **One fact per step** (`InformerTask.step?_facts`): an informer writes to its own store and
  reports its own feed, and never seals the gate. Every step leaves it less to do
  (`InformerTask.work_of_next?`).
-/

namespace SchedulerHost.Host

open Feed (FeedId Gate)

/-! ### Surroundings -/

/-- More has happened, at the same moment and with the same tokens cancelled. -/
structure Surroundings.Extends (s s' : Surroundings) : Prop where
  now : s'.now = s.now
  cancelled : s'.cancelled = s.cancelled
  stamp : s'.stamp = s.stamp
  journal : s.journal <:+ s'.journal

namespace Surroundings.Extends

variable {s s' s'' : Surroundings}

theorem refl (s : Surroundings) : s.Extends s := ⟨rfl, rfl, rfl, List.suffix_refl _⟩

theorem trans (first : s.Extends s') (last : s'.Extends s'') : s.Extends s'' :=
  ⟨last.now.trans first.now, last.cancelled.trans first.cancelled, last.stamp.trans first.stamp,
    first.journal.trans last.journal⟩

theorem note (s : Surroundings) (scope : Scope) (n : Notice) : s.Extends (s.note scope n) :=
  ⟨rfl, rfl, rfl, List.suffix_cons _ _⟩

theorem call (s : Surroundings) (c : Call) : s.Extends (s.call c) :=
  ⟨rfl, rfl, rfl, List.suffix_cons _ _⟩

theorem isCancelled (h : s.Extends s') (token : Token) :
    s'.isCancelled token = s.isCancelled token := by
  rw [Surroundings.isCancelled, Surroundings.isCancelled, h.cancelled]

end Surroundings.Extends

/-- Time has not gone back, no token is restored, and nothing that happened is taken back. -/
structure Surroundings.Onward (s s' : Surroundings) : Prop where
  now : s.now ≤ s'.now
  cancelled (token : Token) : s.isCancelled token = true → s'.isCancelled token = true
  journal : s.journal <:+ s'.journal

namespace Surroundings.Onward

variable {s s' s'' : Surroundings}

theorem refl (s : Surroundings) : s.Onward s := ⟨Nat.le_refl _, fun _ h => h, List.suffix_refl _⟩

theorem trans (first : s.Onward s') (last : s'.Onward s'') : s.Onward s'' :=
  ⟨Nat.le_trans first.now last.now, fun token h => last.cancelled token (first.cancelled token h),
    first.journal.trans last.journal⟩

theorem of_extends (h : s.Extends s') : s.Onward s' :=
  ⟨Nat.le_of_eq h.now.symm, fun token there => (h.isCancelled token).trans there, h.journal⟩

theorem cancel (s : Surroundings) (token : Token) : s.Onward (s.cancel token) := by
  refine ⟨?_, fun other h => Surroundings.isCancelled_mono s token other h, ?_⟩
  · unfold Surroundings.cancel
    split <;> exact Nat.le_refl _
  · unfold Surroundings.cancel
    split <;> exact List.suffix_refl _

end Surroundings.Onward

/-! ### Reports -/

/-- What is in the journal since it had a number of entries stays there. -/
theorem Surroundings.Onward.mem_entriesSince {s s' : Surroundings} (h : s.Onward s') {mark : Nat}
    {entry : Entry} (there : entry ∈ s.entriesSince mark) : entry ∈ s'.entriesSince mark := by
  obtain ⟨later, same⟩ := h.journal
  rw [entriesSince] at there ⊢
  rw [← same, List.take_append, List.mem_append, List.length_append]
  right
  refine List.take_subset_take_left _ ?_ there
  omega

/-- What is entered is there since any number of entries that the journal had before. -/
theorem Surroundings.mem_entriesSince_of_cons {s s' : Surroundings} {mark : Nat} {entry : Entry}
    (entered : s'.journal = entry :: s.journal) (old : mark ≤ s.journal.length) :
    entry ∈ s'.entriesSince mark := by
  rw [entriesSince, entered, List.length_cons, show s.journal.length + 1 - mark =
    (s.journal.length - mark) + 1 by omega, List.take_succ_cons]
  exact List.mem_cons_self

/-- Has it been noted that a feed is synced, since the journal had a number of entries? -/
def Surroundings.NotedSynced (s : Surroundings) (mark : Nat) (feed : FeedId) : Prop :=
  ∃ time scope, Entry.mk time (.notice scope (.feedSynced feed)) ∈ s.entriesSince mark

/-- Every synced feed has been noted as synced, since the journal had a number of entries. -/
structure AllNoted (mark : Nat) (s : Surroundings) (g : Gate) : Prop where
  old : mark ≤ s.journal.length
  noted (feed : FeedId) : g.state? feed = some .synced → s.NotedSynced mark feed

/-- What may be done to the gate at a moment, and to its surroundings with it. -/
structure GateOnward (s : Surroundings) (g : Gate) (s' : Surroundings) (g' : Gate) : Prop where
  surroundings : s.Onward s'
  grows : g.Grows g'
  noted (mark : Nat) : AllNoted mark s g → AllNoted mark s' g'

theorem GateOnward.trans {s s' s'' : Surroundings} {g g' g'' : Gate}
    (first : GateOnward s g s' g') (last : GateOnward s' g' s'' g'') : GateOnward s g s'' g'' :=
  ⟨first.surroundings.trans last.surroundings, first.grows.trans last.grows,
    fun mark h => last.noted mark (first.noted mark h)⟩

theorem Surroundings.NotedSynced.onward {s s' : Surroundings} {mark : Nat} {feed : FeedId}
    (h : s.NotedSynced mark feed) (onward : s.Onward s') : s'.NotedSynced mark feed := by
  obtain ⟨time, scope, member⟩ := h
  exact ⟨time, scope, onward.mem_entriesSince member⟩

/-- Nothing is done to the gate. -/
theorem GateOnward.of_surroundings {s s' : Surroundings} (onward : s.Onward s') (g : Gate) :
    GateOnward s g s' g :=
  ⟨onward, .refl g, fun _ h => ⟨Nat.le_trans h.old onward.journal.length_le,
    fun feed synced => (h.noted feed synced).onward onward⟩⟩

/-- Nothing is done to the gate by which a feed becomes synced. -/
theorem GateOnward.of_unsynced (s : Surroundings) {g g' : Gate} (grows : g.Grows g')
    (unsynced : ∀ feed, g'.state? feed = some .synced → g.state? feed = some .synced) :
    GateOnward s g s g' :=
  ⟨.refl s, grows, fun _ h => ⟨h.old, fun feed synced => h.noted feed (unsynced feed synced)⟩⟩

theorem state?_register {g g' : Gate} {feed : FeedId} {store : Nat}
    (h : g.register feed store = .ok g') (other : FeedId) :
    g'.state? other = if feed = other then some .notStarted else g.state? other := by
  rw [Gate.state?, Gate.getElem?_register h, Gate.state?]
  split <;> rfl

/-- A feed that has just been registered is not synced, so nothing has to be noted. -/
theorem gateOnward_register (s : Surroundings) {g g' : Gate} {feed : FeedId} {store : Nat}
    (h : g.register feed store = .ok g') : GateOnward s g s g' := by
  apply GateOnward.of_unsynced s (Gate.grows_register h)
  intro other synced
  rw [state?_register h] at synced
  by_cases same : feed = other
  · simp [same] at synced
  · rwa [if_neg same] at synced

theorem gateOnward_markRunning (s : Surroundings) (g : Gate) (feed : FeedId) :
    GateOnward s g s (g.markRunning feed).2 := by
  apply GateOnward.of_unsynced s (Gate.grows_markRunning g feed)
  intro other synced
  rw [Gate.state?_markRunning] at synced
  by_cases starts : feed = other ∧ g.state? other = some .notStarted
  · simp [starts] at synced
  · rwa [if_neg starts] at synced

theorem gateOnward_beginWait (s : Surroundings) (g : Gate) : GateOnward s g s g.beginWait :=
  GateOnward.of_unsynced s (Gate.grows_beginWait g) fun _ synced => synced

/-- Noting what a report comes to leaves all else alone. -/
theorem extends_noteSync (s : Surroundings) (scope : Scope) (feed : FeedId)
    (outcome : Feed.SyncOutcome) : s.Extends (noteSync s scope feed outcome) := by
  cases outcome with
  | transitioned => exact .note s scope _
  | already => exact .refl s
  | unknown => exact .note s scope _

/-- The first report that a feed is synced is noted. -/
theorem gateOnward_reportSynced (s : Surroundings) (c : Cache) (scope : Scope) (feed : FeedId) :
    GateOnward s c.gate (reportSynced s c scope feed).2.1
      (reportSynced s c scope feed).2.2.gate := by
  have onward := Surroundings.Onward.of_extends (extends_noteSync s scope feed
    (c.gate.syncOutcome feed))
  refine ⟨onward, Gate.grows_markSynced c.gate feed, ?_⟩
  intro mark h
  refine ⟨Nat.le_trans h.old onward.journal.length_le, ?_⟩
  intro other synced
  change (c.gate.markSynced feed).2.state? other = some .synced at synced
  show (noteSync s scope feed (c.gate.syncOutcome feed)).NotedSynced mark other
  rw [Gate.state?_markSynced] at synced
  by_cases reported : feed = other ∧ (c.gate.state? other).isSome
  · obtain ⟨rfl, known⟩ := reported
    rw [Gate.state?, Option.isSome_map] at known
    obtain ⟨entry, found⟩ := Option.isSome_iff_exists.1 known
    by_cases already : entry.state = .synced
    · exact (h.noted feed (Gate.state?_eq_some_iff.2 ⟨entry, found, already⟩)).onward onward
    · refine ⟨s.now, scope, Surroundings.mem_entriesSince_of_cons ?_ h.old⟩
      simp [Gate.syncOutcome, found, already, noteSync, Surroundings.note]
  · rw [if_neg reported] at synced
    exact (h.noted other synced).onward onward

/-! ### Registrations -/

/-- A registration that is not refused gives the feed a store of its own. -/
theorem Cache.register_eq_ok {c c' : Cache} {feed : FeedId} {id : Nat}
    (h : c.register feed = .ok (id, c')) :
    c.gate.register feed id = .ok c'.gate ∧ id = c.stores.size ∧
      c'.stores = c.stores.add .empty := by
  obtain ⟨rfl, stores⟩ := register_stores h
  unfold Cache.register at h
  split at h
  · contradiction
  · next gate taken =>
    simp only [Except.ok.injEq, Prod.mk.injEq, true_and] at h
    obtain rfl := h
    exact ⟨taken, rfl, rfl⟩

/-- What a registration that is not refused comes to. -/
theorem registerFeed_eq_ok {s s' : Surroundings} {c c' : Cache} {feed : FeedId} {id : Nat}
    (h : registerFeed s c feed = .ok (id, s', c')) :
    c.gate.register feed id = .ok c'.gate ∧ id = c.stores.size ∧
      c'.stores = c.stores.add .empty ∧ s' = s.note .outside (.feedRegistered feed) := by
  unfold registerFeed at h
  split at h
  · contradiction
  · next number cache taken =>
    simp only [Except.ok.injEq, Prod.mk.injEq] at h
    obtain ⟨rfl, rfl, rfl⟩ := h
    obtain ⟨accepted, sized, stores⟩ := Cache.register_eq_ok taken
    exact ⟨accepted, sized, stores, rfl⟩

theorem isSealed_of_register {g g' : Gate} {feed : FeedId} {store : Nat}
    (h : g.register feed store = .ok g') : g'.isSealed = g.isSealed := by
  unfold Gate.register at h
  split at h
  · contradiction
  · split at h
    · contradiction
    · simp only [Except.ok.injEq] at h
      rw [← h]

/-! ### Informers -/

/-- What an informer does to its surroundings and the cache, and what it tells. -/
structure InformerTask.Works (t : InformerTask) (s : Surroundings) (c : Cache) (told : Bool)
    (s' : Surroundings) (c' : Cache) : Prop where
  surroundings : s.Extends s'
  gate : GateOnward s c.gate s' c'.gate
  answers : Gate.Answers told c.gate c'.gate
  isSealed : c'.gate.isSealed = c.gate.isSealed
  size : c'.stores.size = c.stores.size
  stores (id : Nat) : id ≠ t.store → c'.stores.get id = c.stores.get id
  states (feed : FeedId) : feed ≠ t.feed → c'.gate.state? feed = c.gate.state? feed

theorem InformerTask.Works.of_surroundings (t : InformerTask) {s s' : Surroundings}
    (h : s.Extends s') (c : Cache) : t.Works s c false s' c :=
  ⟨h, .of_surroundings (.of_extends h) c.gate, Gate.answers_refl c.gate, rfl, rfl,
    fun _ _ => rfl, fun _ _ => rfl⟩

theorem InformerTask.works_modifyStore (t : InformerTask) (s : Surroundings) (c : Cache)
    (f : Feed.Store → Feed.Store) : t.Works s c false s (c.modifyStore t.store f) :=
  ⟨.refl s, .of_surroundings (.refl s) c.gate, Gate.answers_refl c.gate, rfl, Shelf.size_put _ _ _,
    fun _ other => Shelf.get_put_of_ne _ _ (Ne.symm other), fun _ _ => rfl⟩

theorem InformerTask.works_perform (t : InformerTask) (s : Surroundings) (c : Cache)
    (a : FeedAction) :
    t.Works s c (t.perform s c a).1 (t.perform s c a).2.1 (t.perform s c a).2.2 := by
  cases a with
  | insert key object => exact t.works_modifyStore s c fun store => (store.insert key object).2
  | remove key => exact t.works_modifyStore s c fun store => (store.remove key).2
  | replace listing => exact t.works_modifyStore s c fun store => store.replace listing
  | sync =>
    have noted := extends_noteSync s (.informer t.feed) t.feed (c.gate.syncOutcome t.feed)
    have called := Surroundings.Extends.call
      (noteSync s (.informer t.feed) t.feed (c.gate.syncOutcome t.feed))
      (.informerSync t.feed (c.gate.markSynced t.feed).1)
    refine ⟨noted.trans called, ?_, Gate.answers_markSynced _ _, Gate.isSealed_markSynced _ _, rfl,
      fun _ _ => rfl, ?_⟩
    · exact (gateOnward_reportSynced s c (.informer t.feed) t.feed).trans
        (.of_surroundings (.of_extends called) _)
    · intro feed other
      show (c.gate.markSynced t.feed).2.state? feed = c.gate.state? feed
      rw [Gate.state?_markSynced, if_neg fun same => other same.1.symm]

/-- An informer goes on with its performance: it leaves the cache alone, or performs an action. -/
theorem InformerTask.step?_cases {told : Bool} {s s' : Surroundings} {c c' : Cache}
    {t t' : InformerTask} (h : t.step? s c = some (told, s', c', t')) :
    ∃ move play, t.play.next? s.now (s.isCancelled t.stop) = some (move, play) ∧
      t' = { t with play := play } ∧
      (s.Extends s' ∧ told = false ∧ c' = c ∨ ∃ a, t.perform s c a = (told, s', c')) := by
  unfold step? at h
  split at h
  · contradiction
  · next move play next =>
    refine ⟨move, play, next, ?_⟩
    cases move with
    | begin =>
      simp only [Option.some.injEq, Prod.mk.injEq] at h
      obtain ⟨rfl, rfl, rfl, rfl⟩ := h
      exact ⟨rfl, .inl ⟨(Surroundings.Extends.note s _ _).trans (.call _ _), rfl, rfl⟩⟩
    | finish =>
      simp only [Option.some.injEq, Prod.mk.injEq] at h
      obtain ⟨rfl, rfl, rfl, rfl⟩ := h
      exact ⟨rfl, .inl ⟨(Surroundings.Extends.call s _).trans (.note _ _ _), rfl, rfl⟩⟩
    | pass =>
      simp only [Option.some.injEq, Prod.mk.injEq] at h
      obtain ⟨rfl, rfl, rfl, rfl⟩ := h
      exact ⟨rfl, .inl ⟨.refl s, rfl, rfl⟩⟩
    | act a =>
      simp only [Option.some.injEq, Prod.mk.injEq] at h
      obtain ⟨rfl, rfl, rfl, rfl⟩ := h
      exact ⟨rfl, .inr ⟨a, rfl⟩⟩

/-- **One fact per step.** An informer goes on with its performance,
and all it does besides is its work. -/
theorem InformerTask.step?_facts {told : Bool} {s s' : Surroundings} {c c' : Cache}
    {t t' : InformerTask} (h : t.step? s c = some (told, s', c', t')) :
    t.Works s c told s' c' ∧
      ∃ move play, t.play.next? s.now (s.isCancelled t.stop) = some (move, play) ∧
        t' = { t with play := play } := by
  obtain ⟨move, play, next, task, ⟨more, rfl, rfl⟩ | ⟨a, performed⟩⟩ := step?_cases h
  · exact ⟨.of_surroundings t more c', move, play, next, task⟩
  · have works := t.works_perform s c a
    rw [performed] at works
    exact ⟨works, move, play, next, task⟩

/-- Whether an informer can go on hangs on its performance alone. -/
theorem InformerTask.isSome_step? (s : Surroundings) (c : Cache) (t : InformerTask) :
    (t.step? s c).isSome = (t.play.next? s.now (s.isCancelled t.stop)).isSome := by
  unfold step?
  split
  · next stuck => simp [stuck]
  · next move play next =>
    rw [next]
    cases move <;> rfl

/-- Every step of an informer leaves it less to do, and its performance sane. -/
theorem InformerTask.work_of_next? {t : InformerTask} (sane : t.play.Sane) {now : Nat}
    {down : Bool} {move : Move FeedAction} {play : Performance FeedAction}
    (next : t.play.next? now down = some (move, play)) :
    play.Sane ∧ InformerTask.work { t with play := play } < t.work := by
  have stepped := Performance.stepped_of_next? next
  have used := Performance.work_of_stepped (fun _ => 1) sane stepped
  have cost : 1 ≤ move.cost fun _ => 1 := by cases move <;> exact Nat.le_refl 1
  refine ⟨sane.stepped stepped, ?_⟩
  simp only [InformerTask.work]
  omega

end SchedulerHost.Host
