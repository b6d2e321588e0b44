import SchedulerHost.Host.Scheduler.Construction
import SchedulerHost.Proofs.Tasks.Recording

/-!
# What is constructed

The state of a scheduler that has just been put together.

* `construct_eq_ok` and `registerAll_cons_eq_ok`: how it has been put together.
* `Fresh`: nothing is launched, every driver has its feed in the gate, and no feed is synced.
* **Construction** (`fresh_of_construct`): what is constructed is fresh.
-/

namespace SchedulerHost.Host

open Feed (FeedId Gate GateFault)

/-- The informers of a row get their feeds one after the other. -/
theorem registerAll_cons_eq_ok {s s' : Surroundings} {c c' : Cache} {informer : Informer}
    {rest : List Informer} {drivers : List Driver}
    (h : registerAll s c (informer :: rest) = (s', .ok (drivers, c'))) :
    ∃ id s₁ c₁ others, registerFeed s c informer.feed = .ok (id, s₁, c₁) ∧
      registerAll s₁ c₁ rest = (s', .ok (others, c')) ∧ drivers = ⟨informer, id⟩ :: others := by
  simp only [registerAll, Driver.register] at h
  cases taken : registerFeed s c informer.feed with
  | error fault => simp [taken] at h
  | ok registered =>
    obtain ⟨id, s₁, c₁⟩ := registered
    cases later : registerAll s₁ c₁ rest with
    | mk s₂ result =>
      cases result with
      | error fault => simp [taken, later, Except.map] at h
      | ok registered =>
        obtain ⟨others, c₂⟩ := registered
        simp only [taken, later, Except.map, Prod.mk.injEq, Except.ok.injEq] at h
        obtain ⟨rfl, rfl, rfl⟩ := h
        exact ⟨id, s₁, c₁, others, rfl, later, rfl⟩

/-- What the registration of a row of informers comes to. -/
theorem registerAll_facts {s s' : Surroundings} {c c' : Cache} {informers : List Informer}
    {drivers : List Driver} (h : registerAll s c informers = (s', .ok (drivers, c'))) :
    c.gate.Grows c'.gate ∧ drivers.map (·.informer) = informers ∧
      (∀ d ∈ drivers, c'.gate.Binds d.informer.feed d.store) ∧
      ((∀ feed, c.gate.state? feed ≠ some .synced) →
        ∀ feed, c'.gate.state? feed ≠ some .synced) := by
  induction informers generalizing s c drivers with
  | nil =>
    simp only [registerAll, Prod.mk.injEq, Except.ok.injEq] at h
    obtain ⟨-, rfl, rfl⟩ := h
    exact ⟨.refl _, rfl, fun d there => (List.not_mem_nil there).elim, id⟩
  | cons informer rest ih =>
    obtain ⟨id, s₁, c₁, others, taken, later, rfl⟩ := registerAll_cons_eq_ok h
    obtain ⟨accepted, -, -, -⟩ := registerFeed_eq_ok taken
    obtain ⟨grows, informers', binds, unsynced⟩ := ih later
    refine ⟨(Gate.grows_register accepted).trans grows, ?_, ?_, ?_⟩
    · rw [List.map_cons, informers']
    · intro d there
      rcases List.mem_cons.1 there with rfl | behind
      · exact (Gate.binds_of_register accepted).grows grows
      · exact binds d behind
    · intro none
      apply unsynced
      intro feed synced
      rw [state?_register accepted] at synced
      by_cases same : informer.feed = feed
      · simp [same] at synced
      · rw [if_neg same] at synced
        exact none feed synced

namespace Scheduler

/-- A scheduler of which nothing has been asked. -/
structure Fresh (w : Scheduler) : Prop where
  core : w.core = none
  informers : w.informers = []
  run : w.run = .idle
  started : w.started = false
  outstanding : w.outstanding = []
  line : w.line = .empty
  binds : ∀ d ∈ w.drivers, w.cache.gate.Binds d.informer.feed d.store
  unsynced (feed : FeedId) : w.cache.gate.state? feed ≠ some .synced
  backend (b : Broadcaster) : w.backend = .structured b → b.recording = none ∧ b.Sane
  allInformers : w.drivers.map (·.informer) = w.parts.allInformers

/-- A broadcaster that has been chosen is as good as new. -/
theorem sane_of_resolve {s s' : Surroundings} {client : Client} {selection : Event.Selection}
    {sink : Option Sink} {b : Broadcaster}
    (h : Backend.resolve s client selection sink = (s', .structured b)) :
    b.recording = none ∧ b.Sane := by
  have room : 0 < Event.Channel.roundedCapacity Broadcaster.defaultCapacity :=
    Event.Channel.roundedCapacity_pos _
  unfold Backend.resolve at h
  split at h
  · simp only [Prod.mk.injEq, Backend.structured.injEq] at h
    rw [← h.2]
    exact ⟨rfl, Nat.one_pos, room⟩
  · simp at h
  · simp at h

/-- The recorder of the core is one more sender. -/
theorem sane_of_newRecorder {s s' : Surroundings} {client : Client} {selection : Event.Selection}
    {sink : Option Sink} {backend : Backend} {s'' : Surroundings} {component : String}
    {b : Broadcaster} (h : Backend.resolve s client selection sink = (s', backend))
    (made : (backend.newRecorder s'' component).2 = .structured b) :
    b.recording = none ∧ b.Sane := by
  cases backend with
  | legacy => simp [Backend.newRecorder] at made
  | structured b' =>
    obtain ⟨unrecorded, sane⟩ := sane_of_resolve h
    simp only [Backend.newRecorder, Backend.structured.injEq] at made
    rw [← made]
    exact ⟨unrecorded, Nat.succ_pos _, sane.capacity⟩

/-- How a scheduler has been constructed: its backend was chosen, every informer got its feed, and
the builder, which was asked last, did not refuse. -/
theorem construct_eq_ok {s s' : Surroundings} {assembly : Assembly} {builder : Builder}
    {w : Scheduler} (built : construct s assembly builder = (s', .ok w)) :
    ∃ parts s₁ backend s₂ drivers cache request s₃ backend',
      Backend.resolve s parts.client parts.selection parts.eventSink = (s₁, backend) ∧
      registerAll s₁ .empty parts.allInformers = (s₂, .ok (drivers, cache)) ∧
      backend.newRecorder (s₂.call (.build request)) builder.component = (s₃, backend') ∧
      w = idle (s₃.note .outside
          (.constructed parts.component.profiles.length drivers.length backend'.kind))
        parts builder cache backend' drivers := by
  unfold construct at built
  split at built
  · simp at built
  · next parts complete =>
    cases resolved : Backend.resolve s parts.client parts.selection parts.eventSink with
    | mk s₁ backend =>
      simp only [resolved] at built
      split at built
      · simp at built
      · next s₂ drivers cache registered =>
        unfold build at built
        dsimp only at built
        split at built
        · simp at built
        · simp only [Prod.mk.injEq, Except.ok.injEq] at built
          exact ⟨parts, s₁, backend, s₂, drivers, cache, _, _, _, resolved, registered, rfl,
            built.2.symm⟩

/-- **Construction.** What is constructed is fresh. -/
theorem fresh_of_construct {s s' : Surroundings} {assembly : Assembly} {builder : Builder}
    {w : Scheduler} (built : construct s assembly builder = (s', .ok w)) : Fresh w := by
  obtain ⟨parts, s₁, backend, s₂, drivers, cache, request, s₃, backend', resolved, registered,
    recorder, rfl⟩ := construct_eq_ok built
  obtain ⟨-, informers, binds, unsynced⟩ := registerAll_facts registered
  refine ⟨rfl, rfl, rfl, rfl, rfl, rfl, binds, unsynced ?_, ?_, informers⟩
  · intro feed
    simp [Cache.empty, Gate.empty, Gate.state?]
  · intro b structured
    exact sane_of_newRecorder resolved ((congrArg Prod.snd recorder).trans structured)

end Scheduler

end SchedulerHost.Host
