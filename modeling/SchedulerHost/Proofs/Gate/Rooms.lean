import SchedulerHost.Proofs.Gate.Attending
import SchedulerHost.Proofs.Gate.Stores

/-!
# The dealings of a waiting room

Whatever is asked of a waiting room, and whoever goes on in it: what becomes of its cache is what
dealings make of it, and everyone in the room writes to the store that the registration of the feed
returned. So what holds behind the gate holds in a waiting room.

* `Deals`: what a step does to the cache and to those who have to do with it, one lemma per way to
  proceed.
* **The dealings of a room** (`Reachable.exists_dealings`).
-/

namespace SchedulerHost.Host.WaitingRoom

open Feed (FeedId)
open Cache (Handed ofDealings)

variable {r r' : WaitingRoom} {past more : List Dealing}

/-- Something is done in a room: the cache is dealt with, and those who are new in the room come
with the stores of their feeds. -/
structure Deals (r r' : WaitingRoom) (more : List Dealing) : Prop where
  cache : r'.cache = r.cache.after more
  writers (writer : FeedId × Nat) : writer ∈ r'.writers →
    writer ∈ r.writers ∨ r'.cache.gate.Binds writer.1 writer.2
  drivers (d : Driver) : d ∈ r'.drivers →
    d ∈ r.drivers ∨ r'.cache.gate.Binds d.informer.feed d.store
  informers (t : InformerTask) : t ∈ r'.informers →
    (∃ t₀ ∈ r.informers, t.feed = t₀.feed ∧ t.store = t₀.store) ∨
      ∃ d ∈ r.drivers, t.feed = d.informer.feed ∧ t.store = d.store
  snapshots (snapshot : List (FeedId × Nat)) : snapshot ∈ r'.snapshots →
    snapshot ∈ r.snapshots ∨ snapshot = r.cache.gate.snapshot

/-- The cache is dealt with by those who are in the room. -/
theorem Deals.of_cache (cache : r'.cache = r.cache.after more) (writers : r'.writers = r.writers)
    (drivers : r'.drivers = r.drivers) (informers : r'.informers = r.informers)
    (snapshots : r'.snapshots = r.snapshots) : Deals r r' more := by
  refine ⟨cache, ?_, ?_, ?_, ?_⟩
  · rw [writers]
    exact fun _ there => .inl there
  · rw [drivers]
    exact fun _ there => .inl there
  · rw [informers]
    exact fun t there => .inl ⟨t, there, rfl, rfl⟩
  · rw [snapshots]
    exact fun _ there => .inl there

theorem withCache_eq (r : WaitingRoom) (told : Bool) (c : Cache) :
    ∃ l, r.withCache told c = { r with cache := c, line := l } := by
  unfold withCache
  split
  · exact ⟨_, rfl⟩
  · exact ⟨_, rfl⟩

theorem Deals.of_withCache {told : Bool} {c : Cache} (cache : c = r.cache.after more) :
    Deals r (r.withCache told c) more := by
  obtain ⟨l, same⟩ := r.withCache_eq told c
  rw [same]
  exact .of_cache cache rfl rfl rfl rfl

/-! ### What is asked -/

/-- A registration that is not refused is a dealing. -/
theorem after_register {s s' : Surroundings} {c c' : Cache} {feed : FeedId} {id : Nat}
    (h : registerFeed s c feed = .ok (id, s', c')) :
    c' = c.after [.register feed] ∧ c'.gate.Binds feed id := by
  refine ⟨?_, Feed.Gate.binds_of_register (registerFeed_eq_ok h).1⟩
  unfold registerFeed at h
  split at h
  · contradiction
  · next number cache taken =>
    simp only [Except.ok.injEq, Prod.mk.injEq] at h
    obtain ⟨rfl, -, rfl⟩ := h
    simp only [Cache.after, List.foldl_cons, List.foldl_nil, Cache.does, taken]

theorem deals_register (r : WaitingRoom) (feed : FeedId) :
    ∃ more, Deals r (r.register feed).1 more := by
  unfold register
  split
  · exact ⟨[], .of_cache rfl rfl rfl rfl rfl⟩
  · next id s c taken =>
    obtain ⟨after, bound⟩ := after_register taken
    obtain ⟨l, same⟩ := r.withCache_eq true c
    simp only [same]
    refine ⟨[.register feed], after, ?_, fun _ there => .inl there,
      fun t there => .inl ⟨t, there, rfl, rfl⟩, fun _ there => .inl there⟩
    rintro writer there
    rw [List.mem_append, List.mem_singleton] at there
    rcases there with before | rfl
    · exact .inl before
    · exact .inr bound

theorem deals_drive (r : WaitingRoom) (informer : Informer) :
    ∃ more, Deals r (r.drive informer).1 more := by
  unfold drive Driver.register
  cases taken : registerFeed r.surroundings r.cache informer.feed with
  | error fault => exact ⟨[], .of_cache rfl rfl rfl rfl rfl⟩
  | ok registered =>
    obtain ⟨id, s, c⟩ := registered
    obtain ⟨after, bound⟩ := after_register taken
    obtain ⟨l, same⟩ := r.withCache_eq true c
    simp only [same]
    refine ⟨[.register informer.feed], after, fun _ there => .inl there, ?_,
      fun t there => .inl ⟨t, there, rfl, rfl⟩, fun _ there => .inl there⟩
    rintro d there
    rw [List.mem_append, List.mem_singleton] at there
    rcases there with before | rfl
    · exact .inl before
    · exact .inr bound

theorem deals_launch (r : WaitingRoom) (driver : Nat) (stop : Token) :
    ∃ more, Deals r (r.launch driver stop).1 more := by
  unfold launch
  split
  · exact ⟨[], .of_cache rfl rfl rfl rfl rfl⟩
  · next d found =>
    obtain ⟨l, same⟩ := r.withCache_eq (d.launch r.cache stop).2.1 (d.launch r.cache stop).2.2
    simp only [same]
    refine ⟨[.markRunning d.informer.feed], rfl, fun _ there => .inl there,
      fun _ there => .inl there, ?_, fun _ there => .inl there⟩
    intro t there
    rw [List.mem_append, List.mem_singleton] at there
    rcases there with before | rfl
    · exact .inl ⟨t, before, rfl, rfl⟩
    · exact .inr ⟨d, List.mem_of_getElem? found, rfl, rfl⟩

/-- What is asked is a dealing, or leaves the cache alone. -/
theorem deals_perform (r : WaitingRoom) (c : Command) (brief : c.isBrief = true) :
    ∃ more, Deals r (r.perform c).1 more := by
  have nothing : Deals r r [] := .of_cache rfl rfl rfl rfl rfl
  cases c with
  | register feed => exact r.deals_register feed
  | drive informer => exact r.deals_drive informer
  | launch driver stop => exact r.deals_launch driver stop
  | advance ms => contradiction
  | insert feed key object =>
    simp only [perform]
    cases r.writer? feed with
    | none => exact ⟨[], nothing⟩
    | some id => exact ⟨[.change id (.insert key object)], .of_cache rfl rfl rfl rfl rfl⟩
  | replace feed listing =>
    simp only [perform]
    cases r.writer? feed with
    | none => exact ⟨[], nothing⟩
    | some id => exact ⟨[.change id (.replace listing)], .of_cache rfl rfl rfl rfl rfl⟩
  | markRunning feed => exact ⟨[.markRunning feed], .of_withCache rfl⟩
  | markSynced feed =>
    have told : Deals r (r.withCache (reportSynced r.surroundings r.cache .outside feed).1
        (reportSynced r.surroundings r.cache .outside feed).2.2) [.markSynced feed] :=
      .of_withCache rfl
    exact ⟨[.markSynced feed], told.cache, told.writers, told.drivers, told.informers,
      told.snapshots⟩
  | snapshot =>
    refine ⟨[.syncedFeeds], rfl, fun _ there => .inl there, fun _ there => .inl there,
      fun t there => .inl ⟨t, there, rfl, rfl⟩, ?_⟩
    intro snapshot there
    rwa [perform, List.mem_append, List.mem_singleton] at there
  | wait token => exact ⟨[], .of_cache rfl rfl rfl rfl rfl⟩
  | cancel token => exact ⟨[], .of_cache rfl rfl rfl rfl rfl⟩
  | contents feed => exact ⟨[.store feed], .of_cache rfl rfl rfl rfl rfl⟩
  | isSynced => exact ⟨[], nothing⟩
  | state feed => exact ⟨[], nothing⟩
  | read snapshot feed => exact ⟨[], nothing⟩

/-! ### Who goes on -/

/-- An informer deals with the cache in its actions only. -/
theorem cache_of_step? {told : Bool} {s s' : Surroundings} {c c' : Cache} {t t' : InformerTask}
    (h : t.step? s c = some (told, s', c', t')) :
    (∃ more, c' = c.after more) ∧ t'.feed = t.feed ∧ t'.store = t.store := by
  obtain ⟨move, play, -, rfl, ⟨-, -, rfl⟩ | ⟨a, performed⟩⟩ := InformerTask.step?_cases h
  · exact ⟨⟨[], rfl⟩, rfl, rfl⟩
  · refine ⟨?_, rfl, rfl⟩
    obtain rfl : (t.perform s c a).2.2 = c' := by rw [performed]
    cases a with
    | insert key object => exact ⟨[.change t.store (.insert key object)], rfl⟩
    | remove key => exact ⟨[.change t.store (.remove key)], rfl⟩
    | replace listing => exact ⟨[.change t.store (.replace listing)], rfl⟩
    | sync => exact ⟨[.markSynced t.feed], rfl⟩

theorem deals_poll? {a : RoomAgent} (next : r.poll? a = some r') : ∃ more, Deals r r' more := by
  cases a with
  | informer i =>
    simp only [poll?] at next
    split at next
    · contradiction
    · next t found =>
      rw [Option.map_eq_some_iff] at next
      obtain ⟨⟨told, s, c, t'⟩, stepped, rfl⟩ := next
      obtain ⟨⟨more, after⟩, feed, store⟩ := cache_of_step? stepped
      obtain ⟨l, same⟩ := r.withCache_eq told c
      simp only [same]
      refine ⟨more, after, fun _ there => .inl there, fun _ there => .inl there, ?_,
        fun _ there => .inl there⟩
      intro t'' there
      rcases List.mem_or_eq_of_mem_set there with before | rfl
      · exact .inl ⟨t'', before, rfl, rfl⟩
      · exact .inl ⟨t, List.mem_of_getElem? found, feed, store⟩
  | wait i =>
    obtain ⟨w, g, w', -, stepped, rfl⟩ := exists_of_poll?_wait next
    rcases Wait.step?_cases stepped with ⟨-, rfl, -⟩ | ⟨-, rfl, -⟩
    · exact ⟨[.wait], .of_cache rfl rfl rfl rfl rfl⟩
    · exact ⟨[], .of_cache rfl rfl rfl rfl rfl⟩

theorem Deals.notify (h : Deals r r' more) (picked : RoomAgent → Bool) :
    Deals r (r'.notify picked) more :=
  ⟨h.cache, h.writers, h.drivers, h.informers, h.snapshots⟩

theorem deals_step (step : Step r r') : ∃ more, Deals r r' more := by
  obtain ⟨polled, move⟩ := step
  cases move with
  | asked c brief =>
    obtain ⟨more, deals⟩ := r.deals_perform c brief
    refine ⟨more, ?_⟩
    cases c with
    | wait token => exact deals.notify _
    | launch driver stop => exact deals.notify _
    | cancel token => exact deals.notify _
    | _ => exact deals
  | polled a woken next => exact deals_poll? next
  | lined l members woken => exact ⟨[], .of_cache rfl rfl rfl rfl rfl⟩
  | elapsed t later => exact ⟨[], .of_cache rfl rfl rfl rfl rfl⟩

/-! ### From the beginning -/

/-- Dealings tell what became of the cache of a room, and whoever writes in it got the
store from a registration. -/
structure Recounts (past : List Dealing) (r : WaitingRoom) : Prop where
  cache : r.cache = ofDealings past
  writers (writer : FeedId × Nat) : writer ∈ r.writers →
    r.cache.gate.Binds writer.1 writer.2
  drivers (d : Driver) : d ∈ r.drivers → r.cache.gate.Binds d.informer.feed d.store
  informers (t : InformerTask) : t ∈ r.informers → r.cache.gate.Binds t.feed t.store
  snapshots (snapshot : List (FeedId × Nat)) : snapshot ∈ r.snapshots →
    ∃ earlier rest, past = earlier ++ rest ∧ snapshot = (ofDealings earlier).gate.snapshot

theorem recounts_start (stamp : Event.Stamp) : Recounts [] (start stamp) :=
  ⟨rfl, by simp [start], by simp [start], by simp [start], by simp [start]⟩

theorem Recounts.deals (h : Recounts past r) (deals : Deals r r' more) :
    Recounts (past ++ more) r' := by
  have grows : r.cache.gate.Grows r'.cache.gate := by
    rw [deals.cache]
    exact r.cache.grows_after more
  constructor
  · rw [deals.cache, h.cache, Cache.ofDealings_append]
  · intro writer there
    rcases deals.writers writer there with before | bound
    · exact (h.writers writer before).grows grows
    · exact bound
  · intro d there
    rcases deals.drivers d there with before | bound
    · exact (h.drivers d before).grows grows
    · exact bound
  · intro t there
    rcases deals.informers t there with ⟨t₀, before, feed, store⟩ | ⟨d, before, feed, store⟩
    · rw [feed, store]
      exact (h.informers t₀ before).grows grows
    · rw [feed, store]
      exact (h.drivers d before).grows grows
  · intro snapshot there
    rcases deals.snapshots snapshot there with before | rfl
    · obtain ⟨earlier, rest, split, same⟩ := h.snapshots snapshot before
      exact ⟨earlier, rest ++ more, by rw [split, List.append_assoc], same⟩
    · exact ⟨past, more, rfl, by rw [h.cache]⟩

/-- **The dealings of a room.** What becomes of a room can be told as dealings with its cache:
whoever writes in the room, or is about to, has the store that the registration of the feed
returned, and every snapshot was taken on the way. -/
theorem Reachable.exists_dealings {stamp : Event.Stamp} (reached : Reachable stamp r) :
    ∃ past, r.cache = ofDealings past ∧
      (∀ feed id, (feed, id) ∈ r.writers → ∃ later, Handed past feed id later) ∧
      (∀ d ∈ r.drivers, ∃ later, Handed past d.informer.feed d.store later) ∧
      (∀ t ∈ r.informers, ∃ later, Handed past t.feed t.store later) ∧
      ∀ snapshot ∈ r.snapshots, ∃ earlier rest, past = earlier ++ rest ∧
        snapshot = (ofDealings earlier).gate.snapshot := by
  have recounted : ∃ past, Recounts past r := by
    induction reached with
    | refl => exact ⟨[], recounts_start stamp⟩
    | tail _ step ih =>
      obtain ⟨past, recounts⟩ := ih
      obtain ⟨more, deals⟩ := deals_step step
      exact ⟨past ++ more, recounts.deals deals⟩
  obtain ⟨past, h⟩ := recounted
  refine ⟨past, h.cache, ?_, ?_, ?_, h.snapshots⟩
  · exact fun feed id there => Cache.exists_handed (h.cache ▸ h.writers _ there)
  · exact fun d there => Cache.exists_handed (h.cache ▸ h.drivers d there)
  · exact fun t there => Cache.exists_handed (h.cache ▸ h.informers t there)

end SchedulerHost.Host.WaitingRoom
