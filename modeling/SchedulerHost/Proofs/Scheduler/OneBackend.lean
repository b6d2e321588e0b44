import SchedulerHost.Proofs.Scheduler.Broadcasting
import SchedulerHost.Proofs.Scheduler.Construction

/-!
# One backend

The remarks that are made at a scheduler reach one of the two backends, and the other hears nothing.

* **Exclusion** (`Life.exclusive`): in its whole life the backend that a scheduler does not have
  gets nothing.
* **Spells** (`Spell.legacy`, `Spell.airs`): what the other gets while nobody but the run starts the
  recording, and no drain ends a task.
* **One backend** (`one_backend`) puts the two together, from the construction on.
-/

namespace SchedulerHost

namespace Host

open Surroundings (Enters Tells enters_note enters_call tells_note tells_call)

namespace Scheduler

variable {w w' : Scheduler} {said : List Utterance} {mark : Nat} {sent : Option (List Event)}

/-! ### The whole life -/

/-- A structured backend stays one, and nothing is asked of the legacy broadcaster. -/
theorem Voices.structured (voices : Voices w said w') (kind : w.backend.kind = .structured) :
    w'.backend.kind = .structured ∧
      Tells Entry.legacyCall? [] w.surroundings w'.surroundings := by
  cases voices with
  | quiet aside alike unheard =>
    exact ⟨alike.kind.trans kind, unheard.tells fun e => Entry.legacyCall?_eq_none⟩
  | begun ctx => exact ⟨kind, .refl _ _⟩
  | turn turn =>
    exact ⟨(kind_of_turn turn).trans kind, (entersPlain_pollRun? turn).tells fun e there =>
      Entry.legacyCall?_eq_none (ne_events_of_plain there)⟩
  | recording aside structured started stepped backend =>
    rw [backend]
    exact ⟨rfl, stepped.tells.1⟩
  | remark aside scope component remark ready surroundings backend =>
    obtain ⟨b, structured⟩ := Backend.exists_of_kind kind
    rcases ready with rfl | ⟨legacy, -⟩
    · rw [surroundings, backend, structured, Backend.emit]
      refine ⟨rfl, ?_⟩
      simp only [Broadcaster.send]
      split
      · exact .refl _ _
      · exact tells_note _ _ _ _
    · rw [structured] at legacy
      contradiction

/-- Neither backend becomes the other, and the one that is not there hears nothing. -/
structure Exclusive (w w' : Scheduler) : Prop where
  kind : w'.backend.kind = w.backend.kind
  sink : w.backend.kind = .legacy → Tells Entry.sinkCall? [] w.surroundings w'.surroundings
  legacy : w.backend.kind = .structured →
    Tells Entry.legacyCall? [] w.surroundings w'.surroundings

theorem Exclusive.of_plain (kind : w'.backend.kind = w.backend.kind) (plain : EntersPlain w w') :
    Exclusive w w' where
  kind := kind
  sink _ := plain.tells fun _ there => Entry.sinkCall?_eq_none (ne_events_of_plain there)
  legacy _ := plain.tells fun _ there => Entry.legacyCall?_eq_none (ne_events_of_plain there)

/-- Who touches the backend touches the one that is there. -/
theorem Voices.exclusive (voices : Voices w said w') : Exclusive w w' where
  kind := by
    cases kind : w.backend.kind with
    | legacy => rw [(voices.legacy (Backend.eq_legacy_of_kind kind)).1]; rfl
    | structured => exact (voices.structured kind).1
  sink kind := (voices.legacy (Backend.eq_legacy_of_kind kind)).2.2
  legacy kind := (voices.structured kind).2

theorem exclusive_startRecordingBy (w : Scheduler) (stop : Token) :
    Exclusive w (w.startRecordingBy stop).1 := by
  unfold startRecordingBy
  split
  · next b structured =>
    split
    · exact .of_plain (by rw [structured]; rfl) (.refl _ _)
    · exact .of_plain rfl (.refl _ _)
  · exact .of_plain rfl (.refl _ _)

theorem exclusive_settleTask (w : Scheduler) (task : Task) :
    Exclusive w (w.settleTask task).1 := by
  refine .of_plain ?_ (entersPlain_settleTask w task)
  unfold settleTask
  split
  · rfl
  · rfl
  · cases task with
    | informer i => rfl
    | core => rfl
    | recording =>
      simp only [abort, cutShort]
      split
      · next b structured =>
        rw [structured]
        rfl
      · rfl

/-- No step makes one backend of the other, or lets the absent one hear anything. -/
theorem Step.exclusive (step : Step w w') : Exclusive w w' := by
  rcases step.happens with ⟨said, happens⟩ | ⟨stop, rfl⟩ | ⟨task, rfl⟩
  · exact (voices_of_happens happens).exclusive
  · exact exclusive_startRecordingBy w stop
  · exact exclusive_settleTask w task

/-- The backend that was chosen is the only one for life. -/
theorem Life.exclusive (life : Life w w') : Exclusive w w' := by
  induction life with
  | refl => exact .of_plain rfl (.refl _ _)
  | tail _ step ih =>
    have later := step.exclusive
    exact ⟨later.kind.trans ih.kind,
      fun kind => (ih.sink kind).silent (later.sink (ih.kind ▸ kind)),
      fun kind => (ih.legacy kind).silent (later.legacy (ih.kind ▸ kind))⟩

/-! ### Spells -/

theorem Spell.legacy (spell : Spell w said w') (legacy : w.backend = .legacy) :
    w'.backend = .legacy ∧
      Tells Entry.legacyEvent? (said.map (·.legacyEntry)) w.surroundings w'.surroundings := by
  induction spell with
  | refl => exact ⟨legacy, .refl _ _⟩
  | tail _ happens ih =>
    obtain ⟨later, told, -⟩ := (voices_of_happens happens).legacy ih.1
    rw [List.map_append]
    exact ⟨later, ih.2.trans told⟩

theorem Happens.isCancelled (happens : Happens w said w') {token : Token}
    (cancelled : w.isCancelled token = true) : w'.isCancelled token = true := by
  cases voices_of_happens happens with
  | quiet aside => exact aside.isCancelled cancelled
  | begun ctx => exact cancelled
  | turn turn =>
    obtain ⟨ctx, phase, -, -, rfl⟩ := exists_of_pollRun? turn
    rw [(w.proceed_spec ctx phase).1.isCancelled]
    exact cancelled
  | recording aside => exact aside.isCancelled cancelled
  | remark aside => exact aside.isCancelled cancelled

/-- Until the shutdown the structured backend gets what is said, and nothing of it is dropped. -/
theorem Spell.airs (spell : Spell w said w') (h : Airing mark w sent) :
    ∃ sent', Airing mark w' sent' ∧ Grown said sent sent' ∧
      (sent.isSome = true → w'.isCancelled .shutdown = false →
        Tells Entry.dropped? [] w.surroundings w'.surroundings) := by
  induction spell with
  | refl => exact ⟨sent, h, .refl sent, fun _ _ => .refl _ _⟩
  | @tail said more u v _ happens ih =>
    obtain ⟨sent', airing, grown, heard⟩ := ih
    obtain ⟨sent'', airing', grown', heard'⟩ := (voices_of_happens happens).airs airing
    refine ⟨sent'', airing', grown.trans grown', ?_⟩
    intro started up
    have up' : u.isCancelled .shutdown = false := by
      cases down : u.isCancelled .shutdown with
      | false => rfl
      | true =>
        rw [happens.isCancelled down] at up
        contradiction
    have started' : sent'.isSome = true := by
      cases grown with
      | unheard => contradiction
      | begins => rfl
      | grows => rfl
    exact (heard started up').silent (heard' started' up')

/-! ### Construction -/

theorem enters_registerAll {s s' : Surroundings} {c c' : Cache} {informers : List Informer}
    {drivers : List Driver} (h : registerAll s c informers = (s', .ok (drivers, c'))) :
    Enters (· = .plain) s s' := by
  induction informers generalizing s c drivers with
  | nil =>
    simp only [registerAll, Prod.mk.injEq] at h
    rw [← h.1]
    exact .refl _ s
  | cons informer rest ih =>
    obtain ⟨id, s₁, c₁, others, taken, later, rfl⟩ := registerAll_cons_eq_ok h
    obtain ⟨-, -, -, rfl⟩ := registerFeed_eq_ok taken
    exact (enters_note (p := (· = .plain)) s _ _ rfl).trans (ih later)

/-- To choose a backend enters nothing about events. -/
theorem enters_resolve (s : Surroundings) (client : Client) (selection : Event.Selection)
    (sink : Option Sink) :
    Enters (· = .plain) s (Backend.resolve s client selection sink).1 := by
  have served : Enters (· = .plain) s (Backend.isServed s client selection).1 := by
    unfold Backend.isServed
    split
    · exact .refl _ s
    · exact .refl _ s
    · have asked : Enters (· = .plain) s (s.call (.probe selection.groupVersion)) :=
        enters_call s _ rfl
      have probed : Enters (· = .plain) s { s.call (.probe selection.groupVersion) with
          now := (s.call (.probe selection.groupVersion)).now + client.delay } :=
        asked.trans (.of_journal rfl)
      unfold Backend.probe
      dsimp only
      split
      · exact probed.trans (enters_note _ _ _ rfl)
      · exact probed.trans (enters_note _ _ _ rfl)
  unfold Backend.resolve
  split
  · next same =>
    rw [same] at served
    exact served.trans (enters_note _ _ _ rfl)
  · next same =>
    rw [same] at served
    exact served.trans (enters_note _ _ _ rfl)
  · next same =>
    rw [same] at served
    exact served.trans (enters_note _ _ _ rfl)

/-- There is a structured backend only where there is a sink. -/
theorem resolve_cases {s s' : Surroundings} {client : Client} {selection : Event.Selection}
    {sink : Option Sink} {backend : Backend}
    (h : Backend.resolve s client selection sink = (s', backend)) :
    backend = .legacy ∨ ∃ there, sink = some there ∧
      backend = .structured (.new there Broadcaster.defaultCapacity) := by
  unfold Backend.resolve at h
  split at h
  · next there _ =>
    cases h
    exact .inr ⟨there, rfl, rfl⟩
  · cases h
    exact .inl rfl
  · cases h
    exact .inl rfl

/-- A scheduler is constructed with one of the two backends, and the other has heard nothing. -/
theorem backend_of_construct {s s' : Surroundings} {assembly : Assembly} {builder : Builder}
    {w₀ : Scheduler} (built : construct s assembly builder = (s', .ok w₀)) :
    (w₀.backend = .legacy ∧ Tells Entry.sinkCall? [] s w₀.surroundings) ∨
      (Airing s.journal.length w₀ none ∧ Tells Entry.legacyCall? [] s w₀.surroundings) := by
  obtain ⟨parts, s₁, backend, s₂, drivers, cache, request, s₃, backend', resolved, registered,
    recorder, rfl⟩ := construct_eq_ok built
  have resolves := enters_resolve s parts.client parts.selection parts.eventSink
  rw [resolved] at resolves
  have plain := resolves.trans (enters_registerAll registered)
  have asks := plain.trans (enters_call s₂ (.build request) rfl)
  rcases resolve_cases resolved with rfl | ⟨sink, there, rfl⟩
  · left
    cases recorder
    have silent := asks.tells fun _ h => Entry.sinkCall?_eq_none (ne_events_of_plain h)
    exact ⟨rfl, silent.silent ((tells_call _ _ _).silent (tells_note _ _ _ _))⟩
  · right
    cases recorder
    have noted := asks.trans (enters_note _ .outside
      (.constructed parts.component.profiles.length drivers.length .structured) rfl)
    have tells := noted.tells fun _ h => Entry.taken?_eq_none (ne_events_of_plain h)
    have legacy := noted.tells fun _ h => Entry.legacyCall?_eq_none (ne_events_of_plain h)
    -- The recorder of the core is one more sender.
    let b := { Broadcaster.new sink Broadcaster.defaultCapacity with senders := 2 }
    have ledger : b.Ledger Broadcaster.defaultCapacity _ _ none :=
      (Broadcaster.ledger_new s sink _).of_tells tells rfl rfl
    have airs : b.Airs _ _ none := .of_unrecorded Nat.two_pos ledger rfl
    exact ⟨⟨⟨b, rfl, airs⟩, by simp [idle, there], rfl, nofun, nofun⟩, legacy⟩

/-! ### One backend -/

/-- The events that have been passed to the sink, since the journal had a number of entries. -/
def passed (mark : Nat) (w : Scheduler) : List Event :=
  match w.backend with
  | .structured b => b.passed w.surroundings mark
  | .legacy => []

/-- The numbers of events that have been reported as lost since then. -/
def skipped (mark : Nat) (w : Scheduler) : List Nat :=
  match w.backend with
  | .structured b => b.skipped w.surroundings mark
  | .legacy => []

/-- The number of events that the recording has not been told of. -/
def untold (w : Scheduler) : Nat :=
  match w.backend with
  | .structured b => b.channel.outstanding
  | .legacy => 0

/-- What becomes of what is said by way of a structured backend between two moments, when `early`
has been said before the first of them. -/
structure Broadcasted (mark : Nat) (early : List Utterance) (u : Scheduler)
    (said : List Utterance) (w : Scheduler) : Prop where
  /-- There is someone to take the events. -/
  subscribed : ∃ r, w.recording? = some r ∧ r.phase ≠ .ended
  /-- None of them has been dropped for want of it. -/
  undropped : w.surroundings.read Entry.dropped? u.surroundings.journal.length = []
  /-- The sink gets what is said, in order and each remark once, with all it says. What it does not
  get is counted as lost, or the recording will still be told of it. -/
  account : ∃ heard, heard <:+ early ∧
    ((w.passed mark).map (·.content)).Sublist ((heard ++ said).map (·.content)) ∧
    (heard ++ said).length = (w.passed mark).length + (w.skipped mark).sum + w.untold
  /-- When the recording waits for an event, it has been told of all. -/
  told : ∀ r, w.recording? = some r → r.phase = .waiting → w.pollTask? .recording = none →
    w.untold = 0

theorem Airing.broadcasted {u : Scheduler} {early : List Utterance} {events : List Event}
    (airing : Airing mark u (some events)) (heard : Grown early none (some events))
    (spell : Spell u said w) (up : w.isCancelled .shutdown = false) :
    Broadcasted mark early u said w := by
  obtain ⟨sent, later, grown, undropped⟩ := spell.airs airing
  obtain ⟨b, structured, airs⟩ := later.aired
  have reads : w.recording? = b.recording := by
    rw [recording?, structured]
    rfl
  obtain ⟨pending, before, same⟩ : ∃ pending, pending <:+ early ∧
      events.map (·.content) = pending.map (·.content) := by
    cases heard with
    | begins before same => exact ⟨_, before, same⟩
  obtain ⟨more, rfl, same'⟩ : ∃ more, sent = some (events ++ more) ∧
      more.map (·.content) = said.map (·.content) := by
    cases grown with
    | grows same' => exact ⟨_, rfl, same'⟩
  have listening := airs.hasListener up
  -- On the books are those said between the start and the first of the moments, and all since.
  have contents : (events ++ more).map (·.content) = (pending ++ said).map (·.content) := by
    rw [List.map_append, List.map_append, same, same']
  constructor
  case subscribed =>
    obtain ⟨r, recording⟩ : ∃ r, b.recording = some r :=
      Option.isSome_iff_exists.1 airs.ledger.started
    refine ⟨r, reads.trans recording, ?_⟩
    simpa [Broadcaster.hasListener, recording] using listening
  case undropped =>
    rw [(undropped rfl up).read (Nat.le_refl _), Surroundings.read_length]
    rfl
  case account =>
    refine ⟨pending, before, ?_, ?_⟩
    · rw [passed, structured, ← contents]
      exact airs.ledger.ordered.map _
    · have all := airs.ledger.counted listening
      rw [passed, skipped, untold, structured]
      have lengths := congrArg List.length contents
      rw [List.length_map, List.length_map] at lengths
      rw [← lengths]
      exact all
  case told =>
    intro r recording waiting stuck
    rw [reads] at recording
    have nothing : b.step? w.surroundings = none := by
      simpa [pollTask?, structured, Backend.step?] using stuck
    rw [untold, structured]
    exact Broadcaster.outstanding_of_stuck recording waiting nothing

/-- **One backend.** In the life of a scheduler that has been constructed the backend it does not
have gets nothing. What is said from the launch of the core on is passed on by the legacy recorders
at once, or, until the shutdown, by the recording of events,
which loses none but those that it counts. -/
theorem one_backend {s s' : Surroundings} {assembly : Assembly} {builder : Builder}
    {w₀ : Scheduler} (built : construct s assembly builder = (s', .ok w₀)) :
    (∀ w, Life w₀ w →
      (w₀.backend.kind = .legacy → w.surroundings.read Entry.sinkCall? s.journal.length = []) ∧
      (w₀.backend.kind = .structured →
        w.surroundings.read Entry.legacyCall? s.journal.length = [])) ∧
    ∀ early u said w, Spell w₀ early u → u.core.isSome = true → Spell u said w →
      (w₀.backend.kind = .legacy →
        w.surroundings.read Entry.legacyEvent? u.surroundings.journal.length =
          said.map (·.legacyEntry)) ∧
      (w₀.backend.kind = .structured → w.isCancelled .shutdown = false →
        Broadcasted s.journal.length early u said w) := by
  have start {β : Type} (f : Entry → Option β) : s.read f s.journal.length = [] :=
    Surroundings.read_length f s
  constructor
  · intro w life
    have exclusive := life.exclusive
    rcases backend_of_construct built with ⟨legacy, silent⟩ | ⟨airing, silent⟩
    · refine ⟨fun kind => ?_, fun kind => ?_⟩
      · rw [(silent.silent (exclusive.sink kind)).read (Nat.le_refl _), start]
        rfl
      · rw [legacy] at kind
        contradiction
    · refine ⟨fun kind => ?_, fun kind => ?_⟩
      · obtain ⟨b, structured, -⟩ := airing.aired
        rw [structured] at kind
        contradiction
      · rw [(silent.silent (exclusive.legacy kind)).read (Nat.le_refl _), start]
        rfl
  · intro early u said w before launched spell
    rcases backend_of_construct built with ⟨legacy, -⟩ | ⟨airing, -⟩
    · refine ⟨fun _ => ?_, fun kind => ?_⟩
      · obtain ⟨-, told⟩ := spell.legacy (before.legacy legacy).1
        rw [told.read (Nat.le_refl _), Surroundings.read_length]
        rfl
      · rw [legacy] at kind
        contradiction
    · refine ⟨fun kind => ?_, fun _ up => ?_⟩
      · obtain ⟨b, structured, -⟩ := airing.aired
        rw [structured] at kind
        contradiction
      · obtain ⟨sent, airing', heard, -⟩ := before.airs airing
        -- The core is there, so the run has started the recording before.
        have started := airing'.started
        rw [airing'.core launched] at started
        obtain ⟨events, rfl⟩ := Option.isSome_iff_exists.1 started
        exact airing'.broadcasted heard spell up

/-! ### A scheduler with something to say -/

def scheduledRemark : Event.Remark :=
  ⟨⟨"Pod", "default", "web", ""⟩, none, .normal, "Scheduled", "Binding", ""⟩

/-- The small scheduler with a sink, and a core that makes one remark. -/
def vocal : Scheduler :=
  match (construct (.start ⟨"0", .epoch⟩) { smallAssembly with eventSink := some ⟨[], 0, 1⟩ }
    ⟨none, "scheduler", [.act (.event scheduledRemark)]⟩).2 with
  | .ok w => w
  | .error _ => small

/-- The same when its feed is synced and the report of its factory is due. -/
def vocalReady : Scheduler :=
  let w := ((vocal.beginRun (.context 0)).nudge .run).nudge (.task (.informer 0))
  Machine.setNow 2 (w.nudge (.task (.informer 0)))

/-- The same when its core has been launched. -/
def vocalLaunched : Scheduler :=
  Scheduler.awaitFeeds { vocalReady with
    cache := { vocalReady.cache with gate := vocalReady.cache.gate.beginWait } } (.context 0)

/-- The same when its core has made its remark. -/
def vocalHeard : Scheduler := (vocalLaunched.nudge (.task .core)).nudge (.task .core)

/-- The same when the sink has got the event. -/
def vocalDelivered : Scheduler :=
  ((vocalHeard.nudge (.task .recording)).nudge (.task .recording)).nudge (.task .recording)

/-- The run launches the core at the second millisecond. -/
theorem spell_vocalLaunched : Spell vocal [] vocalLaunched := by
  have begun : Spell vocal [] (vocal.beginRun (.context 0)) := .tail .refl (.begun (.context 0) rfl)
  have starts := (begun.nudge .run rfl).nudge (.task (.informer 0)) rfl
  have waits : Spell vocal [] vocalReady :=
    (starts.nudge (.task (.informer 0)) rfl).tail (.elapsed 2 (by decide))
  have goes : vocalReady.pollRun? = some (vocalReady.takeReport.awaitFeeds (.context 0)) := rfl
  have all : vocalReady.parts.informerFactory.report = [] := rfl
  rw [takeReport_of_synced (by simp [InformerFactory.unsynced, all])] at goes
  exact waits.tail (.polled .run goes)

/-- The core makes its remark, and the sink gets the event. -/
theorem spell_vocalDelivered :
    Spell vocalLaunched [⟨2, "scheduler", scheduledRemark⟩] vocalDelivered := by
  have speaks : (vocalLaunched.nudge (.task .core)).utterances (.task .core) =
      [⟨2, "scheduler", scheduledRemark⟩] := rfl
  have heard := (Spell.refl.nudge (.task .core) rfl).nudge (w := vocalLaunched.nudge (.task .core))
    (.task .core) rfl
  rw [speaks] at heard
  have begins := heard.nudge (.task .recording) rfl
  have takes := begins.nudge (.task .recording) rfl
  exact takes.nudge (.task .recording) rfl

/-- Its core is launched after two milliseconds, and the sink gets the remark that it makes. -/
theorem one_backend_vocal :
    vocalDelivered.passed 0 = [.of ⟨"0", .epoch⟩ "scheduler" scheduledRemark] ∧
    Broadcasted 0 [] vocalLaunched [⟨2, "scheduler", scheduledRemark⟩] vocalDelivered := by
  have built : construct (.start ⟨"0", .epoch⟩)
      { smallAssembly with eventSink := some ⟨[], 0, 1⟩ }
      ⟨none, "scheduler", [.act (.event scheduledRemark)]⟩ = (vocal.surroundings, .ok vocal) := rfl
  have said := (one_backend built).2 _ _ _ _ spell_vocalLaunched rfl spell_vocalDelivered
  exact ⟨by rfl, said.2 rfl rfl⟩

end Scheduler

end Host

end SchedulerHost
