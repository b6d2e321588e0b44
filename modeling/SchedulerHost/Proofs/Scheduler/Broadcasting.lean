import SchedulerHost.Proofs.Scheduler.Remarks

/-!
# What the backends get

What one thing that happens to a scheduler tells its backend.

* **Legacy** (`Voices.legacy`): each remark is passed on at once, and the sink gets nothing.
* **Structured** (`Voices.airs`): from the first turn of the first run until the shutdown there is
  someone to take the events, so that every remark goes on the books.
-/

namespace SchedulerHost

/-- Who makes a remark, and what it says: what an event keeps of it. -/
def Event.content (e : Event) : String × Event.Remark := (e.controller, e.remark)

namespace Host

open Surroundings (Enters Tells tells_note tells_call)

def Utterance.content (u : Utterance) : String × Event.Remark := (u.component, u.remark)

/-- What is entered when a legacy recorder passes a remark on. -/
def Utterance.legacyEntry (u : Utterance) : Entry :=
  ⟨u.time, .call (.legacyEvent u.component u.remark.regarding u.remark.kind u.remark.reason
    u.remark.note)⟩

/-! ### Readers -/

namespace Entry

def legacyEvent? (e : Entry) : Option Entry :=
  match e.what with
  | .call (.legacyEvent _ _ _ _ _) => some e
  | _ => none

/-- Reads all that is asked of the legacy broadcaster. -/
def legacyCall? (e : Entry) : Option Entry :=
  match e.what with
  | .call (.legacyRecorder _) | .call (.legacyEvent _ _ _ _ _) => some e
  | _ => none

def sinkCall? (e : Entry) : Option Entry :=
  match e.what with
  | .call (.sinkAccept _ _) | .call (.sinkRefuse _) => some e
  | _ => none

/-- Reads which events are dropped since there is nobody to take them. -/
def dropped? (e : Entry) : Option Entry :=
  match e.what with
  | .notice _ (.eventDropped _) => some e
  | _ => none

variable {e : Entry}

theorem legacyEvent?_eq_none (h : e.topic ≠ .events) : e.legacyEvent? = none := by
  unfold legacyEvent?
  split
  · next same => simp [topic, same] at h
  · rfl

theorem legacyCall?_eq_none (h : e.topic ≠ .events) : e.legacyCall? = none := by
  unfold legacyCall?
  split
  · next same => simp [topic, same] at h
  · next same => simp [topic, same] at h
  · rfl

theorem sinkCall?_eq_none (h : e.topic ≠ .events) : e.sinkCall? = none := by
  unfold sinkCall?
  split
  · next same => simp [topic, same] at h
  · next same => simp [topic, same] at h
  · rfl

theorem dropped?_eq_none (h : e.topic ≠ .events) : e.dropped? = none := by
  unfold dropped?
  split
  · next same => simp [topic, same] at h
  · rfl

theorem taken?_eq_none (h : e.topic ≠ .events) : e.taken? = none := by
  unfold taken?
  split
  · next same => simp [topic, same] at h
  · next same => simp [topic, same] at h
  · next same => simp [topic, same] at h
  · rfl

end Entry

theorem ne_events_of_plain {topic : Topic} (plain : topic = .plain) : topic ≠ .events := by
  rw [plain]
  exact nofun

theorem Backend.eq_legacy_of_kind {b : Backend} (h : b.kind = .legacy) : b = .legacy := by
  cases b with
  | legacy => rfl
  | structured b => contradiction

theorem Backend.exists_of_kind {b : Backend} (h : b.kind = .structured) :
    ∃ b', b = .structured b' := by
  cases b with
  | legacy => contradiction
  | structured b => exact ⟨b, rfl⟩

theorem Backend.Alike.kind {b b' : Backend} (h : b.Alike b') : b'.kind = b.kind := by
  cases b <;> cases b' <;> first | rfl | exact h.elim

/-- The recording asks nothing of the legacy broadcaster, and drops nothing. -/
theorem Broadcaster.Stepped.tells {s s' : Surroundings} {b b' : Broadcaster} {r : Recording}
    (h : b.Stepped s r s' b') :
    Tells Entry.legacyCall? [] s s' ∧ Tells Entry.dropped? [] s s' := by
  cases h with
  | putAway => exact ⟨.refl _ s, .refl _ s⟩
  | begins => exact ⟨tells_note _ s _ _, tells_note _ s _ _⟩
  | stops => exact ⟨tells_note _ s _ _, tells_note _ s _ _⟩
  | lags => exact ⟨tells_note _ s _ _, tells_note _ s _ _⟩
  | takes => exact ⟨.refl _ s, .refl _ s⟩
  | runsDry => exact ⟨tells_note _ s _ _, tells_note _ s _ _⟩
  | delivers =>
    unfold deliver
    split
    · exact ⟨(tells_call _ s _).trans (tells_note _ _ _ _),
        (tells_call _ s _).trans (tells_note _ _ _ _)⟩
    · exact ⟨tells_call _ s _, tells_call _ s _⟩

namespace Scheduler

variable {w w' : Scheduler} {said : List Utterance}

/-! ### The legacy backend -/

/-- Which backend it is does not change in a turn. -/
theorem kind_of_turn (turn : w.pollRun? = some w') : w'.backend.kind = w.backend.kind := by
  obtain ⟨ctx, phase, -, ⟨-, -, turned⟩ | ⟨-, turned⟩⟩ := turned_of_pollRun? turn
  · obtain ⟨s, c, b, first, l, recorded, -, same⟩ := w.exists_launchAll
    rw [turned.backend.1, same]
    cases recorded with
    | starts structured =>
      rw [structured]
      rfl
    | leaves => rfl
  · rw [turned.backend.1]

/-- **Legacy.** A legacy recorder passes each remark on at once, and the sink gets nothing. -/
theorem Voices.legacy (voices : Voices w said w') (legacy : w.backend = .legacy) :
    w'.backend = .legacy ∧
      Tells Entry.legacyEvent? (said.map (·.legacyEntry)) w.surroundings w'.surroundings ∧
      Tells Entry.sinkCall? [] w.surroundings w'.surroundings := by
  cases voices with
  | quiet aside alike unheard =>
    have kind := alike.kind
    rw [legacy] at kind
    exact ⟨Backend.eq_legacy_of_kind kind, unheard.tells fun e => Entry.legacyEvent?_eq_none,
      unheard.tells fun e => Entry.sinkCall?_eq_none⟩
  | begun ctx => exact ⟨legacy, .refl _ _, .refl _ _⟩
  | turn turn =>
    have plain := entersPlain_pollRun? turn
    have kind := kind_of_turn turn
    rw [legacy] at kind
    exact ⟨Backend.eq_legacy_of_kind kind,
      plain.tells fun e h => Entry.legacyEvent?_eq_none (ne_events_of_plain h),
      plain.tells fun e h => Entry.sinkCall?_eq_none (ne_events_of_plain h)⟩
  | recording aside structured =>
    rw [legacy] at structured
    contradiction
  | remark aside scope component remark ready surroundings backend =>
    rw [legacy] at surroundings backend
    rw [surroundings]
    rcases ready with rfl | ⟨-, rfl⟩
    · exact ⟨backend, tells_call _ w.surroundings _, tells_call _ w.surroundings _⟩
    · exact ⟨backend, (tells_call _ w.surroundings _).trans (tells_call _ _ _),
        (tells_call _ w.surroundings _).trans (tells_call _ _ _)⟩

/-! ### The structured backend -/

/-- What was said until now, when more has been: nothing of it goes on the books before the
recording has been started, and then all of it. -/
inductive Grown : List Utterance → Option (List Event) → Option (List Event) → Prop
  | unheard (said : List Utterance) : Grown said none none
  | begins {said later : List Utterance} {events : List Event} (suffix : later <:+ said)
    (same : events.map (·.content) = later.map (·.content)) : Grown said none (some events)
  | grows {said : List Utterance} {before events : List Event}
    (same : events.map (·.content) = said.map (·.content)) :
    Grown said (some before) (some (before ++ events))

theorem Grown.refl (sent : Option (List Event)) : Grown [] sent sent := by
  cases sent with
  | none => exact .unheard []
  | some events =>
    have grown : Grown [] (some events) (some (events ++ [])) := .grows rfl
    rwa [List.append_nil] at grown

theorem Grown.trans {said more : List Utterance} {sent sent' sent'' : Option (List Event)}
    (first : Grown said sent sent') (last : Grown more sent' sent'') :
    Grown (said ++ more) sent sent'' := by
  cases first with
  | unheard =>
    cases last with
    | unheard => exact .unheard _
    | begins suffix same =>
      -- What was said first was said before the recording was started.
      exact .begins (suffix.trans (List.suffix_append _ _)) same
  | @begins later events suffix same =>
    cases last with
    | @grows _ events' same' =>
      obtain ⟨earlier, rfl⟩ := suffix
      have suffix : later ++ more <:+ earlier ++ later ++ more :=
        ⟨earlier, by rw [List.append_assoc]⟩
      refine .begins suffix ?_
      rw [List.map_append, List.map_append, same, same']
  | @grows before events same =>
    cases last with
    | @grows _ events' same' =>
      rw [List.append_assoc]
      refine .grows ?_
      rw [List.map_append, List.map_append, same, same']

end Scheduler

/-- A broadcaster on the air: there are senders, the books are kept, and the recording, once it is
started, goes on until the shutdown. -/
structure Broadcaster.Airs (s : Surroundings) (mark : Nat) (b : Broadcaster)
    (sent : Option (List Event)) : Prop where
  senders : 0 < b.senders
  ledger : b.Ledger defaultCapacity s mark sent
  stop (r : Recording) : b.recording = some r → r.stop = .shutdown
  going (r : Recording) : b.recording = some r → r.phase = .ended → s.isCancelled .shutdown = true

namespace Broadcaster.Airs

variable {s s' : Surroundings} {mark : Nat} {b b' : Broadcaster} {sent : Option (List Event)}

/-- Before the shutdown there is someone to take the events. -/
theorem hasListener {events : List Event} (h : b.Airs s mark (some events))
    (up : s.isCancelled .shutdown = false) : b.hasListener = true := by
  have started := h.ledger.started
  cases recording : b.recording with
  | none => simp [recording] at started
  | some r =>
    simp only [Broadcaster.hasListener, recording, ne_eq, decide_not, Bool.not_eq_true',
      decide_eq_false_iff_not]
    intro ended
    rw [h.going r recording ended] at up
    contradiction

theorem of_unrecorded (senders : 0 < b.senders) (ledger : b.Ledger defaultCapacity s mark sent)
    (unrecorded : b.recording = none) : b.Airs s mark sent := by
  refine ⟨senders, ledger, ?_, ?_⟩
  all_goals
    intro r there
    rw [unrecorded] at there
    contradiction

/-- Whatever else is entered, and whatever the sink becomes. -/
theorem of_tells (h : b.Airs s mark sent) (tells : Tells Entry.taken? [] s s')
    (cancelled : s.isCancelled .shutdown = true → s'.isCancelled .shutdown = true)
    (channel : b'.channel = b.channel) (recording : b'.recording = b.recording)
    (senders : 0 < b'.senders) : b'.Airs s' mark sent where
  senders := senders
  ledger := h.ledger.of_tells tells channel recording
  stop := by rw [recording]; exact h.stop
  going r there ended := cancelled (h.going r (recording ▸ there) ended)

/-- The recording is started with the token of the shutdown. -/
theorem starts (h : b.Airs s mark none) :
    Airs s mark { b with recording := some ⟨.shutdown, .fresh, false⟩ } (some []) where
  senders := h.senders
  ledger := h.ledger.starts .shutdown
  stop r there := by cases there; rfl
  going r there ended := by cases there; contradiction

/-- The recording ends only at the shutdown. -/
theorem stepped {r : Recording} (h : b.Airs s mark sent) (recording : b.recording = some r)
    (step : Stepped s b r s' b') : b'.Airs s' mark sent := by
  have same := step.extends.isCancelled .shutdown
  obtain ⟨phase, recording'⟩ := step.recording recording
  refine ⟨?_, h.ledger.stepped recording step, ?_, ?_⟩
  · have sane : b.Sane := ⟨h.senders, h.ledger.room⟩
    exact (sane.stepped step).senders
  · intro r' there
    rw [recording'] at there
    cases there
    exact h.stop r recording
  · -- Only the token ends the recording, since there is always someone who can send.
    intro r' there ended
    rw [same]
    cases step with
    | putAway going aborted =>
      rw [h.ledger.kept r recording] at aborted
      contradiction
    | begins =>
      cases there
      contradiction
    | stops waiting kept down =>
      rw [← h.stop r recording]
      exact down
    | lags waiting =>
      rw [recording] at there
      cases there
      rw [waiting] at ended
      contradiction
    | takes =>
      cases there
      contradiction
    | runsDry waiting kept alone =>
      have := h.senders
      omega
    | delivers =>
      unfold deliver at there
      split at there <;> cases there <;> contradiction

/-- What is sent goes on the books, and is not dropped while there is someone to take it. -/
theorem sends (h : b.Airs s mark sent) (scope : Scope) (component : String)
    (remark : Event.Remark) :
    (b.send s scope component remark).2.Airs (b.send s scope component remark).1 mark
        (sent.map (· ++ [.of s.stamp component remark])) ∧
      Tells Entry.legacyCall? [] s (b.send s scope component remark).1 ∧
      (sent.isSome = true → s.isCancelled .shutdown = false →
        Tells Entry.dropped? [] s (b.send s scope component remark).1) := by
  have ledger := h.ledger.sends scope component remark
  by_cases listening : b.hasListener = true
  · rw [send, if_pos listening] at ledger ⊢
    exact ⟨⟨h.senders, ledger, h.stop, h.going⟩, .refl _ s, fun _ _ => .refl _ s⟩
  · rw [send, if_neg listening] at ledger ⊢
    refine ⟨⟨h.senders, ledger, h.stop, h.going⟩, tells_note _ s _ _, ?_⟩
    -- An event is dropped before the recording has been started, or after the shutdown.
    intro started up
    obtain ⟨events, rfl⟩ := Option.isSome_iff_exists.1 started
    exact absurd (h.hasListener up) listening

end Broadcaster.Airs

namespace Scheduler

variable {w w' : Scheduler} {said : List Utterance} {mark : Nat} {sent : Option (List Event)}

/-- The scheduler has a structured backend and a sink, and is on the air from the first turn of its
first run on; no core is there before. -/
structure Airing (mark : Nat) (w : Scheduler) (sent : Option (List Event)) : Prop where
  aired : ∃ b, w.backend = .structured b ∧ b.Airs w.surroundings mark sent
  sink : w.parts.eventSink.isSome = true
  started : sent.isSome = w.started
  under (ctx : Token) (phase : RunPhase) : w.run = .going ctx phase →
    phase = .entered ∨ w.started = true
  core : w.core.isSome = true → w.started = true

/-- What is done aside of the run. -/
theorem Airing.of_aside {sent' : Option (List Event)} (h : Airing mark w sent) (aside : Aside w w')
    (aired : ∃ b, w'.backend = .structured b ∧ b.Airs w'.surroundings mark sent')
    (same : sent'.isSome = sent.isSome) : Airing mark w' sent' where
  aired := aired
  sink := by rw [aside.parts]; exact h.sink
  started := by rw [same, h.started, aside.started]
  under := by rw [aside.run, aside.started]; exact h.under
  core there := by
    have feeds := congrArg Option.isSome aside.feeds
    rw [Option.isSome_map, Option.isSome_map] at feeds
    rw [aside.started]
    exact h.core (feeds ▸ there)

/-- It does not matter what a run waits for once it has been started. -/
theorem Airing.of_started (aired : ∃ b, w.backend = .structured b ∧ b.Airs w.surroundings mark sent)
    (sink : w.parts.eventSink.isSome = true) (recorded : sent.isSome = true)
    (started : w.started = true) : Airing mark w sent :=
  ⟨aired, sink, recorded.trans started.symm, fun _ _ _ => .inr started, fun _ => started⟩

theorem backend_launchAll {b : Broadcaster} (structured : w.backend = .structured b)
    (unrecorded : b.recording = none) (sink : w.parts.eventSink.isSome = true) :
    w.launchAll.backend =
      .structured { b with recording := some ⟨.shutdown, .fresh, false⟩ } := by
  obtain ⟨c, l, -, launches⟩ := exists_launchInformers
    { w with started := true }.startRecording.drivers { w with started := true }.startRecording
  obtain ⟨sink, there⟩ := Option.isSome_iff_exists.1 sink
  have records : { w with started := true }.startRecording.backend =
      .structured { b with recording := some ⟨.shutdown, .fresh, false⟩ } := by
    simp [startRecording, structured, there, Broadcaster.start, Broadcaster.isRecording, unrecorded,
      launched]
  have same : w.launchAll.backend = ({ w with started := true }.startRecording.drivers.foldl
    launchInformer { w with started := true }.startRecording).backend := rfl
  rw [same, launches]
  exact records

/-- The first turn of a first run starts the recording, and no other turn touches the backend. -/
theorem Airing.turn (h : Airing mark w sent) (turn : w.pollRun? = some w') :
    ∃ sent', Airing mark w' sent' ∧ Grown [] sent sent' := by
  have plain := entersPlain_pollRun? turn
  obtain ⟨b, structured, airs⟩ := h.aired
  have tells : Tells Entry.taken? [] w.surroundings w'.surroundings :=
    plain.tells fun e there => Entry.taken?_eq_none (ne_events_of_plain there)
  have aside : w.isCancelled .shutdown = true → w'.isCancelled .shutdown = true := by
    obtain ⟨ctx, phase, -, -, rfl⟩ := exists_of_pollRun? turn
    intro down
    rw [(w.proceed_spec ctx phase).1.isCancelled]
    exact down
  obtain ⟨ctx, phase, going, ⟨-, fresh, turned⟩ | ⟨later, turned⟩⟩ := turned_of_pollRun? turn
  · -- The run launches everything, the recording among the rest.
    have unsent : sent = none := by
      have started := h.started
      rw [fresh] at started
      simpa using started
    subst unsent
    have unrecorded : b.recording = none := by simpa using airs.ledger.started
    have backend := backend_launchAll structured unrecorded h.sink
    have airs' : Broadcaster.Airs w'.surroundings mark
        { b with recording := some ⟨.shutdown, .fresh, false⟩ } (some []) :=
      airs.starts.of_tells tells aside rfl rfl airs.senders
    obtain ⟨s, c, b', first, l, -, -, same⟩ := w.exists_launchAll
    have parts : w.launchAll.parts = w.parts := by rw [same]
    have started : w.launchAll.started = true := by rw [same]
    refine ⟨some [], .of_started ⟨_, turned.backend.1.trans backend, airs'⟩ ?_ rfl
      (turned.informers.2.trans started), .begins List.nil_suffix rfl⟩
    rw [turned.backend.2, parts]
    exact h.sink
  · have started : w.started = true := (h.under ctx phase going).elim later id
    have airs' : b.Airs w'.surroundings mark sent := airs.of_tells tells aside rfl rfl airs.senders
    refine ⟨sent, .of_started ⟨b, turned.backend.1.trans structured, airs'⟩ ?_
      (h.started.trans started) (turned.informers.2.trans started), .refl sent⟩
    rw [turned.backend.2]
    exact h.sink

/-- **Structured.** Whatever is said goes on the books once the recording has been started, and is
not dropped before the shutdown. -/
theorem Voices.airs (voices : Voices w said w') (h : Airing mark w sent) :
    ∃ sent', Airing mark w' sent' ∧ Grown said sent sent' ∧
      (sent.isSome = true → w.isCancelled .shutdown = false →
        Tells Entry.dropped? [] w.surroundings w'.surroundings) := by
  obtain ⟨b, structured, airs⟩ := h.aired
  cases voices with
  | quiet aside alike unheard =>
    rw [structured] at alike
    cases kind : w'.backend with
    | legacy =>
      rw [kind] at alike
      exact alike.elim
    | structured b' =>
      rw [kind] at alike
      obtain ⟨channel, recording, senders⟩ := alike
      have airs' : b'.Airs w'.surroundings mark sent :=
        airs.of_tells (unheard.tells fun e => Entry.taken?_eq_none)
          (aside.gate.surroundings.cancelled .shutdown) channel recording
          (by rw [senders]; exact airs.senders)
      exact ⟨sent, h.of_aside aside ⟨b', kind, airs'⟩ rfl, .refl sent,
        fun _ _ => unheard.tells fun e => Entry.dropped?_eq_none⟩
  | begun ctx =>
    refine ⟨sent, ⟨h.aired, h.sink, h.started, ?_, h.core⟩, .refl sent, fun _ _ => .refl _ _⟩
    intro ctx' phase going
    cases going
    exact .inl rfl
  | turn turn =>
    obtain ⟨sent', later, grown⟩ := h.turn turn
    exact ⟨sent', later, grown, fun _ _ => (entersPlain_pollRun? turn).tells fun e there =>
      Entry.dropped?_eq_none (ne_events_of_plain there)⟩
  | recording aside structured' started stepped backend =>
    rw [structured] at structured'
    cases structured'
    exact ⟨sent, h.of_aside aside ⟨_, backend, airs.stepped started stepped⟩ rfl, .refl sent,
      fun _ _ => stepped.tells.2⟩
  | remark aside scope component remark ready surroundings backend =>
    rcases ready with rfl | ⟨legacy, -⟩
    · rw [structured] at surroundings backend
      obtain ⟨airs', -, heard⟩ := airs.sends scope component remark
      rw [surroundings]
      refine ⟨_, h.of_aside aside ⟨_, backend, by rw [surroundings]; exact airs'⟩ (by simp), ?_,
        heard⟩
      cases sent with
      | none => exact .unheard _
      | some events => exact .grows rfl
    · rw [structured] at legacy
      contradiction

end Scheduler

end Host

end SchedulerHost
