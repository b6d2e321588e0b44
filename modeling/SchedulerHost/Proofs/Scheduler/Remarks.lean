import SchedulerHost.Proofs.Scheduler.Topics
import SchedulerHost.Proofs.Tasks.Delivering

/-!
# Remarks

The remarks that are made through the recorders of a scheduler, and what becomes of the backend
along with them, as long as nobody but the run starts the recording of events and no task is ended
by a drain.

* `Happens`: what happens, told along with the remarks that are made. `Spell`: any number of such
  things.
* **Voices** (`voices_of_happens`): the backend is touched by its recording, by a remark and by the
  run that starts the recording, and by nobody else; what happens without them is not heard of.
* Whatever happens to a scheduler is of this kind, but for two things (`Step.happens`).
-/

namespace SchedulerHost.Host

open Feed (FeedId)
open Surroundings (Enters enters_note enters_call)

structure Utterance where
  time : Nat
  component : String
  remark : Event.Remark

/-- The same backend, but that its sink may be another. -/
def Backend.Alike : Backend → Backend → Prop
  | .structured b, .structured b' =>
    b'.channel = b.channel ∧ b'.recording = b.recording ∧ b'.senders = b.senders
  | .legacy, .legacy => True
  | _, _ => False

/-- Sending does not depend on how many others can send. -/
theorem Broadcaster.send_senders (s : Surroundings) (scope : Scope) (b : Broadcaster)
    (controller : String) (remark : Event.Remark) (n : Nat) :
    send s scope { b with senders := n } controller remark =
      ((b.send s scope controller remark).1,
        { (b.send s scope controller remark).2 with senders := n }) := by
  have same : hasListener { b with senders := n } = b.hasListener := rfl
  rw [send, send, same]
  split <;> rfl

theorem Backend.Alike.refl (b : Backend) : b.Alike b := by
  cases b with
  | structured b => exact ⟨rfl, rfl, rfl⟩
  | legacy => trivial

theorem Backend.Alike.of_eq {b b' : Backend} (same : b' = b) : b.Alike b' := by
  rw [same]
  exact .refl b

namespace Scheduler

variable {w w' w'' : Scheduler} {said : List Utterance}

/-! ### Happenings -/

/-- The sink becomes another, which may refuse other events and take longer or shorter. -/
def sway (w : Scheduler) (sink : Sink) : Scheduler :=
  match w.backend with
  | .structured b => { w with backend := .structured { b with sink := sink } }
  | .legacy => w

/-- What an agent says in its next step: the core makes the remarks of its script. -/
def utterances (w : Scheduler) : Agent → List Utterance
  | .task .core =>
    match w.core with
    | none => []
    | some t =>
      match t.play.next? w.surroundings.now (w.isCancelled .shutdown) with
      | some (.act (.event remark), _) => [⟨w.surroundings.now, t.component, remark⟩]
      | _ => []
  | _ => []

/-- Something happens, along with the remarks that are made: someone takes a step, a remark is made
from outside, or something else is asked for; the run begins, time goes on, the gate and the stores
are used, and a drain begins or is over. Nobody but the run starts the recording, and no task is
ended from outside; the sink may do with each event what it likes. -/
inductive Happens (w : Scheduler) : List Utterance → Scheduler → Prop
  | polled {w' : Scheduler} (a : Agent) (next : w.poll? a = some w') :
    Happens w (w.utterances a) w'
  | recorded (component : String) (remark : Event.Remark) :
    Happens w [⟨w.surroundings.now, component, remark⟩] (w.record component remark)
  | asked (c : Command) (silent : c.isSilent = true) : Happens w [] (w.perform c).1
  | lined (l : Line Agent) : Happens w [] { w with line := l }
  | marked (feed : FeedId) :
    Happens w [] (w.withCache (w.cache.markRunning feed).1 (w.cache.markRunning feed).2)
  | waited :
    Happens w [] (w.withCache (!w.cache.gate.isSealed)
      { w.cache with gate := w.cache.gate.beginWait })
  | written (id : Nat) (f : Feed.Store → Feed.Store) :
    Happens w [] { w with cache := w.cache.modifyStore id f }
  | elapsed (t : Nat) (later : w.surroundings.now ≤ t) : Happens w [] (Machine.setNow t w)
  | begun (ctx : Token) (free : w.isRunning = false) : Happens w [] (w.beginRun ctx)
  | takenOver (free : w.isRunning = false) : Happens w [] { w with outstanding := [] }
  | concluded (n : Notice) (final : n = .drained ∨ ∃ names, n = .drainTimedOut names) :
    Happens w [] (w.note n)
  | swayed (sink : Sink) : Happens w [] (w.sway sink)

/-- Any number of things happen, one after the other. -/
inductive Spell (w : Scheduler) : List Utterance → Scheduler → Prop
  | refl : Spell w [] w
  | tail {said more : List Utterance} {w' w'' : Scheduler} (spell : Spell w said w')
    (happens : Happens w' more w'') : Spell w (said ++ more) w''

theorem Spell.nudge {w₀ : Scheduler} (spell : Spell w₀ said w) (a : Agent)
    (able : (w.poll? a).isSome = true) : Spell w₀ (said ++ w.utterances a) (w.nudge a) :=
  spell.tail (.polled a (poll?_eq_nudge able))

/-! ### Voices -/

/-- Who touches the backend, and what is said. -/
inductive Voices (w : Scheduler) : List Utterance → Scheduler → Prop
  | quiet {w' : Scheduler} (aside : Aside w w') (backend : w.backend.Alike w'.backend)
    (unheard : Enters (· ≠ .events) w.surroundings w'.surroundings) : Voices w [] w'
  | begun (ctx : Token) : Voices w [] (w.beginRun ctx)
  | turn {w' : Scheduler} (turn : w.pollRun? = some w') : Voices w [] w'
  | recording {w' : Scheduler} {b b' : Broadcaster} {r : Recording} (aside : Aside w w')
    (structured : w.backend = .structured b) (started : b.recording = some r)
    (stepped : b.Stepped w.surroundings r w'.surroundings b')
    (backend : w'.backend = .structured b') : Voices w [] w'
  | remark {w' : Scheduler} {s : Surroundings} (aside : Aside w w') (scope : Scope)
    (component : String) (remark : Event.Remark)
    (ready : s = w.surroundings ∨ (w.backend = .legacy ∧
      s = w.surroundings.call (.legacyRecorder ⟨component, ""⟩)))
    (surroundings : w'.surroundings = (w.backend.emit s scope component remark).1)
    (backend : w'.backend = (w.backend.emit s scope component remark).2) :
    Voices w [⟨w.surroundings.now, component, remark⟩] w'

/-- The backend is not touched, and nothing is entered about events. -/
theorem Voices.of_same (aside : Aside w w') (backend : w'.backend = w.backend)
    (unheard : Enters (· ≠ .events) w.surroundings w'.surroundings) : Voices w [] w' :=
  .quiet aside (.of_eq backend) unheard

theorem Voices.of_plain (aside : Aside w w') (backend : w'.backend = w.backend)
    (plain : EntersPlain w w') : Voices w [] w' := by
  refine .of_same aside backend (plain.mono ?_)
  rintro _ rfl
  exact nofun

theorem backend_withCache (w : Scheduler) (told : Bool) (c : Cache) :
    (w.withCache told c).backend = w.backend := by
  unfold withCache
  split <;> rfl

/-- Informers say nothing. -/
theorem voices_informer {i : Nat} (next : w.pollTask? (.informer i) = some w') :
    Voices w [] w' := by
  have aside := (taskStep_of_pollTask? next).aside
  obtain ⟨t, told, s, c, t', line, found, stepped, -, rfl⟩ := informer_of_pollTask? next
  refine .of_same aside rfl ((InformerTask.enters_step? stepped).mono ?_)
  rintro _ (rfl | rfl) <;> simp

/-- The core says what its script says. -/
theorem voices_core (next : w.pollTask? .core = some w') :
    Voices w (w.utterances (.task .core)) w' := by
  have aside := (taskStep_of_pollTask? next).aside
  obtain ⟨t, s, b, t', found, stepped, rfl⟩ := core_of_pollTask? next
  -- What the core is about to say is told from its next move, and so is what its step does.
  obtain ⟨move, play, moved, said⟩ := CoreTask.step?_cases stepped
  have moved : t.play.next? w.surroundings.now (w.isCancelled .shutdown) = some (move, play) :=
    moved
  rcases said with ⟨remark, rfl, rfl, rfl⟩ | ⟨other, rfl, plain⟩
  · have speaks : w.utterances (.task .core) = [⟨w.surroundings.now, t.component, remark⟩] := by
      simp only [utterances, found, moved]
    rw [speaks]
    exact .remark aside .core t.component remark (.inl rfl) rfl rfl
  · have silent : w.utterances (.task .core) = [] := by
      simp only [utterances, found, moved]
      split
      · next remark _ same =>
        cases same
        exact absurd rfl (other remark)
      · rfl
    rw [silent]
    exact .of_plain aside rfl plain

theorem voices_polled (a : Agent) (next : w.poll? a = some w') : Voices w (w.utterances a) w' := by
  cases a with
  | run => exact .turn next
  | task task =>
    cases task with
    | informer i => exact voices_informer next
    | core => exact voices_core next
    | recording =>
      have next : w.pollTask? .recording = some w' := next
      have step := taskStep_of_pollTask? next
      have aside := step.aside
      cases step with
      | recording structured started stepped =>
        exact .recording aside structured started stepped rfl

theorem voices_record (w : Scheduler) (component : String) (remark : Event.Remark) :
    Voices w [⟨w.surroundings.now, component, remark⟩] (w.record component remark) := by
  have aside := (w.asked_record component remark).aside
  cases kind : w.backend with
  | legacy =>
    refine .remark aside .outside component remark (.inr ⟨kind, rfl⟩) ?_ ?_
    · simp [record, kind, Backend.newRecorder, Backend.emit]
    · simp [record, kind, Backend.newRecorder, Backend.emit, Backend.release]
  | structured b =>
    -- The recorder is made for the remark, and is gone right after it.
    have sent := Broadcaster.send_senders w.surroundings .outside b component remark (b.senders + 1)
    have back := congrArg Prod.snd
      (Broadcaster.send_senders w.surroundings .outside b component remark b.senders)
    refine .remark aside .outside component remark (.inl rfl) ?_ ?_
    · simp only [record, kind, Backend.newRecorder, Backend.emit, sent]
    · simp only [record, kind, Backend.newRecorder, Backend.emit, sent]
      exact congrArg Backend.structured back.symm

/-- **Voices.** Nobody else touches the backend, and nobody else is heard of. -/
theorem voices_of_happens (happens : Happens w said w') : Voices w said w' := by
  -- Most of what happens enters nothing at all.
  have nothing (w' : Scheduler) (same : w'.surroundings.journal = w.surroundings.journal) :
      EntersPlain w w' := .of_journal same
  cases happens with
  | polled a next => exact voices_polled a next
  | recorded component remark => exact voices_record w component remark
  | asked c silent =>
    have brief : c.isBrief = true := by cases c <;> first | rfl | contradiction
    refine .of_plain (asked_perform w brief).aside ?_ (entersPlain_perform w silent)
    cases c with
    | cancel token => rfl
    | contents feed => rfl
    | register feed =>
      simp only [perform, register]
      split
      · rfl
      · exact w.backend_withCache _ _
    | markSynced feed => exact w.backend_withCache _ _
    | _ => contradiction
  | lined l => exact .of_plain (aside_line w l) rfl (nothing _ rfl)
  | marked feed =>
    exact .of_plain (asked_withGate (gateOnward_markRunning _ _ feed)).aside
      (w.backend_withCache _ _) (nothing _ (by rw [surroundings_withCache]))
  | waited =>
    exact .of_plain (asked_withGate (gateOnward_beginWait _ _)).aside
      (w.backend_withCache _ _) (nothing _ (by rw [surroundings_withCache]))
  | written id f =>
    have asked : Asked w { w with cache := w.cache.modifyStore id f } :=
      .touches (.of_surroundings (.refl _) _) rfl rfl
    exact .of_plain asked.aside rfl (nothing _ rfl)
  | elapsed t later => exact .of_plain (aside_setNow later) rfl (nothing _ rfl)
  | begun ctx free => exact .begun ctx
  | takenOver free =>
    have aside : Aside w { w with outstanding := [] } :=
      ⟨.of_gate rfl rfl rfl rfl rfl (.of_surroundings (.refl _) _), rfl, rfl⟩
    exact .of_plain aside rfl (nothing _ rfl)
  | concluded n final =>
    refine .of_plain (aside_note w n) rfl ?_
    rcases final with rfl | ⟨names, rfl⟩
    · exact enters_note w.surroundings _ _ rfl
    · exact enters_note w.surroundings _ _ rfl
  | swayed sink =>
    unfold sway
    split
    · next b structured =>
      refine .quiet (.of_surroundings _ (.refl _)) ?_ (.refl _ _)
      rw [structured]
      exact ⟨rfl, rfl, rfl⟩
    · exact .of_plain (.refl w) rfl (nothing _ rfl)

/-- Whatever happens to a scheduler, but that someone else starts the recording, or a drain is done
with a task. -/
theorem Step.happens (step : Step w w') :
    (∃ said, Happens w said w') ∨ (∃ stop, w' = (w.startRecordingBy stop).1) ∨
      ∃ task, w' = (w.settleTask task).1 := by
  cases step with
  | stirred stir =>
    cases stir with
    | polled a next => exact .inl ⟨_, .polled a next⟩
    | lined l => exact .inl ⟨_, .lined l⟩
    | marked feed => exact .inl ⟨_, .marked feed⟩
    | waited => exact .inl ⟨_, .waited⟩
    | written id f => exact .inl ⟨_, .written id f⟩
    | asked c brief =>
      cases c with
      | record component remark => exact .inl ⟨_, .recorded component remark⟩
      | startRecording stop => exact .inr (.inl ⟨stop, rfl⟩)
      | cancel token => exact .inl ⟨_, .asked (.cancel token) rfl⟩
      | register feed => exact .inl ⟨_, .asked (.register feed) rfl⟩
      | markSynced feed => exact .inl ⟨_, .asked (.markSynced feed) rfl⟩
      | contents feed => exact .inl ⟨_, .asked (.contents feed) rfl⟩
      | _ => contradiction
  | elapsed t later => exact .inl ⟨_, .elapsed t later⟩
  | begun ctx free => exact .inl ⟨_, .begun ctx free⟩
  | takenOver free => exact .inl ⟨_, .takenOver free⟩
  | concluded n final => exact .inl ⟨_, .concluded n final⟩
  | settled task => exact .inr (.inr ⟨task, rfl⟩)

end Scheduler

end SchedulerHost.Host
