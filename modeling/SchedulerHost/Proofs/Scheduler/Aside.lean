import SchedulerHost.Host.Scheduler.Session
import SchedulerHost.Proofs.Tasks.Performing
import SchedulerHost.Proofs.Tasks.Recording

/-!
# What goes on aside of a run

Everything in a scheduler but its run: the tasks, and whoever holds the scheduler, its gate or a
store of it. `Scheduler.Frame` lists what all of them leave alone, and in which direction they
change the rest; `Scheduler.Aside` adds that the run is left alone.

* `TaskStep` lists the steps of the tasks, and `Asked` what is asked for at a moment.
* **One fact per step** (`TaskStep.aside`, `Asked.aside`, `aside_settleTask`): no step of a task
  and nothing that is asked for at a moment touches the run, or takes back what happened.
-/

namespace SchedulerHost.Host

open Feed (FeedId Gate)

/-! ### Backends and cores -/

theorem Backend.extends_emit (s : Surroundings) (scope : Scope) (b : Backend) (component : String)
    (remark : Event.Remark) : s.Extends (b.emit s scope component remark).1 := by
  cases b with
  | structured b =>
    simp only [emit, Broadcaster.send]
    split
    · exact .refl s
    · exact .note s scope _
  | legacy => exact .call s _

/-- A core goes on with its performance, keeps its snapshot of the feeds, and touches the backend
only by what it records. -/
theorem CoreTask.step?_facts {s s' : Surroundings} {c : Cache} {b b' : Backend} {t t' : CoreTask}
    (h : t.step? s c b = some (s', b', t')) :
    s.Extends s' ∧ ∃ move play, t.play.next? s.now (s.isCancelled .shutdown) = some (move, play) ∧
      t' = { t with play := play } ∧
      (b' = b ∨ ∃ remark, move = .act (.event remark) ∧
        b' = (b.emit s .core t.component remark).2) := by
  unfold step? at h
  split at h
  · contradiction
  · next move play next =>
    split at h
    · cases h
      exact ⟨.call s _, _, play, next, rfl, .inl rfl⟩
    · cases h
      exact ⟨.call s _, _, play, next, rfl, .inl rfl⟩
    · cases h
      exact ⟨.refl s, _, play, next, rfl, .inl rfl⟩
    · cases h
      exact ⟨.call s _, _, play, next, rfl, .inl rfl⟩
    · next remark =>
      have emitted := Backend.extends_emit s .core b t.component remark
      cases h
      exact ⟨emitted, _, play, next, rfl, .inr ⟨remark, rfl, rfl⟩⟩

namespace Scheduler

/-! ### Frames -/

/-- What stays as it is around a change: the parts and what has been launched; nothing that happened
is taken back. -/
structure Frame (w w' : Scheduler) : Prop where
  parts : w'.parts = w.parts
  builder : w'.builder = w.builder
  drivers : w'.drivers = w.drivers
  informers : w'.informers.map (fun t => (t.feed, t.store)) =
    w.informers.map fun t => (t.feed, t.store)
  feeds : w'.core.map (·.feeds) = w.core.map (·.feeds)
  begun (t : CoreTask) : w.core = some t → t.play.fate ≠ .pending →
    ∃ t', w'.core = some t' ∧ t'.play.fate ≠ .pending
  gate : GateOnward w.surroundings w.cache.gate w'.surroundings w'.cache.gate

variable {w w' w'' : Scheduler}

theorem Frame.trans (first : Frame w w') (last : Frame w' w'') : Frame w w'' where
  parts := last.parts.trans first.parts
  builder := last.builder.trans first.builder
  drivers := last.drivers.trans first.drivers
  informers := last.informers.trans first.informers
  feeds := last.feeds.trans first.feeds
  begun t there under := by
    obtain ⟨t', there', under'⟩ := first.begun t there under
    exact last.begun t' there' under'
  gate := first.gate.trans last.gate

/-- Neither the informers nor the core are touched. -/
theorem Frame.of_gate (parts : w'.parts = w.parts) (builder : w'.builder = w.builder)
    (drivers : w'.drivers = w.drivers) (informers : w'.informers = w.informers)
    (core : w'.core = w.core)
    (gate : GateOnward w.surroundings w.cache.gate w'.surroundings w'.cache.gate) : Frame w w' where
  parts := parts
  builder := builder
  drivers := drivers
  informers := by rw [informers]
  feeds := by rw [core]
  begun t there under := ⟨t, core.trans there, under⟩
  gate := gate

theorem Frame.isCancelled (frame : Frame w w') {token : Token} (h : w.isCancelled token = true) :
    w'.isCancelled token = true :=
  frame.gate.surroundings.cancelled token h

/-- A factory that has reported once has reported for good. -/
theorem Frame.factoryReported (frame : Frame w w') {asked : Nat}
    (h : w.factoryReported asked = true) : w'.factoryReported asked = true := by
  rw [Scheduler.factoryReported, InformerFactory.hasReported, Bool.or_eq_true, Bool.and_eq_true]
    at h ⊢
  rw [frame.parts]
  rcases h with passed | ⟨heeds, down⟩
  · left
    rw [Option.any_eq_true] at passed ⊢
    obtain ⟨delay, there, due⟩ := passed
    refine ⟨delay, there, ?_⟩
    have := frame.gate.surroundings.now
    simp only [decide_eq_true_eq] at due ⊢
    omega
  · exact .inr ⟨heeds, frame.isCancelled down⟩

/-- What is done by anyone but the run. -/
structure Aside (w w' : Scheduler) : Prop extends frame : Frame w w' where
  run : w'.run = w.run
  started : w'.started = w.started

theorem Aside.trans (first : Aside w w') (last : Aside w' w'') : Aside w w'' :=
  ⟨first.frame.trans last.frame, last.run.trans first.run, last.started.trans first.started⟩

theorem Aside.refl (w : Scheduler) : Aside w w :=
  ⟨.of_gate rfl rfl rfl rfl rfl (.of_surroundings (.refl _) _), rfl, rfl⟩

theorem Aside.of_surroundings {s : Surroundings} (b : Backend) (h : w.surroundings.Onward s) :
    Aside w { w with surroundings := s, backend := b } :=
  ⟨.of_gate rfl rfl rfl rfl rfl (.of_surroundings h _), rfl, rfl⟩

/-- Only the cache differs, and who is woken. -/
theorem exists_withCache (w : Scheduler) (told : Bool) (c : Cache) :
    ∃ line, line.members = w.line.members ∧
      w.withCache told c = { w with cache := c, line := line } := by
  unfold withCache
  split
  · exact ⟨w.line.wake (· = .run), rfl, rfl⟩
  · exact ⟨w.line, rfl, rfl⟩

theorem aside_note (w : Scheduler) (n : Notice) : Aside w (w.note n) :=
  .of_surroundings w.backend (.of_extends (.note _ _ _))

theorem aside_line (w : Scheduler) (l : Line Agent) : Aside w { w with line := l } :=
  ⟨.of_gate rfl rfl rfl rfl rfl (.of_surroundings (.refl _) _), rfl, rfl⟩

/-! ### Tasks -/

def recording? (w : Scheduler) : Option Recording := w.backend.broadcaster?.bind (·.recording)

inductive TaskStep (w : Scheduler) : Task → Scheduler → Prop
  | recording {b b' : Broadcaster} {r : Recording} {s : Surroundings}
    (structured : w.backend = .structured b) (started : b.recording = some r)
    (stepped : b.Stepped w.surroundings r s b') :
    TaskStep w .recording { w with surroundings := s, backend := .structured b' }
  | informer {i : Nat} {t : InformerTask} {move : Move FeedAction} {play : Performance FeedAction}
    {s : Surroundings} {c : Cache} {l : Line Agent} {told : Bool}
    (found : w.informers[i]? = some t)
    (next : t.play.next? w.surroundings.now (w.isCancelled t.stop) = some (move, play))
    (works : t.Works w.surroundings w.cache told s c) (members : l.members = w.line.members) :
    TaskStep w (.informer i) { w with
      surroundings := s, cache := c, line := l
      informers := w.informers.set i { t with play := play } }
  | core {t : CoreTask} {move : Move CoreAction} {play : Performance CoreAction}
    {s : Surroundings} {b : Backend} (found : w.core = some t)
    (next : t.play.next? w.surroundings.now (w.isCancelled .shutdown) = some (move, play))
    (told : w.surroundings.Extends s)
    (backend : b = w.backend ∨ ∃ remark, move = .act (.event remark) ∧
      b = (w.backend.emit w.surroundings .core t.component remark).2) :
    TaskStep w .core
      { w with surroundings := s, backend := b, core := some { t with play := play } }

/-- An informer that takes a step is there, and its step is all there is to it. -/
theorem informer_of_pollTask? {i : Nat} (next : w.pollTask? (.informer i) = some w') :
    ∃ t told s c t' line, w.informers[i]? = some t ∧
      t.step? w.surroundings w.cache = some (told, s, c, t') ∧ line.members = w.line.members ∧
      w' = { w with
        surroundings := s, cache := c, line := line, informers := w.informers.set i t' } := by
  simp only [pollTask?] at next
  split at next
  · contradiction
  · next t found =>
    rw [Option.map_eq_some_iff] at next
    obtain ⟨⟨told, s, c, t'⟩, stepped, rfl⟩ := next
    obtain ⟨line, members, same⟩ := w.exists_withCache told c
    exact ⟨t, told, s, c, t', line, found, stepped, members, by rw [same]⟩

/-- So is the core. -/
theorem core_of_pollTask? (next : w.pollTask? .core = some w') :
    ∃ t s b t', w.core = some t ∧
      t.step? w.surroundings w.cache w.backend = some (s, b, t') ∧
      w' = { w with surroundings := s, backend := b, core := some t' } := by
  simp only [pollTask?] at next
  split at next
  · contradiction
  · next t found =>
    rw [Option.map_eq_some_iff] at next
    obtain ⟨⟨s, b, t'⟩, stepped, rfl⟩ := next
    exact ⟨t, s, b, t', found, stepped, rfl⟩

/-- There are no other steps. -/
theorem taskStep_of_pollTask? {task : Task} (next : w.pollTask? task = some w') :
    TaskStep w task w' := by
  cases task with
  | recording =>
    rw [pollTask?, Option.map_eq_some_iff] at next
    obtain ⟨⟨s, b⟩, stepped, rfl⟩ := next
    cases structured : w.backend with
    | legacy =>
      rw [structured] at stepped
      contradiction
    | structured b₀ =>
      rw [structured, Backend.step?, Option.map_eq_some_iff] at stepped
      obtain ⟨⟨s', b'⟩, stepped, same⟩ := stepped
      cases same
      obtain ⟨r, started, stepped⟩ := Broadcaster.stepped_of_step? stepped
      exact .recording structured started stepped
  | informer i =>
    obtain ⟨t, told, s, c, t', line, found, stepped, members, rfl⟩ := informer_of_pollTask? next
    obtain ⟨works, move, play, moved, rfl⟩ := InformerTask.step?_facts stepped
    exact .informer found moved works members
  | core =>
    obtain ⟨t, s, b, t', found, stepped, rfl⟩ := core_of_pollTask? next
    obtain ⟨told, move, play, moved, rfl, backend⟩ := CoreTask.step?_facts stepped
    exact .core found moved told backend

/-- The tasks take no time and cancel no tokens. -/
theorem TaskStep.extends {task : Task} (step : TaskStep w task w') :
    w.surroundings.Extends w'.surroundings := by
  cases step with
  | recording structured started stepped => exact stepped.extends
  | informer found next works => exact works.surroundings
  | core found next told => exact told

/-- A row shows the same when one of it is replaced by one that shows the same. -/
theorem map_set_of_same {α β : Type} {f : α → β} {l : List α} {i : Nat} {a b : α}
    (found : l[i]? = some a) (same : f b = f a) : (l.set i b).map f = l.map f := by
  rw [List.map_set]
  apply List.ext_getElem?
  intro j
  by_cases here : i = j
  · subst here
    obtain ⟨inside, rfl⟩ := List.getElem?_eq_some_iff.1 found
    simp [inside, same]
  · rw [List.getElem?_set_ne here]

/-- The tasks go on aside of the run. -/
theorem TaskStep.aside {task : Task} (step : TaskStep w task w') : Aside w w' := by
  cases step with
  | recording structured started stepped =>
    exact .of_surroundings _ (.of_extends stepped.extends)
  | @informer i t move play s c l told found next works =>
    exact ⟨⟨rfl, rfl, rfl, map_set_of_same found rfl, rfl, fun t there under => ⟨t, there, under⟩,
      works.gate⟩, rfl, rfl⟩
  | core found next told =>
    refine ⟨⟨rfl, rfl, rfl, rfl, by rw [found]; rfl, ?_, .of_surroundings (.of_extends told) _⟩,
      rfl, rfl⟩
    intro t' there under
    exact ⟨_, rfl, (Performance.stepped_of_next? next).fate_ne_pending⟩

/-- To take from a task what it would still do is not done by the run. -/
theorem aside_cutShort (w : Scheduler) (task : Task) : Aside w (w.cutShort task) := by
  cases task with
  | recording =>
    simp only [cutShort]
    split
    · next b _ => exact .of_surroundings (.structured b.abort) (.refl _)
    · exact .refl w
  | informer i =>
    refine ⟨⟨rfl, rfl, rfl, ?_, rfl, fun t there under => ⟨t, there, under⟩,
      .of_surroundings (.refl _) _⟩, rfl, rfl⟩
    apply List.ext_getElem?
    intro j
    simp only [cutShort, List.getElem?_map, List.getElem?_modify]
    cases w.informers[j]? with
    | none => simp
    | some t => by_cases same : i = j <;> simp [same]
  | core =>
    refine ⟨⟨rfl, rfl, rfl, rfl, ?_, ?_, .of_surroundings (.refl _) _⟩, rfl, rfl⟩
    · simp [cutShort, Function.comp_def]
    · intro t there under
      refine ⟨{ t with play := t.play.abort }, by simp [cutShort, there], ?_⟩
      simp only [Performance.abort]
      split
      · exact under
      · simp

theorem aside_settleTask (w : Scheduler) (task : Task) : Aside w (w.settleTask task).1 := by
  unfold settleTask
  split
  · exact aside_note w _
  · exact aside_note w _
  · exact (aside_cutShort w task).trans (aside_line _ _)

/-! ### Commands -/

/-- Is a command done at a moment, whatever the run is at? -/
def Command.isBrief : Command → Bool
  | .run _ | .advance _ | .drain _ => false
  | _ => true

/-- What becomes of a scheduler that something is asked of at a moment. -/
inductive Asked (w : Scheduler) : Scheduler → Prop
  /-- The tasks are not touched. -/
  | touches {s : Surroundings} {c : Cache} {l : Line Agent}
    (gate : GateOnward w.surroundings w.cache.gate s c.gate)
    (now : s.now = w.surroundings.now) (members : l.members = w.line.members) :
    Asked w { w with surroundings := s, cache := c, line := l }
  | records {b : Broadcaster} (structured : w.backend = .structured b) (event : Event) :
    Asked w { w with backend := .structured { b with channel := b.channel.push event } }
  | starts {b : Broadcaster} (structured : w.backend = .structured b)
    (unrecorded : b.recording = none) (stop : Token) :
    Asked w { w with
      backend := .structured { b with recording := some ⟨stop, .fresh, false⟩ }
      line := w.line.toBack (.task .recording) }

theorem Asked.of_surroundings {s : Surroundings} (onward : w.surroundings.Onward s)
    (now : s.now = w.surroundings.now) : Asked w { w with surroundings := s } :=
  .touches (.of_surroundings onward _) now rfl

/-- Whatever is done to the cache may be asked for, as long as the gate only grows. -/
theorem Asked.of_withCache {told : Bool} {s : Surroundings} {c : Cache}
    (gate : GateOnward w.surroundings w.cache.gate s c.gate)
    (now : s.now = w.surroundings.now) :
    Asked w { w.withCache told c with surroundings := s } := by
  obtain ⟨line, members, same⟩ := w.exists_withCache told c
  rw [same]
  exact .touches gate now members

theorem asked_record (w : Scheduler) (component : String) (remark : Event.Remark) :
    Asked w (w.record component remark) := by
  unfold record
  cases structured : w.backend with
  | legacy =>
    have told := (Surroundings.Extends.call w.surroundings (.legacyRecorder ⟨component, ""⟩)).trans
      (.call _ (.legacyEvent component remark.regarding remark.kind remark.reason remark.note))
    have asked := Asked.of_surroundings (.of_extends told) told.now
    rw [structured] at asked
    exact asked
  | structured b =>
    simp only [Backend.newRecorder, Backend.emit, Broadcaster.send]
    split
    · exact .records structured _
    · have told := Surroundings.Extends.note w.surroundings .outside (.eventDropped remark.reason)
      have asked := Asked.of_surroundings (.of_extends told) told.now
      rw [structured] at asked
      exact asked

theorem asked_startRecordingBy (w : Scheduler) (stop : Token) :
    Asked w (w.startRecordingBy stop).1 := by
  have nothing : Asked w w := .of_surroundings (.refl _) rfl
  unfold startRecordingBy
  split
  · next b structured =>
    unfold Broadcaster.start
    cases recording : b.recording with
    | none =>
      have unrecorded : b.isRecording = false := by rw [Broadcaster.isRecording, recording]; rfl
      rw [unrecorded]
      exact .starts structured recording stop
    | some r =>
      have recorded : b.isRecording = true := by rw [Broadcaster.isRecording, recording]; rfl
      rw [recorded]
      exact nothing
  · exact nothing

theorem asked_perform (w : Scheduler) {c : Command} (brief : c.isBrief = true) :
    Asked w (w.perform c).1 := by
  cases c with
  | run ctx => contradiction
  | advance ms => contradiction
  | drain ms => contradiction
  | cancel token => exact .of_surroundings (.cancel _ _) (Surroundings.now_cancel _ _)
  | contents feed => exact .of_surroundings (.refl _) rfl
  | register feed =>
    simp only [perform, register]
    split
    · exact .of_surroundings (.refl _) rfl
    · next id s c taken =>
      obtain ⟨accepted, -, -, rfl⟩ := registerFeed_eq_ok taken
      refine .of_withCache ?_ rfl
      exact (gateOnward_register _ accepted).trans (.of_surroundings (.of_extends (.note _ _ _)) _)
  | markSynced feed =>
    exact .of_withCache (gateOnward_reportSynced _ _ _ _) (extends_noteSync _ _ _ _).now
  | record component remark => exact w.asked_record component remark
  | startRecording stop => exact w.asked_startRecordingBy stop

/-- What is asked for at a moment is done aside of the run. -/
theorem Asked.aside (asked : Asked w w') : Aside w w' := by
  cases asked with
  | touches gate => exact ⟨.of_gate rfl rfl rfl rfl rfl gate, rfl, rfl⟩
  | records => exact .of_surroundings _ (.refl _)
  | starts => exact ⟨.of_gate rfl rfl rfl rfl rfl (.of_surroundings (.refl _) _), rfl, rfl⟩

/-- What is asked for at a moment takes no time. -/
theorem Asked.now (asked : Asked w w') : w'.surroundings.now = w.surroundings.now := by
  cases asked with
  | touches _ now => exact now
  | records => rfl
  | starts => rfl

end Scheduler

end SchedulerHost.Host
