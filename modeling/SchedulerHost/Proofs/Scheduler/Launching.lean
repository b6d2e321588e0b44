import SchedulerHost.Proofs.Machine.Settling
import SchedulerHost.Proofs.Scheduler.Turn

/-!
# What a run launches

The shape of a scheduler after a turn of its run: which tasks are there that were not, and which are
outstanding.

* **Launching** (`exists_launchAll`): a first run launches the recording, if it has not been
  started, and the informers in the order of their drivers.
* `Turned`: after that a turn launches the core or nothing (`turned_of_pollRun?`).
-/

namespace SchedulerHost.Host

def Driver.task (d : Driver) : InformerTask :=
  ⟨d.informer.feed, d.store, .shutdown, .ofScript d.informer.script⟩

namespace Scheduler

variable {w w' : Scheduler}

/-! ### The core -/

/-- What a turn of a run does that has launched the informers. -/
inductive Turned (w : Scheduler) : Scheduler → Prop
  | waits (s : Surroundings) (c : Cache) (run : RunState) (ready : Bool) :
    Turned w { w with surroundings := s, cache := c, run := run, ready := ready }
  | admits (s : Surroundings) (c : Cache) (run : RunState) (ready : Bool)
    (feeds : List (Feed.FeedId × Nat)) :
    Turned w { w with
      surroundings := s, cache := c, run := run, ready := ready
      core := some (.launch w.builder feeds)
      outstanding := w.outstanding ++ [.core]
      line := w.line.toBack (.task .core) }

/-- A turn may begin with a look at the surroundings and the cache. -/
theorem Turned.of_cache {s : Surroundings} {c : Cache}
    (turned : Turned { w with surroundings := s, cache := c } w') : Turned w w' := by
  cases turned with
  | waits s' c' run ready => exact .waits s' c' run ready
  | admits s' c' run ready feeds => exact .admits s' c' run ready feeds

/-- Such a turn leaves the informers alone. -/
theorem Turned.informers (turned : Turned w w') :
    w'.informers = w.informers ∧ w'.started = w.started := by
  cases turned with
  | waits => exact ⟨rfl, rfl⟩
  | admits => exact ⟨rfl, rfl⟩

/-- Nor does it touch the backend. -/
theorem Turned.backend (turned : Turned w w') :
    w'.backend = w.backend ∧ w'.parts = w.parts := by
  cases turned with
  | waits => exact ⟨rfl, rfl⟩
  | admits => exact ⟨rfl, rfl⟩

theorem turned_giveUp (w : Scheduler) : Turned w w.giveUp := .waits _ _ _ _

theorem turned_serve (w : Scheduler) (ctx : Token) : Turned w (w.serve ctx) := by
  unfold serve
  split
  · exact .waits _ _ _ _
  · exact .waits _ _ _ _

/-- A run that waits for the feeds launches the core or nothing. -/
theorem turned_awaitFeeds (w : Scheduler) (ctx : Token) : Turned w (w.awaitFeeds ctx) := by
  unfold awaitFeeds
  split
  · exact turned_giveUp w
  · split
    · unfold serve
      split
      · exact .admits _ _ _ _ _
      · exact .admits _ _ _ _ _
    · exact .waits _ _ _ _

theorem turned_awaitFactory (w : Scheduler) (ctx : Token) (asked : Nat) :
    Turned w (w.awaitFactory ctx asked) := by
  unfold awaitFactory
  split
  · exact turned_giveUp w
  · split
    · obtain ⟨s, -, same⟩ := w.exists_takeReport
      have turned := w.takeReport.turned_awaitFeeds ctx
      rw [same] at turned ⊢
      exact turned.of_cache
    · exact .waits _ _ _ _

/-- A run that begins to wait for the caches launches the core or nothing. -/
theorem turned_awaitCaches (w : Scheduler) (ctx : Token) : Turned w (w.awaitCaches ctx) := by
  unfold awaitCaches
  split
  · exact turned_giveUp w
  · have turned := (w.call .factoryWait).turned_awaitFactory ctx w.surroundings.now
    exact turned.of_cache

/-! ### The recording and the informers -/

/-- Nobody leaves the line, and some tasks join it. -/
structure Joined (l : Line Agent) (tasks : List Task) (l' : Line Agent) : Prop where
  stays (a : Agent) : a ∈ l.members → a ∈ l'.members
  joins (task : Task) : task ∈ tasks → .task task ∈ l'.members

theorem Joined.refl (l : Line Agent) : Joined l [] l :=
  ⟨fun _ there => there, fun _ there => by cases there⟩

theorem Joined.toBack (l : Line Agent) (task : Task) :
    Joined l [task] (l.toBack (.task task)) := by
  refine ⟨fun _ there => Line.mem_members_toBack there, ?_⟩
  intro other there
  obtain rfl := List.mem_singleton.1 there
  simp [Line.toBack]

theorem Joined.trans {l l' l'' : Line Agent} {first last : List Task} (h : Joined l first l')
    (h' : Joined l' last l'') : Joined l (first ++ last) l'' := by
  refine ⟨fun a there => h'.stays a (h.stays a there), ?_⟩
  intro task there
  rcases List.mem_append.1 there with before | after
  · exact h'.stays _ (h.joins task before)
  · exact h'.joins task after

/-- What the beginning of a run makes of the backend, and which task it launches for it. -/
inductive Recorded (w : Scheduler) : Backend → List Task → Prop
  | starts {b : Broadcaster} (structured : w.backend = .structured b)
    (unrecorded : b.recording = none) :
    Recorded w (.structured { b with recording := some ⟨.shutdown, .fresh, false⟩ }) [.recording]
  | leaves : Recorded w w.backend []

/-- The beginning of a run starts the recording, or leaves the backend alone. -/
theorem exists_startRecording (w : Scheduler) :
    ∃ s b first l, Recorded w b first ∧ Joined w.line first l ∧ w.startRecording = { w with
      surroundings := s, backend := b, outstanding := w.outstanding ++ first, line := l } := by
  unfold startRecording
  split
  · next b sink structured _ =>
    unfold Broadcaster.start
    cases recording : b.recording with
    | none =>
      refine ⟨w.surroundings, _, _, w.line.toBack (.task .recording),
        .starts structured recording, .toBack _ _, ?_⟩
      simp [Broadcaster.isRecording, recording, launched]
    | some r =>
      simp only [Broadcaster.isRecording, recording, Option.isSome_some, if_true]
      refine ⟨(w.note (.recordingNotStarted .alreadyRecording)).surroundings, w.backend, [], w.line,
        .leaves, .refl _, ?_⟩
      rw [List.append_nil]
      rfl
  · refine ⟨w.surroundings, w.backend, [], w.line, .leaves, .refl _, ?_⟩
    rw [List.append_nil]

/-- A row of informers is launched in the order of its drivers. -/
theorem exists_launchInformers (ds : List Driver) (w : Scheduler) :
    ∃ c l, Joined w.line ((List.range' w.informers.length ds.length).map .informer) l ∧
      ds.foldl launchInformer w = { w with
        cache := c
        informers := w.informers ++ ds.map (·.task)
        outstanding := w.outstanding ++ (List.range' w.informers.length ds.length).map .informer
        line := l } := by
  induction ds generalizing w with
  | nil => exact ⟨w.cache, w.line, .refl _, by simp⟩
  | cons d ds ih =>
    obtain ⟨c, l, joined, same⟩ := ih (w.launchInformer d)
    have grown : (w.launchInformer d).informers.length = w.informers.length + 1 := by
      simp [launchInformer, launched]
    rw [grown] at joined
    refine ⟨c, l, ?_, ?_⟩
    · rw [List.length_cons, List.range'_succ, List.map_cons]
      exact (Joined.toBack w.line (.informer w.informers.length)).trans joined
    · rw [List.foldl_cons, same]
      simp [launchInformer, launched, Driver.launch, Driver.task, List.range'_succ]

/-- **Launching.** What a first run launches at once. -/
theorem exists_launchAll (w : Scheduler) :
    ∃ s c b first l, Recorded w b first ∧
      Joined w.line (first ++ (List.range' w.informers.length w.drivers.length).map .informer) l ∧
      w.launchAll = { w with
        started := true
        surroundings := s
        cache := c
        backend := b
        informers := w.informers ++ w.drivers.map (·.task)
        outstanding := w.outstanding ++ first ++
          (List.range' w.informers.length w.drivers.length).map .informer
        line := l } := by
  obtain ⟨s, b, first, l, recorded, joined, records⟩ :=
    exists_startRecording { w with started := true }
  obtain ⟨c, l', joined', launches⟩ := exists_launchInformers
    { w with started := true }.startRecording.drivers { w with started := true }.startRecording
  have recorded : Recorded w b first := by
    cases recorded with
    | starts structured unrecorded => exact .starts structured unrecorded
    | leaves => exact .leaves
  rw [records] at launches joined'
  have parts : w.launchAll = { { w with started := true }.startRecording.drivers.foldl
      launchInformer { w with started := true }.startRecording with
        surroundings := w.launchAll.surroundings } := rfl
  refine ⟨w.launchAll.surroundings, c, b, first, l', recorded, joined.trans joined', parts.trans ?_⟩
  rw [records, launches]

/-- A turn launches what a first run launches at once, if it is the first of a first run, and the
core or nothing after that. -/
theorem turned_of_pollRun? (turn : w.pollRun? = some w') :
    ∃ ctx phase, w.run = .going ctx phase ∧
      ((phase = .entered ∧ w.started = false ∧ Turned w.launchAll w') ∨
        ((phase = .entered → w.started = true) ∧ Turned w w')) := by
  obtain ⟨ctx, phase, going, -, rfl⟩ := exists_of_pollRun? turn
  refine ⟨ctx, phase, going, ?_⟩
  cases phase with
  | entered =>
    cases started : w.started with
    | true =>
      right
      rw [proceed, enter, if_pos started]
      exact ⟨fun _ => rfl, .waits _ _ _ _⟩
    | false =>
      left
      rw [proceed, enter_of_fresh started]
      exact ⟨rfl, rfl, turned_awaitCaches _ ctx⟩
  | awaitingFactory asked => exact .inr ⟨by simp, turned_awaitFactory w ctx asked⟩
  | awaitingFeeds => exact .inr ⟨by simp, turned_awaitFeeds w ctx⟩
  | serving => exact .inr ⟨by simp, turned_serve w ctx⟩

end Scheduler

end SchedulerHost.Host
