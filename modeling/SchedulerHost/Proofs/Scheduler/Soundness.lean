import SchedulerHost.Proofs.Machine.Settling
import SchedulerHost.Proofs.Scheduler.Standing

/-!
# The scheduler as a machine

A scheduler comes to rest: every step leaves less to do, whoever can go on stands in the line, and
nobody becomes able by the passing of time before an alarm is due.

* `Fit`: the tasks stand in the line and are in a state they can be in.
* **Work** (`TaskStep.work`, `work_pollRun?`): every step leaves less to do, also one that launches
  something or makes another task do something.
* **Soundness** (`sound_reached`): a scheduler that is fit, in the life of one that was constructed,
  is a sound machine.
-/

namespace SchedulerHost.Host

/-- Whether the core can go on hangs on its performance alone. -/
theorem CoreTask.isSome_step? (s : Surroundings) (c : Cache) (b : Backend) (t : CoreTask) :
    (t.step? s c b).isSome = (t.play.next? s.now (s.isCancelled .shutdown)).isSome := by
  unfold step?
  split
  · next stuck => simp [stuck]
  · next move play next =>
    rw [next]
    split <;> rfl

def RunState.work : RunState → Nat
  | .going _ .entered => 6
  | .going _ (.awaitingFactory _) => 3
  | .going _ .awaitingFeeds => 2
  | .going _ .serving => 1
  | _ => 0

namespace Scheduler

variable {w₀ w w' : Scheduler} {task : Task}

/-! ### Who can go on -/

def canGoOn (w : Scheduler) : Agent → Bool
  | .run =>
    match w.run with
    | .going ctx phase => w.runCanProceed ctx phase
    | _ => false
  | .task .recording => (w.backend.step? w.surroundings).isSome
  | .task (.informer i) =>
    w.informers[i]?.any fun t => (t.play.next? w.surroundings.now (w.isCancelled t.stop)).isSome
  | .task .core =>
    w.core.any fun t => (t.play.next? w.surroundings.now (w.isCancelled .shutdown)).isSome

theorem isAble_eq (w : Scheduler) (a : Agent) : Machine.isAble w a = w.canGoOn a := by
  show (w.poll? a).isSome = w.canGoOn a
  cases a with
  | run =>
    simp only [poll?, pollRun?, canGoOn]
    cases w.run with
    | idle => rfl
    | returned time outcome => rfl
    | going ctx phase => cases able : w.runCanProceed ctx phase <;> simp [able]
  | task task =>
    cases task with
    | recording => simp only [poll?, pollTask?, canGoOn, Option.isSome_map]
    | informer i =>
      simp only [poll?, pollTask?, canGoOn]
      cases w.informers[i]? with
      | none => rfl
      | some t => simp only [Option.isSome_map, InformerTask.isSome_step?, Option.any_some,
          isCancelled]
    | core =>
      simp only [poll?, pollTask?, canGoOn]
      cases w.core with
      | none => rfl
      | some t => simp only [Option.isSome_map, CoreTask.isSome_step?, Option.any_some,
          isCancelled]

/-- A run that is entered has a turn before all is still. -/
theorem taken_of_still (still : Machine.Still w) (ctx : Token) :
    w.run ≠ .going ctx .entered := by
  intro entered
  have unable := still.unable .run
  simp [isAble_eq, canGoOn, entered, runCanProceed] at unable

/-- The line and the time of a scheduler are fields of their own. -/
instance : LawfulMachine Scheduler where
  setLine_line _ := rfl
  line_setLine _ _ := rfl
  setLine_setLine _ _ _ := rfl
  now_setLine _ _ := rfl
  alarms_setLine _ _ := rfl
  work_setLine _ _ := rfl
  isAble_setLine l w a := by
    rw [isAble_eq, isAble_eq]
    rfl
  setNow_now _ := rfl
  now_setNow _ _ := rfl
  setNow_setNow _ _ _ := rfl
  line_setNow _ _ := rfl
  alarms_setNow _ _ := rfl
  work_setNow _ _ := rfl

/-! ### Fitness -/

/-- Whoever proceeds stands in the line, and the tasks are in a state they can be in. -/
structure Fit (w : Scheduler) : Prop where
  run : w.isRunning = true → .run ∈ w.line.members
  tasks (task : Task) : w.HasTask task → .task task ∈ w.line.members
  backend (b : Broadcaster) : w.backend = .structured b → b.Sane
  informers (t : InformerTask) : t ∈ w.informers → t.play.Sane
  core (t : CoreTask) : w.core = some t → t.play.Sane

/-- Whatever else is done, as long as nobody leaves the line and no task is touched. -/
theorem Fit.of_same (fit : Fit w) (run : w'.isRunning = true → .run ∈ w'.line.members)
    (kept : ∀ a ∈ w.line.members, a ∈ w'.line.members) (backend : w'.backend = w.backend)
    (informers : w'.informers = w.informers) (core : w'.core = w.core) : Fit w' where
  run := run
  tasks task there := by
    have recording : w'.recording? = w.recording? := by rw [recording?, recording?, backend]
    have same := Untouched.of_same informers core recording task
    exact kept _ (fit.tasks task (same.hasTask_iff.1 there))
  backend b structured := fit.backend b (backend.symm.trans structured)
  informers t there := by
    rw [informers] at there
    exact fit.informers t there
  core t there := fit.core t (core.symm.trans there)

theorem Fit.of_line (fit : Fit w) {l : Line Agent}
    (kept : ∀ a ∈ w.line.members, a ∈ l.members) : Fit { w with line := l } :=
  fit.of_same (fun going => kept _ (fit.run going)) kept rfl rfl rfl

theorem Fit.of_surroundings (fit : Fit w) (s : Surroundings) : Fit { w with surroundings := s } :=
  fit.of_same fit.run (fun _ stands => stands) rfl rfl rfl

/-- What is recorded leaves the broadcaster sane. -/
theorem Fit.emit (fit : Fit w) {s : Surroundings} {scope : Scope} {component : String}
    {remark : Event.Remark} (b : Broadcaster)
    (emitted : (w.backend.emit s scope component remark).2 = .structured b) : b.Sane := by
  rcases Broadcaster.emit_cases s scope w.backend component remark with
    same | ⟨b', event, there, sent⟩
  · exact fit.backend b (same.symm.trans emitted)
  · rw [sent] at emitted
    cases emitted
    exact (fit.backend b' there).push event

/-- The tasks stay fit. -/
theorem Fit.taskStep (fit : Fit w) (step : TaskStep w task w') : Fit w' := by
  have same := step.hasTask_iff
  cases step with
  | @recording b b' r s structured started stepped =>
    refine ⟨fit.run, fun other present => fit.tasks other ((same other).1 present), ?_,
      fit.informers, fit.core⟩
    intro b'' there
    cases there
    exact (fit.backend b structured).stepped stepped
  | @informer i t move play s c l told found next works members =>
    refine ⟨?_, ?_, fit.backend, ?_, fit.core⟩
    · rw [members]
      exact fit.run
    · intro other present
      rw [members]
      exact fit.tasks other ((same other).1 present)
    · intro t' there
      rcases List.mem_or_eq_of_mem_set there with before | rfl
      · exact fit.informers t' before
      · have sane := fit.informers t (List.mem_of_getElem? found)
        exact (InformerTask.work_of_next? sane next).1
  | @core t move play s b found next told backend =>
    refine ⟨fit.run, fun other present => fit.tasks other ((same other).1 present), ?_,
      fit.informers, ?_⟩
    · rcases backend with rfl | ⟨remark, -, rfl⟩
      · exact fit.backend
      · exact fun b => fit.emit b
    · intro t' there
      cases there
      exact (fit.core t found).stepped (Performance.stepped_of_next? next)

/-! ### The work of the tasks -/

/-- **Work.** Every step of a task leaves less to do. -/
theorem TaskStep.work (fit : Fit w) (unstarted : w.started = false → w.informers = [])
    (step : TaskStep w task w') : w'.work < w.work := by
  cases step with
  | @recording b b' r s structured started stepped =>
    have used := Broadcaster.work_of_stepped started stepped
    show w.runWork + w.informersWork + w.coreWork + b'.work <
      w.runWork + w.informersWork + w.coreWork + w.backend.work
    rw [structured]
    exact Nat.add_lt_add_left used _
  | @informer i t move play s c l told found next works =>
    have sane := fit.informers t (List.mem_of_getElem? found)
    have less := (InformerTask.work_of_next? sane next).2
    have total := foldr_add_set_lt (fun t : InformerTask => t.work) found less
    have started : w.started = true := by
      cases started : w.started with
      | true => rfl
      | false => simp [unstarted started] at found
    show w.runWork + informersWork _ + w.coreWork + w.backend.work <
      w.runWork + w.informersWork + w.coreWork + w.backend.work
    simp only [informersWork, started, if_true]
    omega
  | @core t move play s b found next told backend =>
    have used := Performance.work_of_stepped CoreTask.weight (fit.core t found)
      (Performance.stepped_of_next? next)
    have more : b.work + CoreTask.work { t with play := play } < w.backend.work + t.work := by
      simp only [CoreTask.work]
      rcases backend with rfl | ⟨remark, rfl, rfl⟩
      · have cost : 1 ≤ move.cost CoreTask.weight := by
          cases move with
          | act a => cases a <;> simp [Move.cost, CoreTask.weight]
          | begin => exact Nat.le_refl 1
          | finish => exact Nat.le_refl 1
          | pass => exact Nat.le_refl 1
        omega
      · -- An event costs the recording two steps at most, and the core was counted for them.
        simp only [Move.cost, CoreTask.weight] at used
        rcases Broadcaster.emit_cases w.surroundings .core w.backend t.component remark with
          same | ⟨b, event, there, sent⟩
        · rw [same]
          omega
        · have two := Broadcaster.work_push (fit.backend b there) event
          rw [sent, there]
          simp only [Backend.work]
          omega
    show w.runWork + w.informersWork + CoreTask.work { t with play := play } + b.work <
      w.runWork + w.informersWork + w.coreWork + w.backend.work
    simp only [coreWork, found]
    omega

/-! ### The work of the run -/

/-- A bound on the number of steps to come, without those of the run itself. -/
def restWork (w : Scheduler) : Nat := w.informersWork + w.coreWork + w.backend.work

/-- What a run finds in the middle of its turn: it stands in the line itself, and the others have at
most so much to do. -/
structure Loaded (n : Nat) (w : Scheduler) : Prop where
  fit : Fit w
  run : .run ∈ w.line.members
  rest : w.restWork ≤ n

variable {n : Nat}

theorem Loaded.waits (h : Loaded n w) (s : Surroundings) (c : Cache) (run : RunState)
    (ready : Bool) :
    Loaded n { w with surroundings := s, cache := c, run := run, ready := ready } :=
  ⟨h.fit.of_same (fun _ => h.run) (fun _ stands => stands) rfl rfl rfl, h.run, h.rest⟩

/-- The core takes no more steps than was expected of it. -/
theorem Loaded.turned (h : Loaded n w) (none : w.core = none) (turned : Turned w w') :
    Loaded n w' := by
  cases turned with
  | waits s c run ready => exact h.waits s c run ready
  | admits s c run ready feeds =>
    have joined := Joined.toBack w.line .core
    refine ⟨⟨fun _ => joined.stays _ h.run, ?_, h.fit.backend,
      h.fit.informers, ?_⟩, joined.stays _ h.run, ?_⟩
    · intro other there
      cases other with
      | recording => exact joined.stays _ (h.fit.tasks .recording there)
      | informer i => exact joined.stays _ (h.fit.tasks (.informer i) there)
      | core => exact joined.joins _ List.mem_cons_self
    · intro t there
      cases there
      exact Performance.sane_ofScript _
    · have rest := h.rest
      simp only [restWork, coreWork, none] at rest
      exact rest

theorem Loaded.serve (h : Loaded n w) (ctx : Token) : Loaded n (w.serve ctx) := by
  unfold Scheduler.serve
  split
  · exact h.waits _ _ _ _
  · exact h.waits _ _ _ _

/-- To start the recording makes for two more steps. -/
theorem Recorded.work {b : Backend} {first : List Task} (recorded : Recorded w b first) :
    b.work ≤ w.backend.work + 2 := by
  cases recorded with
  | starts structured unrecorded =>
    rw [structured]
    simp only [Backend.work, Broadcaster.work, unrecorded]
    omega
  | leaves => omega

/-- What is launched takes no more steps than was expected, but two of the recording. -/
theorem Loaded.launchAll (h : Loaded n w) (fresh : w.started = false)
    (nobody : w.informers = []) : Loaded (n + 2) w.launchAll := by
  obtain ⟨s, c, b, first, l, recorded, joined, same⟩ := w.exists_launchAll
  -- Informers that have not been launched yet were counted all the same.
  have informers :
      ((w.drivers.map (·.task)).map (·.work)).foldr (· + ·) 0 = w.informersWork := by
    simp only [informersWork, fresh, Bool.false_eq_true, if_false, List.map_map]
    rfl
  rw [same, nobody, List.nil_append]
  rw [nobody, List.length_nil] at joined
  refine ⟨⟨fun _ => joined.stays _ h.run, ?_, ?_, ?_, h.fit.core⟩, joined.stays _ h.run, ?_⟩
  · intro other there
    cases other with
    | recording =>
      cases recorded with
      | starts => exact joined.joins _ List.mem_cons_self
      | leaves => exact joined.stays _ (h.fit.tasks .recording there)
    | informer i =>
      have inside : i < w.drivers.length := by simpa [HasTask] using there
      refine joined.joins _ (List.mem_append_right _ (List.mem_map.2 ⟨i, ?_, rfl⟩))
      simpa using inside
    | core => exact joined.stays _ (h.fit.tasks .core there)
  · intro b' there
    cases recorded with
    | starts structured unrecorded =>
      cases there
      exact ⟨(h.fit.backend _ structured).senders, (h.fit.backend _ structured).capacity⟩
    | leaves => exact h.fit.backend b' there
  · intro t there
    obtain ⟨d, -, rfl⟩ := List.mem_map.1 there
    exact Performance.sane_ofScript _
  · have rest := h.rest
    have work := recorded.work
    show ((w.drivers.map (·.task)).map (·.work)).foldr (· + ·) 0 + w.coreWork + b.work ≤ n + 2
    rw [informers]
    simp only [restWork] at rest
    omega

theorem runWork_eq (w : Scheduler) : w.runWork = w.run.work := by
  unfold runWork RunState.work
  rfl

theorem work_outlookServing (w : Scheduler) (ctx : Token) :
    (w.outlookServing ctx).work = if w.isCancelled .shutdown then 0 else 1 := by
  unfold outlookServing
  split
  · rfl
  · rfl

/-- A run that comes to the feeds has less to do if it need not wait for them. -/
theorem work_outlookFeeds (w : Scheduler) (ctx : Token) :
    (w.outlookFeeds ctx).work ≤ if w.isCancelled ctx || w.cache.gate.allSynced then 1 else 2 := by
  unfold outlookFeeds
  split
  · exact Nat.zero_le _
  · next kept =>
    split
    · next synced =>
      rw [work_outlookServing, synced, Bool.or_true]
      split
      · exact Nat.zero_le _
      · exact Nat.le_refl _
    · next behind => simp [kept, behind, RunState.work]

/-- The same of one that comes to its factory. -/
theorem work_outlookFactory (w : Scheduler) (ctx : Token) (asked : Nat) :
    (w.outlookFactory ctx asked).work ≤
      if w.isCancelled ctx || w.factoryReported asked then 2 else 3 := by
  unfold outlookFactory
  split
  · exact Nat.zero_le _
  · next kept =>
    split
    · next reported =>
      have feeds := w.work_outlookFeeds ctx
      rw [reported, Bool.or_true]
      split at feeds
      · exact Nat.le_succ_of_le feeds
      · exact feeds
    · next unreported => simp [kept, unreported, RunState.work]

/-- **Work.** Every turn of the run leaves less to do, also one that launches something. -/
theorem work_pollRun? {mark : Nat} (fit : Fit w) (order : InOrder mark w)
    (next : w.pollRun? = some w') : Fit w' ∧ w'.work < w.work := by
  obtain ⟨ctx, phase, going, able, rfl⟩ := exists_of_pollRun? next
  have stands : .run ∈ w.line.members := fit.run (by rw [isRunning, going])
  have loaded : Loaded w.restWork w := ⟨fit, stands, Nat.le_refl _⟩
  have parts (v : Scheduler) : v.work = v.run.work + v.restWork := by
    simp only [work, restWork, ← runWork_eq]
    omega
  have run := (w.proceed_spec ctx phase).2.1
  have ordered := order.run
  -- What the others have to do grows by two at most, and only when the run enters.
  rw [parts, parts, run, going]
  rw [going] at ordered
  cases phase with
  | entered =>
    cases fresh : w.started with
    | true =>
      have ends : Loaded w.restWork (w.enter ctx) := by
        rw [enter, if_pos fresh]
        exact loaded.waits _ _ _ _
      have rest := ends.rest
      refine ⟨ends.fit, ?_⟩
      simp only [proceed, outlook, fresh, if_true, RunState.work]
      omega
    | false =>
      obtain ⟨core, informers⟩ := order.orderly.unstarted fresh
      have core' : w.launchAll.core = none := by
        obtain ⟨s, c, b, first, l, -, -, same⟩ := w.exists_launchAll
        rw [same]
        exact core
      have later := (loaded.launchAll fresh informers).turned core' (turned_awaitCaches _ ctx)
      rw [← enter_of_fresh fresh] at later
      have rest := later.rest
      have outlook := w.work_outlookFactory ctx w.surroundings.now
      refine ⟨later.fit, ?_⟩
      simp only [proceed, Scheduler.outlook, fresh, Bool.false_eq_true, if_false]
      show (w.outlookFactory ctx w.surroundings.now).work + _ < 6 + _
      split at outlook
      · omega
      · omega
  | awaitingFactory asked =>
    have later := loaded.turned ordered.2.1 (turned_awaitFactory w ctx asked)
    have rest := later.rest
    have outlook := w.work_outlookFactory ctx asked
    rw [runCanProceed] at able
    rw [able] at outlook
    refine ⟨later.fit, ?_⟩
    simp only [if_true] at outlook
    show (w.outlookFactory ctx asked).work + (w.awaitFactory ctx asked).restWork < 3 + _
    omega
  | awaitingFeeds =>
    have later := loaded.turned ordered.2.1 (turned_awaitFeeds w ctx)
    have rest := later.rest
    have outlook := w.work_outlookFeeds ctx
    rw [runCanProceed] at able
    rw [able] at outlook
    refine ⟨later.fit, ?_⟩
    simp only [if_true] at outlook
    show (w.outlookFeeds ctx).work + (w.awaitFeeds ctx).restWork < 2 + _
    omega
  | serving =>
    have later := loaded.serve ctx
    have rest := later.rest
    have outlook := w.work_outlookServing ctx
    rw [runCanProceed] at able
    rw [able] at outlook
    refine ⟨later.fit, ?_⟩
    simp only [if_true] at outlook
    show (w.outlookServing ctx).work + (w.serve ctx).restWork < 1 + _
    omega

/-! ### Alarms -/

/-- Whoever waits for a moment is an informer, the core, the factory or the sink. -/
theorem mem_alarms_iff {due : Nat} :
    due ∈ w.alarms ↔ (∃ t ∈ w.informers, due ∈ t.play.alarms) ∨
      (∃ t, w.core = some t ∧ due ∈ t.play.alarms) ∨ due ∈ w.factoryAlarm ∨
        due ∈ w.backend.alarms := by
  simp only [alarms, List.mem_append, List.mem_flatMap, or_assoc]
  cases w.core with
  | none => simp
  | some t => simp

/-- The factory reports when its alarm is due. -/
theorem canGoOn_of_factoryAlarm {due : Nat} (alarm : due ∈ w.factoryAlarm)
    (passed : due ≤ w.surroundings.now) : w.canGoOn .run = true := by
  unfold factoryAlarm at alarm
  split at alarm
  · next ctx asked going =>
    simp only [Option.mem_toList, Option.map_eq_some_iff] at alarm
    obtain ⟨delay, there, rfl⟩ := alarm
    simp [canGoOn, going, runCanProceed, factoryReported, InformerFactory.hasReported, there,
      passed]
  · cases alarm

/-- Somebody can go on when an alarm is due. -/
theorem exists_canGoOn (fit : Fit w) {due : Nat} (alarm : due ∈ w.alarms)
    (passed : due ≤ w.surroundings.now) : ∃ a, w.canGoOn a = true := by
  rcases mem_alarms_iff.1 alarm with ⟨t, there, waits⟩ | ⟨t, there, waits⟩ | waits | waits
  · obtain ⟨i, found⟩ := List.mem_iff_getElem?.1 there
    refine ⟨.task (.informer i), ?_⟩
    rw [canGoOn, found, Option.any_some]
    exact Performance.isSome_next?_of_due (fit.informers t there) waits passed
  · refine ⟨.task .core, ?_⟩
    rw [canGoOn, there, Option.any_some]
    exact Performance.isSome_next?_of_due (fit.core t there) waits passed
  · exact ⟨.run, canGoOn_of_factoryAlarm waits passed⟩
  · refine ⟨.task .recording, ?_⟩
    cases structured : w.backend with
    | legacy =>
      rw [structured] at waits
      cases waits
    | structured b =>
      rw [structured] at waits
      rw [canGoOn, structured, Backend.step?, Option.isSome_map]
      exact Broadcaster.isSome_step?_of_due waits passed

/-- A run that can go on later, but not now, waits for its factory. -/
theorem due_of_runCanProceed {t : Nat} {ctx : Token} {phase : RunPhase}
    (going : w.run = .going ctx phase)
    (able : runCanProceed (Machine.setNow t w) ctx phase = true) :
    w.runCanProceed ctx phase = true ∨ ∃ due ∈ w.factoryAlarm, due ≤ t := by
  cases phase with
  | entered => exact .inl rfl
  | awaitingFactory asked =>
    simp only [runCanProceed, factoryReported, InformerFactory.hasReported, Bool.or_eq_true]
      at able ⊢
    rcases able with cancelled | passed | down
    · exact .inl (.inl cancelled)
    · right
      obtain ⟨delay, there, due⟩ := (Option.any_eq_true _ _).1 passed
      refine ⟨asked + delay, ?_, of_decide_eq_true due⟩
      simp only [factoryAlarm, going]
      have there : w.parts.informerFactory.delay = some delay := there
      simp [there]
    · exact .inl (.inr (.inr down))
  | awaitingFeeds => exact .inl able
  | serving => exact .inl able

/-- Nobody becomes able before an alarm is due. -/
theorem due_of_canGoOn {t : Nat} {a : Agent} (able : canGoOn (Machine.setNow t w) a = true) :
    w.canGoOn a = true ∨ ∃ due ∈ w.alarms, due ≤ t := by
  cases a with
  | run =>
    cases going : w.run with
    | idle =>
      have none : (Machine.setNow t w).run = .idle := going
      simp [canGoOn, none] at able
    | returned time outcome =>
      have none : (Machine.setNow t w).run = .returned time outcome := going
      simp [canGoOn, none] at able
    | going ctx phase =>
      have same : (Machine.setNow t w).run = .going ctx phase := going
      simp only [canGoOn, same] at able
      rcases due_of_runCanProceed going able with now | ⟨due, waits, passed⟩
      · left
        simpa only [canGoOn, going] using now
      · exact .inr ⟨due, mem_alarms_iff.2 (.inr (.inr (.inl waits))), passed⟩
  | task task =>
    cases task with
    | recording =>
      cases structured : w.backend with
      | legacy =>
        have none : (Machine.setNow t w).backend = .legacy := structured
        simp [canGoOn, none, Backend.step?] at able
      | structured b =>
        have same : (Machine.setNow t w).backend = .structured b := structured
        rw [canGoOn, same, Backend.step?, Option.isSome_map] at able
        rcases Broadcaster.due_of_isSome_step? able with now | ⟨due, waits, passed⟩
        · left
          rw [canGoOn, structured, Backend.step?, Option.isSome_map]
          exact now
        · refine .inr ⟨due, mem_alarms_iff.2 (.inr (.inr (.inr ?_))), passed⟩
          rw [structured]
          exact waits
    | informer i =>
      obtain ⟨t', found, goes⟩ := (Option.any_eq_true _ _).1 able
      have found : w.informers[i]? = some t' := found
      rcases Performance.due_of_isSome_next? w.surroundings.now goes with
        now | ⟨due, waits, passed⟩
      · left
        rw [canGoOn, found, Option.any_some]
        exact now
      · exact .inr ⟨due, mem_alarms_iff.2 (.inl ⟨t', List.mem_of_getElem? found, waits⟩), passed⟩
    | core =>
      obtain ⟨t', found, goes⟩ := (Option.any_eq_true _ _).1 able
      have found : w.core = some t' := found
      rcases Performance.due_of_isSome_next? w.surroundings.now goes with
        now | ⟨due, waits, passed⟩
      · left
        rw [canGoOn, found, Option.any_some]
        exact now
      · exact .inr ⟨due, mem_alarms_iff.2 (.inr (.inl ⟨t', found, waits⟩)), passed⟩

/-- Whoever can go on stands in the line. -/
theorem Fit.mem_of_canGoOn (fit : Fit w) {a : Agent} (able : w.canGoOn a = true) :
    a ∈ w.line.members := by
  cases a with
  | run =>
    apply fit.run
    cases going : w.run with
    | idle => simp [canGoOn, going] at able
    | returned time outcome => simp [canGoOn, going] at able
    | going ctx phase => simp [isRunning, going]
  | task task =>
    apply fit.tasks
    cases task with
    | recording =>
      cases structured : w.backend with
      | legacy => simp [canGoOn, structured, Backend.step?] at able
      | structured b =>
        rw [canGoOn, structured, Backend.step?, Option.isSome_map] at able
        obtain ⟨⟨s, b'⟩, stepped⟩ := Option.isSome_iff_exists.1 able
        obtain ⟨r, started, -⟩ := Broadcaster.stepped_of_step? stepped
        rw [HasTask, recording?, structured]
        simp [Backend.broadcaster?, started]
    | informer i =>
      obtain ⟨t, found, -⟩ := (Option.any_eq_true _ _).1 able
      exact (List.getElem?_eq_some_iff.1 found).1
    | core =>
      obtain ⟨t, found, -⟩ := (Option.any_eq_true _ _).1 able
      rw [HasTask, found]
      rfl

/-! ## Soundness -/

/-- A scheduler that is fit, in the life of another,
whose outstanding tasks have been left alone. -/
structure Reached (w₀ w : Scheduler) : Prop where
  fit : Fit w
  life : Life w₀ w
  intact : Intact w

theorem outstanding_taskStep (step : TaskStep w task w') : w'.outstanding = w.outstanding := by
  cases step with
  | recording => rfl
  | informer => rfl
  | core => rfl

theorem Reached.pollRun? (fresh : Fresh w₀) (h : Reached w₀ w) (next : w.pollRun? = some w') :
    Reached w₀ w' := by
  have order := fresh.inOrder.life h.life
  have listed := fresh.listed.life fresh.inOrder h.life
  exact ⟨(work_pollRun? h.fit order next).1, h.life.tail (.stirred (.polled .run next)),
    intact_pollRun? order listed h.intact next⟩

theorem Reached.pollTask? (h : Reached w₀ w) (next : w.pollTask? task = some w') :
    Reached w₀ w' := by
  have step := taskStep_of_pollTask? next
  exact ⟨h.fit.taskStep step, h.life.tail (.stirred (.polled (.task task) next)),
    h.intact.of_spares step.spares (fun other there => (step.hasTask_iff other).2 there)
      (outstanding_taskStep step)⟩

/-- **Soundness.** In the life of a scheduler that has been constructed, steps use up work, whoever
can go on stands in the line, and nobody becomes able before an alarm is due. -/
theorem sound_reached (fresh : Fresh w₀) : Machine.Sound (Reached w₀) where
  of_poll {a w w'} h next := by
    cases a with
    | run => exact h.pollRun? fresh next
    | task task => exact h.pollTask? next
  of_line h kept := ⟨h.fit.of_line kept, h.life.tail (.stirred (.lined _)), h.intact⟩
  of_time h later := ⟨h.fit.of_surroundings _, h.life.tail (.elapsed _ later), h.intact⟩
  now_poll {a w w'} h next := by
    cases a with
    | run =>
      obtain ⟨ctx, phase, -, -, rfl⟩ := exists_of_pollRun? next
      exact (w.proceed_spec ctx phase).1.surroundings.now
    | task task => exact (taskStep_of_pollTask? next).extends.now
  work_poll {a w w'} h next := by
    have order := fresh.inOrder.life h.life
    cases a with
    | run => exact (work_pollRun? h.fit order next).2
    | task task =>
      exact (taskStep_of_pollTask? next).work h.fit fun never => (order.orderly.unstarted never).2
  able_mem {a w} h able := by
    rw [isAble_eq] at able
    exact h.fit.mem_of_canGoOn able
  able_of_due {w due} h alarm passed := by
    obtain ⟨a, able⟩ := exists_canGoOn h.fit alarm passed
    exact ⟨a, (w.isAble_eq a).trans able⟩
  due_of_able {a w t} _ _ able := by
    rw [isAble_eq] at able ⊢
    exact due_of_canGoOn able

end Scheduler

end SchedulerHost.Host
