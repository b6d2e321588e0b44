import SchedulerHost.Proofs.Scheduler.Attaining

/-!
# The books of a scheduler

A life along with its books: when the run was called, which tasks its turns have started, and what
became of them at the hands of drains.

* **What a turn starts** (`launches_pollRun?`) is outstanding after it.
* `Booked`: a life with its books. A drain takes over what is outstanding, waits for one task after
  the other up to its deadline, and is done with it.
* **Calls** (`called_of_booked`): a call is answered at the moment at which it was made, and only
  the first of them finds a scheduler that has not been started.
* **Balance** (`balanced_of_booked`): each task that was started is outstanding or in the hands of
  one drain, and nothing is outstanding any more after a drain that follows the first call.
-/

namespace SchedulerHost.Host

namespace Scheduler

variable {mark : Nat} {w₀ w w' w'' : Scheduler} {task : Task} {tasks more : List Task}

/-! ### What a turn starts -/

/-- Whoever was not there and is there now is outstanding. -/
structure Launches (w w' : Scheduler) (tasks : List Task) : Prop where
  nodup : tasks.Nodup
  new (task : Task) : task ∈ tasks ↔ ¬w.HasTask task ∧ w'.HasTask task
  stays (task : Task) : w.HasTask task → w'.HasTask task
  outstanding : w'.outstanding = w.outstanding ++ tasks

theorem Launches.trans (first : Launches w w' tasks) (last : Launches w' w'' more) :
    Launches w w'' (tasks ++ more) where
  nodup := by
    rw [List.nodup_append]
    refine ⟨first.nodup, last.nodup, ?_⟩
    -- Whoever comes later was not there before, but the first are.
    rintro task before _ after rfl
    exact ((last.new task).1 after).1 ((first.new task).1 before).2
  new task := by
    rw [List.mem_append, first.new, last.new]
    constructor
    · rintro (⟨absent, there⟩ | ⟨absent, there⟩)
      · exact ⟨absent, last.stays task there⟩
      · exact ⟨fun before => absent (first.stays task before), there⟩
    · rintro ⟨absent, there⟩
      by_cases between : w'.HasTask task
      · exact .inl ⟨absent, between⟩
      · exact .inr ⟨between, there⟩
  stays task there := last.stays task (first.stays task there)
  outstanding := by rw [last.outstanding, first.outstanding, List.append_assoc]

theorem Launches.of_same (informers : w'.informers = w.informers) (core : w'.core = w.core)
    (recording : w'.recording? = w.recording?) (outstanding : w'.outstanding = w.outstanding) :
    Launches w w' [] := by
  have same (task : Task) := (Untouched.of_same informers core recording task).hasTask_iff
  refine ⟨List.nodup_nil, ?_, fun task there => (same task).2 there, by simp [outstanding]⟩
  intro task
  simp [same]

theorem Turned.launches (none : w.core = none) (turned : Turned w w') :
    ∃ tasks, Launches w w' tasks := by
  cases turned with
  | waits => exact ⟨[], .of_same rfl rfl rfl rfl⟩
  | admits s c run ready feeds =>
    refine ⟨[.core], by simp, ?_, ?_, rfl⟩
    · intro task
      cases task with
      | recording => simp [HasTask, recording?]
      | informer i => simp [HasTask]
      | core => simp [HasTask, none]
    · intro task there
      cases task with
      | recording => exact there
      | informer i => exact there
      | core => rfl

theorem launches_launchAll (nobody : w.informers = []) : ∃ tasks, Launches w w.launchAll tasks := by
  obtain ⟨s, c, b, first, l, recorded, -, same⟩ := w.exists_launchAll
  have informers (i : Nat) : w.launchAll.HasTask (.informer i) ↔ i < w.drivers.length := by
    simp [same, HasTask, nobody]
  have core : w.launchAll.core = w.core := by rw [same]
  have outstanding : w.launchAll.outstanding =
      w.outstanding ++ (first ++ (List.range w.drivers.length).map .informer) := by
    rw [same, nobody, List.append_assoc, List.range_eq_range']
    rfl
  have apart : ((List.range w.drivers.length).map Task.informer).Nodup := by
    rw [List.Nodup, List.pairwise_map]
    exact List.nodup_range.imp fun differs shared => differs (by simpa using shared)
  -- The recording is launched only if nobody has started it before.
  have records : (first = [] ∧ (w.launchAll.HasTask .recording ↔ w.HasTask .recording)) ∨
      (first = [.recording] ∧ ¬w.HasTask .recording ∧ w.launchAll.HasTask .recording) := by
    rw [same]
    cases recorded with
    | starts structured unrecorded =>
      refine .inr ⟨rfl, ?_, rfl⟩
      simp [HasTask, recording?_of_structured structured, unrecorded]
    | leaves => exact .inl ⟨rfl, .rfl⟩
  refine ⟨_, ?_, ?_, ?_, outstanding⟩
  · rcases records with ⟨rfl, -⟩ | ⟨rfl, -⟩
    · exact apart
    · simpa using apart
  · intro task
    cases task with
    | recording =>
      rcases records with ⟨rfl, stays⟩ | ⟨rfl, absent, there⟩
      · simp [stays]
      · simp [absent, there]
    | informer i =>
      have absent : ¬w.HasTask (.informer i) := by simp [HasTask, nobody]
      rcases records with ⟨rfl, -⟩ | ⟨rfl, -⟩
      · simp [informers, absent]
      · simp [informers, absent]
    | core =>
      have stays : w.launchAll.HasTask .core ↔ w.HasTask .core := by rw [HasTask, HasTask, core]
      rcases records with ⟨rfl, -⟩ | ⟨rfl, -⟩
      · simp [stays]
      · simp [stays]
  · exact fun task there => (untouched_launchAll nobody there).hasTask_iff.2 there

/-- **What a turn starts** is outstanding after it, each task once. -/
theorem launches_pollRun? (order : InOrder mark w) (next : w.pollRun? = some w') :
    ∃ tasks, Launches w w' tasks := by
  obtain ⟨ctx, phase, going, -, rfl⟩ := exists_of_pollRun? next
  have run := order.run
  rw [going] at run
  cases phase with
  | entered =>
    cases started : w.started with
    | true =>
      rw [proceed, enter, if_pos started]
      exact ⟨[], .of_same rfl rfl rfl rfl⟩
    | false =>
      obtain ⟨core, informers⟩ := order.orderly.unstarted started
      obtain ⟨tasks, first⟩ := launches_launchAll informers
      have core' : w.launchAll.core = none := by
        obtain ⟨s, c, b, first, l, -, -, same⟩ := w.exists_launchAll
        rw [same]
        exact core
      obtain ⟨more, last⟩ := (turned_awaitCaches w.launchAll ctx).launches core'
      rw [proceed, enter_of_fresh started]
      exact ⟨_, first.trans last⟩
  | awaitingFactory asked => exact (turned_awaitFactory w ctx asked).launches run.2.1
  | awaitingFeeds => exact (turned_awaitFeeds w ctx).launches run.2.1
  | serving =>
    rw [proceed, serve]
    split
    · exact ⟨[], .of_same rfl rfl rfl rfl⟩
    · exact ⟨[], .of_same rfl rfl rfl rfl⟩

/-- A turn of the run starts a task. -/
def Starts (w : Scheduler) (task : Task) (w' : Scheduler) : Prop :=
  w.pollRun? = some w' ∧ ¬w.HasTask task ∧ w'.HasTask task

/-- Whatever happens at a moment, what a turn of the run has started is outstanding, and nothing
else has become so. -/
theorem Stir.starts (order : InOrder mark w) (stir : Stir w w') :
    ∃ tasks : List Task, tasks.Nodup ∧ (∀ task, task ∈ tasks ↔ w.Starts task w') ∧
      w'.outstanding = w.outstanding ++ tasks := by
  by_cases turn : w.pollRun? = some w'
  · obtain ⟨tasks, launches⟩ := launches_pollRun? order turn
    exact ⟨tasks, launches.nodup, fun task => by simp [launches.new, Starts, turn],
      launches.outstanding⟩
  · have same : w'.outstanding = w.outstanding := by
      rcases stir.kinds with turn' | ⟨task, step⟩ | asked | ⟨l, rfl⟩
      · exact absurd turn' turn
      · exact outstanding_taskStep step
      · exact asked.outstanding
      · rfl
    exact ⟨[], List.nodup_nil, fun task => by simp [Starts, turn], by simp [same]⟩

/-! ### Books -/

/-- What a drain makes of a task. -/
inductive Verdict where
  /-- It was over in time. -/
  | awaited
  /-- It was ended from outside. -/
  | aborted
deriving DecidableEq

/-- What is known of a drain: whether the scheduler had been started before, and the tasks it is
done with. -/
structure Drainage where
  follows : Bool
  handled : List (Task × Verdict)

def Drainage.add (d : Drainage) (task : Task) (verdict : Verdict) : Drainage :=
  { d with handled := d.handled ++ [(task, verdict)] }

/-- What is known of a life: the moments at which the run was called and the drains, the latest
first, the tasks that turns of the run have started, and the deadline of a drain that is in progress
with the tasks it has still to deal with. -/
structure Books where
  calls : List Nat
  started : List Task
  drains : List Drainage
  draining : Option (Nat × List Task)

namespace Books

/-- What drains have made of the tasks they are done with. -/
def handled (b : Books) : List (Task × Verdict) := b.drains.flatMap (·.handled)

def dealt (b : Books) : List Task := b.handled.map (·.1)

/-- The tasks that a drain in progress has still to deal with. -/
def todo (b : Books) : List Task := (b.draining.map (·.2)).getD []

def blank : Books := ⟨[], [], [], none⟩

theorem handled_add {b b' : Books} {d : Drainage} {earlier : List Drainage} {task : Task}
    {verdict : Verdict} (latest : b.drains = d :: earlier)
    (added : b'.drains = d.add task verdict :: earlier) :
    b'.handled.Perm ((task, verdict) :: b.handled) := by
  simp only [handled, latest, added, Drainage.add, List.flatMap_cons, List.append_assoc]
  exact List.perm_middle

end Books

/-- What a drain makes of a task that it is done with now. -/
def verdict (w : Scheduler) (task : Task) : Verdict :=
  if (w.fate task).isOver then .awaited else .aborted

/-- A life with its books. A call of the run is answered before time goes on; while a run or a drain
is in progress no other is begun. -/
inductive Booked (w₀ : Scheduler) : Books → Scheduler → Prop
  | constructed : Booked w₀ .blank w₀
  | stirred {b : Books} {w w' : Scheduler} (before : Booked w₀ b w) (stir : Stir w w')
    (tasks : List Task) (nodup : tasks.Nodup) (new : ∀ task, task ∈ tasks ↔ w.Starts task w') :
    Booked w₀ { b with started := b.started ++ tasks } w'
  | elapsed {b : Books} {w : Scheduler} (before : Booked w₀ b w) (t : Nat)
    (later : w.surroundings.now ≤ t) (answered : ∀ ctx, w.run ≠ .going ctx .entered) :
    Booked w₀ b (Machine.setNow t w)
  | called {b : Books} {w : Scheduler} (before : Booked w₀ b w) (ctx : Token)
    (free : w.isRunning = false) (undrained : b.draining = none) :
    Booked w₀ { b with calls := w.surroundings.now :: b.calls } (w.beginRun ctx)
  | takenOver {b : Books} {w : Scheduler} (before : Booked w₀ b w) (ms : Nat)
    (free : w.isRunning = false) (undrained : b.draining = none) :
    Booked w₀
      { b with
        drains := ⟨w.started, []⟩ :: b.drains
        draining := some (w.surroundings.now + ms, w.outstanding) }
      w.handedOver
  | settled {b : Books} {d : Drainage} {earlier : List Drainage} {deadline : Nat} {task : Task}
    {rest : List Task} {w : Scheduler} (before : Booked w₀ b w) (latest : b.drains = d :: earlier)
    (draining : b.draining = some (deadline, task :: rest))
    (ready : (w.fate task).isOver = true ∨ deadline ≤ w.surroundings.now) :
    Booked w₀
      { b with
        drains := d.add task (w.verdict task) :: earlier, draining := some (deadline, rest) }
      (w.settleTask task).1
  | concluded {b : Books} {deadline : Nat} {w : Scheduler} (before : Booked w₀ b w)
    (draining : b.draining = some (deadline, [])) (n : Notice)
    (final : n = .drained ∨ ∃ names, n = .drainTimedOut names) :
    Booked w₀ { b with draining := none } (w.note n)

variable {b : Books}

theorem Booked.life (booked : Booked w₀ b w) : Life w₀ w := by
  induction booked with
  | constructed => exact .refl
  | stirred _ stir _ _ _ ih => exact ih.tail (.stirred stir)
  | elapsed _ t later _ ih => exact ih.tail (.elapsed t later)
  | called _ ctx free _ ih => exact ih.tail (.begun ctx free)
  | takenOver _ _ free _ ih => exact ih.tail (.takenOver free)
  | settled _ _ _ _ ih => exact ih.tail (.settled _)
  | concluded _ _ n final ih => exact ih.tail (.concluded n final)

/-! ### Calls -/

/-- How the calls of the run agree with what has become of it. -/
structure Called (b : Books) (w : Scheduler) : Prop where
  uncalled : b.calls = [] → w.run = .idle ∧ w.started = false
  entered (ctx : Token) : w.run = .going ctx .entered →
    ∃ earlier, b.calls = w.surroundings.now :: earlier ∧ (w.started = true ↔ earlier ≠ [])
  answered : b.calls ≠ [] → (∀ ctx, w.run ≠ .going ctx .entered) → w.started = true
  /-- A call that is not the first is refused at the moment at which it was made. -/
  refused (time : Nat) (earlier : List Nat) : b.calls = time :: earlier → earlier ≠ [] →
    (∀ ctx, w.run ≠ .going ctx .entered) → w.run = .returned time (.error .alreadyStarted)

/-- The run is not touched. -/
theorem Called.of_same {b' : Books} (h : Called b w) (calls : b'.calls = b.calls)
    (run : w'.run = w.run) (started : w'.started = w.started)
    (now : w'.surroundings.now = w.surroundings.now) : Called b' w' where
  uncalled none := by
    rw [run, started]
    exact h.uncalled (calls.symm.trans none)
  entered ctx going := by
    rw [calls, started, now]
    exact h.entered ctx (run.symm.trans going)
  answered some taken := by
    rw [started]
    rw [calls] at some
    rw [run] at taken
    exact h.answered some taken
  refused time earlier made again taken := by
    rw [run] at taken ⊢
    exact h.refused time earlier (calls.symm.trans made) again taken

/-- After its first turn a run waits for something else. -/
theorem outlook_ne_entered (w : Scheduler) (ctx : Token) (phase : RunPhase) (other : Token) :
    w.outlook ctx phase ≠ .going other .entered := by
  have serving : w.outlookServing ctx ≠ .going other .entered := by
    unfold outlookServing
    split <;> simp
  have feeds : w.outlookFeeds ctx ≠ .going other .entered := by
    unfold outlookFeeds
    split
    · simp
    · split
      · exact serving
      · simp
  have factory (asked : Nat) : w.outlookFactory ctx asked ≠ .going other .entered := by
    unfold outlookFactory
    split
    · simp
    · split
      · exact feeds
      · simp
  cases phase with
  | entered =>
    rw [outlook]
    split
    · simp
    · exact factory _
  | awaitingFactory asked => exact factory asked
  | awaitingFeeds => exact feeds
  | serving => exact serving

/-- A run that waits for something has had its first turn. -/
theorem taken_of_going {ctx : Token} {phase : RunPhase} (going : w.run = .going ctx phase)
    (later : phase ≠ .entered) (other : Token) : w.run ≠ .going other .entered := by
  rw [going]
  rintro ⟨⟩
  exact later rfl

/-- A run that has had a turn has started the scheduler, or found it started. -/
theorem Called.turn (h : Called b w) (turn : w.pollRun? = some w') :
    w'.started = true ∧ ∀ ctx, w'.run ≠ .going ctx .entered := by
  obtain ⟨ctx, phase, going, place⟩ := turned_of_pollRun? turn
  refine ⟨?_, ?_⟩
  · rcases place with ⟨-, -, turned⟩ | ⟨begun, turned⟩
    · obtain ⟨s, c, b, first, l, -, -, same⟩ := w.exists_launchAll
      rw [turned.informers.2, same]
    · rw [turned.informers.2]
      by_cases entered : phase = .entered
      · exact begun entered
      · refine h.answered ?_ (taken_of_going going entered)
        intro none
        rw [(h.uncalled none).1] at going
        contradiction
  · intro other
    obtain ⟨ctx', phase', -, -, rfl⟩ := exists_of_pollRun? turn
    rw [(w.proceed_spec ctx' phase').2.1]
    exact w.outlook_ne_entered ctx' phase' other

/-- What a turn makes of a call that is not the first. -/
theorem Called.refuses (h : Called b w) (turn : w.pollRun? = some w') {time : Nat}
    {earlier : List Nat} (made : b.calls = time :: earlier) (again : earlier ≠ []) :
    w'.run = .returned time (.error .alreadyStarted) := by
  obtain ⟨ctx, phase, going, -, rfl⟩ := exists_of_pollRun? turn
  rw [(w.proceed_spec ctx phase).2.1]
  by_cases entered : phase = .entered
  · subst entered
    obtain ⟨earlier', made', started⟩ := h.entered ctx going
    rw [made, List.cons.injEq] at made'
    rw [outlook, if_pos (started.2 (made'.2 ▸ again)), made'.1]
  · -- A run that goes on beyond its first turn is that of the first call.
    rw [h.refused time earlier made again (taken_of_going going entered)] at going
    contradiction

/-- **Calls.** A call that has not been answered was made at this very moment; it finds the
scheduler started unless it is the first, and is refused then. -/
theorem called_of_booked (fresh : Fresh w₀) (booked : Booked w₀ b w) : Called b w := by
  induction booked with
  | constructed =>
    refine ⟨fun _ => ⟨fresh.run, fresh.started⟩, ?_, fun some _ => absurd rfl some, nofun⟩
    intro ctx going
    rw [fresh.run] at going
    contradiction
  | @stirred b w w' before stir tasks nodup new ih =>
    rcases stir.cases with turn | ⟨aside, now⟩
    · obtain ⟨started, answered⟩ := ih.turn turn
      refine ⟨?_, fun ctx going => absurd going (answered ctx), fun _ _ => started,
        fun time earlier made again _ => ih.refuses turn made again⟩
      intro none
      obtain ⟨ctx, phase, going, -, -⟩ := exists_of_pollRun? turn
      rw [(ih.uncalled none).1] at going
      contradiction
    · exact ih.of_same rfl aside.run aside.started now
  | elapsed before t later answered ih =>
    exact ⟨ih.uncalled, fun ctx going => absurd going (answered ctx), ih.answered, ih.refused⟩
  | @called b w before ctx free undrained ih =>
    refine ⟨nofun, ?_, fun _ answered => absurd rfl (answered ctx),
      fun _ _ _ _ answered => absurd rfl (answered ctx)⟩
    intro other going
    refine ⟨b.calls, rfl, ?_⟩
    constructor
    · rintro started none
      have started : w.started = true := started
      rw [(ih.uncalled none).2] at started
      contradiction
    · intro some
      refine ih.answered some ?_
      intro other going
      simp [isRunning, going] at free
  | takenOver before ms free undrained ih => exact ih.of_same rfl rfl rfl rfl
  | @settled b d earlier deadline task rest w before latest draining ready ih =>
    have aside := aside_settleTask w task
    exact ih.of_same rfl aside.run aside.started (now_settleTask w task)
  | concluded before draining n final ih => exact ih.of_same rfl rfl rfl rfl

/-! ### Balance -/

/-- What a drain has made of a task is so for good. -/
def Settled (w : Scheduler) (task : Task) : Verdict → Prop
  | .awaited => (w.fate task).isOver = true ∧ ¬IsCut w task
  | .aborted => IsCut w task

/-- What the books tell of the tasks agrees with what has become of them. -/
structure Balanced (b : Books) (w : Scheduler) : Prop where
  /-- No task is started twice. -/
  once : b.started.Nodup
  there (task : Task) : task ∈ b.started → w.HasTask task
  /-- Each task that was started has been dealt with by one drain, or is to be dealt with by one, or
  is outstanding. -/
  balance : (b.dealt ++ b.todo ++ w.outstanding).Perm b.started
  settled (task : Task) (verdict : Verdict) : (task, verdict) ∈ b.handled → w.Settled task verdict
  whole (task : Task) : task ∈ b.todo ++ w.outstanding → ¬IsCut w task
  /-- Nothing is outstanding after a drain that follows the first call. -/
  cleared (d : Drainage) : d ∈ b.drains → d.follows = true → Cleared w

theorem Settled.mono {verdict : Verdict} (h : w.Settled task verdict) (final : Final w w')
    (spares : IsCut w' task → IsCut w task) : w'.Settled task verdict := by
  cases verdict with
  | awaited => exact ⟨final.isOver h.1, fun cut => h.2 (spares cut)⟩
  | aborted => exact final.isCut h

theorem Balanced.mem_started (h : Balanced b w)
    (member : task ∈ b.dealt ++ b.todo ++ w.outstanding) : task ∈ b.started :=
  h.balance.mem_iff.1 member

theorem Balanced.hasTask_of_handled (h : Balanced b w) {verdict : Verdict}
    (member : (task, verdict) ∈ b.handled) : w.HasTask task := by
  refine h.there task (h.mem_started ?_)
  rw [List.append_assoc]
  exact List.mem_append_left _ (List.mem_map.2 ⟨_, member, rfl⟩)

/-- What a drain has still to deal with is there. -/
theorem Balanced.hasTask_of_left (h : Balanced b w) (member : task ∈ b.todo ++ w.outstanding) :
    w.HasTask task := by
  refine h.there task (h.mem_started ?_)
  rw [List.append_assoc]
  exact List.mem_append_right _ member

/-- The tasks are not touched, and the books stay as they are but for the calls. -/
theorem Balanced.of_same {b' : Books} (h : Balanced b w) (started : b'.started = b.started)
    (drains : b'.drains = b.drains) (todo : b'.todo = b.todo)
    (informers : w'.informers = w.informers) (core : w'.core = w.core)
    (recording : w'.recording? = w.recording?) (outstanding : w'.outstanding = w.outstanding)
    (cleared : Cleared w → Cleared w') : Balanced b' w' := by
  have same (task : Task) := Untouched.of_same informers core recording task
  have handled : b'.handled = b.handled := by rw [Books.handled, Books.handled, drains]
  refine ⟨?_, ?_, ?_, ?_, ?_, ?_⟩
  · rw [started]
    exact h.once
  · intro task member
    rw [started] at member
    exact (same task).hasTask_iff.2 (h.there task member)
  · rw [Books.dealt, handled, todo, outstanding, started]
    exact h.balance
  · intro task verdict member
    rw [handled] at member
    exact (h.settled task verdict member).mono (.of_same informers core recording)
      (same task).isCut_iff.1
  · intro task member
    rw [todo, outstanding] at member
    exact fun cut => h.whole task member ((same task).isCut_iff.1 cut)
  · intro d member follows
    rw [drains] at member
    exact cleared (h.cleared d member follows)

/-- Nobody who is there is ended from outside by what happens at a moment. -/
theorem Stir.spares (order : InOrder mark w) (stir : Stir w w') (there : w.HasTask task)
    (cut : IsCut w' task) : IsCut w task := by
  rcases stir.kinds with turn | ⟨other, step⟩ | asked | ⟨l, rfl⟩
  · exact (untouched_pollRun? order turn there).isCut_iff.1 cut
  · exact step.spares task cut
  · exact asked.spares task cut
  · exact (Untouched.of_same rfl rfl rfl task).isCut_iff.1 cut

/-- Whoever is there stays there. -/
theorem Stir.hasTask (order : InOrder mark w) (stir : Stir w w') (there : w.HasTask task) :
    w'.HasTask task := by
  rcases stir.kinds with turn | ⟨other, step⟩ | asked | ⟨l, rfl⟩
  · exact (untouched_pollRun? order turn there).hasTask_iff.2 there
  · exact (step.hasTask_iff task).2 there
  · exact (asked.untouched there).hasTask_iff.2 there
  · exact there

/-- Whatever is outstanding after what happens at a moment has not been ended from outside. -/
theorem Stir.intact (order : InOrder mark w) (listed : Listed w) (intact : Intact w)
    (stir : Stir w w') : Intact w' := by
  rcases stir.kinds with turn | ⟨other, step⟩ | asked | ⟨l, rfl⟩
  · exact intact_pollRun? order listed intact turn
  · exact intact.of_spares step.spares (fun task there => (step.hasTask_iff task).2 there)
      (outstanding_taskStep step)
  · exact intact.of_spares asked.spares
      (fun _ there => (asked.untouched there).hasTask_iff.2 there) asked.outstanding
  · exact intact.of_same rfl rfl rfl rfl

/-- What happens at a moment keeps the books balanced. -/
theorem Balanced.stirred (order : InOrder mark w) (listed : Listed w) (h : Balanced b w)
    (stir : Stir w w') (nodup : tasks.Nodup) (new : ∀ task, task ∈ tasks ↔ w.Starts task w') :
    Balanced { b with started := b.started ++ tasks } w' := by
  obtain ⟨launched, apart, all, outstanding⟩ := stir.starts order
  have same : launched.Perm tasks := by
    rw [List.perm_ext_iff_of_nodup apart nodup]
    exact fun task => (all task).trans (new task).symm
  have intact : Intact w := fun task member =>
    ⟨h.hasTask_of_left (List.mem_append_right _ member),
      h.whole task (List.mem_append_right _ member)⟩
  refine ⟨?_, ?_, ?_, ?_, ?_, ?_⟩
  · -- Whoever is started now was not there before.
    rw [List.nodup_append]
    refine ⟨h.once, nodup, ?_⟩
    rintro task before _ after rfl
    exact ((new task).1 after).2.1 (h.there task before)
  · intro task member
    rcases List.mem_append.1 member with before | after
    · exact stir.hasTask order (h.there task before)
    · exact ((new task).1 after).2.2
  · rw [outstanding, ← List.append_assoc]
    exact h.balance.append same
  · intro task verdict member
    exact (h.settled task verdict member).mono (Step.final order (.stirred stir))
      (stir.spares order (h.hasTask_of_handled member))
  · intro task member
    rcases List.mem_append.1 member with todo | left
    · have before := List.mem_append_left w.outstanding todo
      exact fun cut => h.whole task before (stir.spares order (h.hasTask_of_left before) cut)
    · exact (stir.intact order listed intact task left).2
  · exact fun d member follows => (h.cleared d member follows).step (.stirred stir)

/-- A drain takes over what is outstanding, so that the books stay balanced. -/
theorem Balanced.takenOver (h : Balanced b w) (free : w.isRunning = false)
    (undrained : b.draining = none) (deadline : Nat) :
    Balanced { b with
      drains := ⟨w.started, []⟩ :: b.drains
      draining := some (deadline, w.outstanding) } w.handedOver := by
  have same (task : Task) := w.untouched_handedOver task
  have nothing : b.todo = [] := by rw [Books.todo, undrained]; rfl
  have balance := h.balance
  rw [nothing, List.append_nil] at balance
  refine ⟨h.once, ?_, ?_, ?_, ?_, ?_⟩
  · exact fun task member => (same task).hasTask_iff.2 (h.there task member)
  · show (b.dealt ++ w.outstanding ++ []).Perm b.started
    rw [List.append_nil]
    exact balance
  · intro task verdict member
    exact (h.settled task verdict member).mono (.of_same rfl rfl rfl) (same task).isCut_iff.1
  · intro task member
    have member : task ∈ w.outstanding ++ [] := member
    rw [List.append_nil] at member
    exact fun cut => h.whole task (List.mem_append_right _ member) ((same task).isCut_iff.1 cut)
  · intro d member follows
    rcases List.mem_cons.1 member with rfl | before
    · refine ⟨follows, rfl, ?_⟩
      -- No run is in progress, so none waits for the caches.
      intro ctx phase going
      have going : w.run = .going ctx phase := going
      simp [isRunning, going] at free
    · exact (h.cleared d before follows).step (.takenOver free)

/-- A task that a drain is done with was over, or has been ended, and no other was touched. -/
theorem settled_settleTask (there : w.HasTask task) (whole : ¬IsCut w task) :
    (w.settleTask task).1.Settled task (w.verdict task) ∧
      ∀ other, other ≠ task → IsCut (w.settleTask task).1 other → IsCut w other := by
  cases done : (w.fate task).isOver with
  | true =>
    obtain ⟨n, same⟩ := settleTask_of_over done whole
    rw [verdict, if_pos done, same]
    have untouched (other : Task) : Untouched w (w.note n) other := .of_same rfl rfl rfl other
    refine ⟨⟨?_, fun cut => whole ((cut_note_iff n).1 cut)⟩, fun other _ => (cut_note_iff n).1⟩
    rw [(untouched task).fate]
    exact done
  | false =>
    rw [verdict, if_neg (by simp [done]), settleTask_of_going done]
    refine ⟨?_, ?_⟩
    · rw [Settled, abort, cut_line_iff, cut_cutShort_iff there done]
      exact .inr rfl
    · intro other differs cut
      rw [abort, cut_line_iff, cut_cutShort_iff there done] at cut
      exact cut.resolve_right differs

theorem outstanding_settleTask (w : Scheduler) (task : Task) :
    (w.settleTask task).1.outstanding = w.outstanding := by
  rcases settleTask_cases w task with ⟨n, same⟩ | same
  · rw [same]
    rfl
  · rw [same]
    exact w.outstanding_abort task

/-- A task that a drain is done with moves from those to deal with to those dealt with. -/
theorem Balanced.settleTask {d : Drainage} {earlier : List Drainage} {deadline : Nat}
    {rest : List Task} (h : Balanced b w) (latest : b.drains = d :: earlier)
    (draining : b.draining = some (deadline, task :: rest)) :
    Balanced
      { b with
        drains := d.add task (w.verdict task) :: earlier, draining := some (deadline, rest) }
      (w.settleTask task).1 := by
  have kept := kept_settleTask w task
  have todo : b.todo = task :: rest := by rw [Books.todo, draining]; rfl
  have handled : (Books.handled { b with
      drains := d.add task (w.verdict task) :: earlier
      draining := some (deadline, rest) }).Perm ((task, w.verdict task) :: b.handled) :=
    Books.handled_add latest rfl
  have nodup : (b.dealt ++ (task :: rest ++ w.outstanding)).Nodup := by
    rw [← todo, ← List.append_assoc]
    exact h.balance.nodup_iff.2 h.once
  obtain ⟨-, left, apart⟩ := List.nodup_append.1 nodup
  have first : task ∈ b.todo ++ w.outstanding := by
    rw [todo]
    exact List.mem_cons_self
  obtain ⟨now, others⟩ := settled_settleTask (h.hasTask_of_left first) (h.whole task first)
  refine ⟨h.once, fun other member => kept.tasks other (h.there other member), ?_, ?_, ?_, ?_⟩
  · -- The task moves from those that are left to those that have been dealt with.
    have balance := h.balance
    rw [todo] at balance
    rw [outstanding_settleTask]
    refine List.Perm.trans (List.Perm.append_right _ ?_) balance
    exact ((handled.map (·.1)).append_right rest).trans List.perm_middle.symm
  · intro other verdict member
    rcases List.mem_cons.1 (handled.mem_iff.1 member) with same | before
    · rw [Prod.mk.injEq] at same
      rw [same.1, same.2]
      exact now
    · refine (h.settled other verdict before).mono kept.final (others other ?_)
      exact apart other (List.mem_map.2 ⟨_, before, rfl⟩) task List.mem_cons_self
  · intro other member
    rw [outstanding_settleTask] at member
    have member : other ∈ rest ++ w.outstanding := member
    refine fun cut => h.whole other ?_ (others other ?_ cut)
    · rw [todo]
      exact List.mem_cons_of_mem _ member
    · rintro rfl
      exact (List.nodup_cons.1 left).1 member
  · intro d' member follows
    have cleared : Cleared w := by
      rcases List.mem_cons.1 member with rfl | before
      · exact h.cleared d (by rw [latest]; exact List.mem_cons_self) follows
      · exact h.cleared d' (by rw [latest]; exact List.mem_cons_of_mem _ before) follows
    exact cleared.step (.settled task)

/-- **Balance.** Each task that was started is outstanding or in the hands of one drain. -/
theorem balanced_of_booked (fresh : Fresh w₀) (booked : Booked w₀ b w) : Balanced b w := by
  induction booked with
  | constructed =>
    have left : (Books.blank.todo ++ w₀.outstanding) = [] := by
      rw [fresh.outstanding]
      rfl
    refine ⟨List.nodup_nil, nofun, ?_, nofun, ?_, nofun⟩
    · rw [List.append_assoc, left]
      exact List.Perm.refl _
    · rw [left]
      exact nofun
  | stirred before stir tasks nodup new ih =>
    exact ih.stirred (fresh.inOrder.life before.life)
      (fresh.listed.life fresh.inOrder before.life) stir nodup new
  | elapsed before t later answered ih =>
    exact ih.of_same rfl rfl rfl rfl rfl rfl rfl fun cleared => cleared.step (.elapsed t later)
  | called before ctx free undrained ih =>
    exact ih.of_same rfl rfl rfl rfl rfl rfl rfl fun cleared => cleared.step (.begun ctx free)
  | takenOver before ms free undrained ih => exact ih.takenOver free undrained _
  | settled before latest draining ready ih => exact ih.settleTask latest draining
  | @concluded b deadline w before draining n final ih =>
    have nothing : b.todo = [] := by rw [Books.todo, draining]; rfl
    exact ih.of_same rfl rfl nothing.symm rfl rfl rfl rfl
      fun cleared => cleared.step (.concluded n final)

end Scheduler

end SchedulerHost.Host
