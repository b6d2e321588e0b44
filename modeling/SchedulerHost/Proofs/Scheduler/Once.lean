import SchedulerHost.Proofs.Scheduler.Beginnings
import SchedulerHost.Proofs.Scheduler.Books
import SchedulerHost.Proofs.Scheduler.Drained

/-!
# A scheduler runs once

Whatever is asked of a scheduler, one thing after the other, books can be kept of it, and they tell
that it runs once.

* **Keeping books** (`Attained.booked`, `Booked.perform`): whatever is asked can be booked; a drain
  comes to one settling after the other.
* **Refusal** (`pollRun?_of_started`, `refused_of_quiet`): a call that is not the first says so and
  leaves everything else as it is.
* **Once** (`runs_once`): all that is begun is begun once, each task that is started is handled
  once, and each call but the first is refused.
-/

namespace SchedulerHost.Host

namespace Scheduler

variable {w₀ v w w' : Scheduler} {b : Books} {task : Task} {tasks : List Task}

/-! ### Refusal -/

/-- What becomes of a scheduler that refuses a call of the run. -/
def refusing (w : Scheduler) : Scheduler :=
  { w with run := .returned w.surroundings.now (.error .alreadyStarted) }.note .runIgnored

/-- **Refusal.** A call that finds the scheduler started is refused, and nothing else happens. -/
theorem pollRun?_of_started {ctx : Token} (entered : w.run = .going ctx .entered)
    (started : w.started = true) : w.pollRun? = some w.refusing := by
  rw [pollRun?, entered]
  show some (w.enter ctx) = some w.refusing
  rw [enter, if_pos started]
  rfl

/-- A call is on its way to be refused, or has been. -/
def Refuses (w : Scheduler) (ctx : Token) (v : Scheduler) : Prop :=
  ∃ l, v = { w.beginRun ctx with line := l } ∨ v = { w.refusing with line := l }

theorem isAble_refusing (quiet : ∀ a, Machine.isAble w a = false) (l : Line Agent) (a : Agent) :
    Machine.isAble { w.refusing with line := l } a = false := by
  have same : Alike { w.refusing with line := l }
      { w with
        run := .returned w.surroundings.now (.error .alreadyStarted), line := l } := ⟨rfl, rfl⟩
  rw [likeness_bare.able_eq a same, isAble_eq]
  cases a with
  | run => rfl
  | task task =>
    have before := quiet (.task task)
    rw [isAble_eq] at before
    rw [← before]
    cases task <;> rfl

/-- A run that is refused does nothing but to return. -/
theorem keeps_refuses (quiet : ∀ a, Machine.isAble w a = false) (started : w.started = true)
    (ctx : Token) : Machine.Keeps (w.Refuses ctx) where
  of_poll {a v v'} h next := by
    obtain ⟨l, rfl | rfl⟩ := h
    · cases a with
      | run =>
        have entered : run { w.beginRun ctx with line := l } = .going ctx .entered := rfl
        have next : pollRun? { w.beginRun ctx with line := l } = some v' := next
        rw [pollRun?_of_started entered started, Option.some.injEq] at next
        exact ⟨l, .inr next.symm⟩
      | task task =>
        -- A call enables nobody but the run.
        have stuck : Machine.isAble { w.beginRun ctx with line := l } (.task task) = false := by
          rw [← quiet (.task task), isAble_eq, isAble_eq]
          cases task <;> rfl
        simp [Machine.isAble, next] at stuck
    · have stuck := isAble_refusing quiet l a
      simp [Machine.isAble, next] at stuck
  of_line {v l} h _ := by
    obtain ⟨_, rfl | rfl⟩ := h
    · exact ⟨l, .inl rfl⟩
    · exact ⟨l, .inr rfl⟩

/-- Whatever was asked before, nobody can go on any more once a call of the run has settled. -/
theorem Attained.still_run (fresh : Fresh w₀) (attained : Attained w₀ w)
    (free : w.isRunning = false) (ctx : Token) :
    (w.perform (.run ctx)).1 = w.beginRun ctx ∧
      Machine.Still (Machine.resume false (w.beginRun ctx)) := by
  have sound := sound_reached fresh
  have reached := (attained.reached fresh).1.beginRun free ctx
  refine ⟨?_, sound.still_settle (sound.keeps.rouse reached) (sound.roused_rouse reached)⟩
  rw [perform, if_neg (by simp [free])]

/-- A scheduler of which nobody can go on is left as it is by a call that is not the first. -/
theorem refused_of_quiet (fresh : Fresh w₀) (attained : Attained w₀ w)
    (quiet : ∀ a, Machine.isAble w a = false) (started : w.started = true)
    (free : w.isRunning = false) (ctx : Token) :
    ∃ l, Machine.resume false (w.perform (.run ctx)).1 = { w.refusing with line := l } := by
  obtain ⟨calls, still⟩ := attained.still_run fresh free ctx
  rw [calls]
  have keeps := keeps_refuses quiet started ctx
  obtain ⟨l, entered | refused⟩ := keeps.settle (keeps.rouse ⟨(w.beginRun ctx).line, .inl rfl⟩)
  · -- Nothing is still before the call has been answered.
    refine absurd ?_ (taken_of_still still ctx)
    exact congrArg Scheduler.run entered
  · exact ⟨l, refused⟩

/-! ### What is booked while everybody goes on -/

/-- There are books of a life that differ from these in nothing but the tasks that
have been started since. -/
def BookedOn (w₀ : Scheduler) (b : Books) (w : Scheduler) : Prop :=
  ∃ more, Booked w₀ { b with started := b.started ++ more } w

theorem Booked.on (booked : Booked w₀ b w) : BookedOn w₀ b w := by
  refine ⟨[], ?_⟩
  rw [List.append_nil]
  exact booked

/-- What happens at a moment keeps to the books, but for what it starts. -/
theorem BookedOn.stir (fresh : Fresh w₀) (booked : BookedOn w₀ b w) (stir : Stir w w') :
    BookedOn w₀ b w' := by
  obtain ⟨more, before⟩ := booked
  obtain ⟨tasks, nodup, new, -⟩ := stir.starts (fresh.inOrder.life before.life)
  refine ⟨more ++ tasks, ?_⟩
  rw [← List.append_assoc]
  exact before.stirred stir tasks nodup new

theorem keeps_bookedOn (fresh : Fresh w₀) (b : Books) : Machine.Keeps (BookedOn w₀ b) where
  of_poll {a _ _} booked next := booked.stir fresh (.polled a next)
  of_line booked _ := booked.stir fresh (.lined _)

/-- Time goes on when nobody can go on, so the latest call has been answered. -/
theorem BookedOn.elapse {t : Nat} (still : Machine.Still w) (booked : BookedOn w₀ b w)
    (later : w.surroundings.now < t) : BookedOn w₀ b (Machine.setNow t w) := by
  obtain ⟨more, before⟩ := booked
  exact ⟨more, before.elapsed t (Nat.le_of_lt later) (taken_of_still still)⟩

theorem BookedOn.advance (fresh : Fresh w₀) {P : Scheduler → Prop} (sound : Machine.Sound P)
    (holds : P w) (roused : Machine.Roused w) (booked : BookedOn w₀ b w) (n : Nat) :
    BookedOn w₀ b (Machine.advance n w) :=
  sound.keeps_advance (keeps_bookedOn fresh b)
    (fun still booked later _ => BookedOn.elapse still booked later) holds roused booked n

theorem BookedOn.resume (fresh : Fresh w₀) (booked : BookedOn w₀ b w) (hold : Bool) :
    BookedOn w₀ b (Machine.resume hold w) := by
  have keeps := keeps_bookedOn fresh b
  cases hold with
  | true => exact keeps.rouse booked
  | false => exact keeps.settle (keeps.rouse booked)

/-! ### What is booked by a drain -/

theorem BookedOn.awaitTask (fresh : Fresh w₀) (poised : Poised w₀ v w) (booked : BookedOn w₀ b w)
    (deadline patience : Nat) (task : Task) :
    BookedOn w₀ b (w.awaitTask deadline patience task).1 := by
  have sound := sound_idle fresh v
  have keeps := keeps_bookedOn fresh b
  have breath := poised.takeBreath fresh patience
  have rested : BookedOn w₀ b (w.takeBreath patience).1 := by
    rcases takeBreath_cases w patience with same | same
    · rw [same]
      exact booked
    · rw [same]
      exact keeps.giveWay booked
  have waits (n : Nat) := rested.advance fresh sound breath.idle breath.roused n
  rcases (poised.awaitTask_cases fresh deadline patience task).2 with same | ⟨n, same⟩ | ⟨n, same⟩
  · rw [same]
    exact rested
  · rw [same]
    exact keeps.settle (waits n)
  · rw [same]
    exact waits n

/-- The names of the tasks that a drain has ended from outside. -/
def remaining (w : Scheduler) (handled : List (Task × Verdict)) : List String :=
  (handled.filter (·.2 = .aborted)).map fun x => w.taskName x.1

/-- The names of the tasks stay, whatever becomes of the tasks. -/
theorem remaining_congr (kept : Kept v w) (handled : List (Task × Verdict)) :
    w.remaining handled = v.remaining handled := by
  simp only [remaining, taskName_congr kept]

theorem remaining_cons (w : Scheduler) (x : Task × Verdict) (handled : List (Task × Verdict)) :
    w.remaining (x :: handled) = w.remaining [x] ++ w.remaining handled := by
  rw [remaining, ← List.singleton_append, List.filter_append, List.map_append]
  rfl

/-- A task is reported exactly when it is ended from outside. -/
theorem remaining_verdict (whole : ¬IsCut w task) :
    (w.settleTask task).2.toList = w.remaining [(task, w.verdict task)] := by
  cases done : (w.fate task).isOver with
  | true =>
    obtain ⟨n, same⟩ := settleTask_of_over done whole
    simp [same, remaining, verdict, done]
  | false =>
    simp [settleTask_of_going done, remaining, verdict, done]

/-- A drain is done with one task after the other, and tells the names of those that
it has ended. -/
theorem BookedOn.drainTasks (fresh : Fresh w₀) {d : Drainage} {earlier : List Drainage}
    {deadline : Nat} (poised : Poised w₀ v w) (booked : BookedOn w₀ b w)
    (latest : b.drains = d :: earlier) (draining : b.draining = some (deadline, tasks))
    (patience : Nat) :
    ∃ handled : List (Task × Verdict), handled.map (·.1) = tasks ∧
      (w.drainTasks deadline patience tasks).2 = w.remaining handled ∧
      BookedOn w₀
        { b with
          drains := { d with handled := d.handled ++ handled } :: earlier
          draining := some (deadline, []) }
        (w.drainTasks deadline patience tasks).1 := by
  induction tasks generalizing b d v w patience with
  | nil =>
    refine ⟨[], rfl, rfl, ?_⟩
    rw [List.append_nil, ← latest, ← draining]
    exact booked
  | cons task rest ih =>
    have waits := poised.awaitTask fresh deadline patience task
    have ready := (poised.awaitTask_cases fresh deadline patience task).1
    obtain ⟨more, before⟩ := booked.awaitTask fresh poised deadline patience task
    obtain ⟨left, same⟩ :=
      drainTasks_cons (rfl : (w.awaitTask deadline patience task).1 = _) rest
    generalize (w.awaitTask deadline patience task).1 = w' at waits ready before same
    -- Whoever is still to be dealt with has not been ended from outside by anybody else.
    have whole : ¬IsCut w' task := by
      refine (balanced_of_booked fresh before).whole task ?_
      simp [Books.todo, draining]
    have settled : BookedOn w₀
        { b with
          drains := d.add task (w'.verdict task) :: earlier, draining := some (deadline, rest) }
        (w'.settleTask task).1 :=
      ⟨more, before.settled latest draining ready⟩
    obtain ⟨handled, all, told, after⟩ :=
      ih (waits.settleTask task) settled rfl rfl left
    refine ⟨(task, w'.verdict task) :: handled, by rw [List.map_cons, all], ?_, ?_⟩
    · have kept := waits.idle.kept.trans (kept_settleTask w' task)
      rw [same, remaining_cons, told, remaining_verdict whole, remaining_congr kept,
        remaining_congr waits.idle.kept, remaining_congr poised.idle.kept,
        remaining_congr poised.idle.kept]
    · rw [same]
      have all : { d with handled := d.handled ++ (task, w'.verdict task) :: handled } =
          { d.add task (w'.verdict task) with
            handled := (d.add task (w'.verdict task)).handled ++ handled } := by
        simp [Drainage.add]
      rw [all]
      exact after

/-- What a drain answers that has dealt with some tasks. -/
def Answers (w : Scheduler) (ms : Nat) (handled : List (Task × Verdict)) : Prop :=
  (w.remaining handled = [] ∧ (w.drain ms).2 = .ok ()) ∨
    w.remaining handled ≠ [] ∧
      ∃ elapsed, (w.drain ms).2 = .error (.shutdownTimeout elapsed (w.remaining handled))

/-- A drain deals with all that is outstanding, and answers what has become of it. -/
theorem Booked.drain (fresh : Fresh w₀) (reached : Reached w₀ w) (roused : Machine.Roused w)
    (free : w.isRunning = false) (booked : Booked w₀ b w) (undrained : b.draining = none)
    (ms : Nat) :
    ∃ handled : List (Task × Verdict), handled.map (·.1) = w.outstanding ∧
      w.Answers ms handled ∧
      BookedOn w₀ { b with drains := ⟨w.started, handled⟩ :: b.drains } (w.drain ms).1 := by
  cases drained : w.handedOver.drainTasks (w.surroundings.now + ms) Machine.patience
      w.outstanding with
  | mk v names =>
    obtain ⟨handled, all, told, more, before⟩ := (booked.takenOver ms free undrained).on.drainTasks
      fresh (reached.handedOver roused free) rfl rfl Machine.patience
    rw [drained] at told before
    have told : names = w.remaining handled := told
    obtain ⟨n, final, concluded⟩ := w.exists_drain ms drained
    refine ⟨handled, all, ?_, more, ?_⟩
    · rcases w.drain_cases ms drained with ⟨nobody, same⟩ | ⟨somebody, same⟩
      · rw [told] at nobody
        exact .inl ⟨nobody, by rw [same]⟩
      · rw [told] at somebody same
        exact .inr ⟨somebody, _, by rw [same]⟩
    · rw [concluded]
      show Booked w₀ ⟨_, _, _, b.draining⟩ _
      rw [undrained]
      exact before.concluded rfl n final

/-! ### What is booked of what is asked -/

/-- What the books tell of something that is asked for. -/
inductive Posts (w : Scheduler) (b : Books) : Command → Books → Prop
  | called (ctx : Token) (free : w.isRunning = false) :
    Posts w b (.run ctx) { b with calls := w.surroundings.now :: b.calls }
  /-- A drain deals with the tasks that are outstanding, in their order and with each
  of them once. -/
  | drained (ms : Nat) (free : w.isRunning = false) (handled : List (Task × Verdict))
    (all : handled.map (·.1) = w.outstanding) (answers : w.Answers ms handled) :
    Posts w b (.drain ms) { b with drains := ⟨w.started, handled⟩ :: b.drains }
  /-- While a run is in progress no other run and no drain is begun. -/
  | busy (c : Command) (running : w.isRunning = true) : Posts w b c b
  | aside (c : Command) (runs : ∀ ctx, c ≠ .run ctx) (drains : ∀ ms, c ≠ .drain ms) :
    Posts w b c b

/-- Whatever is asked is booked. -/
theorem Booked.perform (fresh : Fresh w₀) (attained : Attained w₀ w) (booked : Booked w₀ b w)
    (undrained : b.draining = none) (c : Command) :
    ∃ b', b'.draining = none ∧ Posts w b c b' ∧ BookedOn w₀ b' (w.perform c).1 := by
  obtain ⟨reached, roused⟩ := attained.reached fresh
  cases brief : c.isBrief with
  | true =>
    refine ⟨b, undrained, .aside c ?_ ?_, booked.on.stir fresh (.asked c brief)⟩
    · rintro ctx rfl
      contradiction
    · rintro ms rfl
      contradiction
  | false =>
    -- Only a run, a drain and the passing of time take longer.
    cases c with
    | run ctx =>
      cases running : w.isRunning with
      | true =>
        refine ⟨b, undrained, .busy _ running, ?_⟩
        rw [Scheduler.perform, if_pos running]
        exact booked.on
      | false =>
        refine ⟨{ b with calls := _ :: b.calls }, undrained, .called ctx running, ?_⟩
        rw [Scheduler.perform, if_neg (by simp [running])]
        exact (booked.called ctx running undrained).on
    | advance ms =>
      exact ⟨b, undrained, .aside _ (by simp) (by simp),
        booked.on.advance fresh (sound_reached fresh) reached roused ms⟩
    | drain ms =>
      cases running : w.isRunning with
      | true =>
        refine ⟨b, undrained, .busy _ running, ?_⟩
        rw [Scheduler.perform, if_pos running]
        exact booked.on
      | false =>
        obtain ⟨handled, all, answers, after⟩ :=
          booked.drain fresh reached roused running undrained ms
        refine ⟨{ b with drains := _ :: b.drains }, undrained,
          .drained ms running handled all answers, ?_⟩
        rw [Scheduler.perform, if_neg (by simp [running])]
        exact after
    | _ => contradiction

/-- **Keeping books.** There are books of whatever is attained, and no drain is in progress by the
time something else can be asked. -/
theorem Attained.booked (fresh : Fresh w₀) (attained : Attained w₀ w) :
    ∃ b, b.draining = none ∧ Booked w₀ b w := by
  induction attained with
  | constructed => exact ⟨.blank, rfl, .constructed⟩
  | performed before c hold ih =>
    obtain ⟨b, undrained, booked⟩ := ih
    obtain ⟨b', undrained', -, after⟩ := booked.perform fresh before undrained c
    obtain ⟨more, after⟩ := after.resume fresh hold
    exact ⟨{ b' with started := b'.started ++ more }, undrained', after⟩
  | used before stir asked hold ih =>
    obtain ⟨b, undrained, booked⟩ := ih
    obtain ⟨more, after⟩ := (booked.on.stir fresh stir).resume fresh hold
    exact ⟨{ b with started := b.started ++ more }, undrained, after⟩

/-! ### Once -/

/-- The tasks that drains are done with are told apart. -/
theorem Balanced.nodup_dealt (h : Balanced b w) : b.dealt.Nodup := by
  have all := h.balance.nodup_iff.2 h.once
  rw [List.append_assoc] at all
  exact (List.nodup_append.1 all).1

/-- Drains are done with all that has been started once one of them has followed a call. -/
theorem Balanced.perm_dealt (h : Balanced b w) (undrained : b.draining = none) {d : Drainage}
    (member : d ∈ b.drains) (follows : d.follows = true) :
    w.outstanding = [] ∧ b.dealt.Perm b.started := by
  have nothing := (h.cleared d member follows).outstanding
  have todo : b.todo = [] := by rw [Books.todo, undrained]; rfl
  have balance := h.balance
  rw [todo, nothing, List.append_nil, List.append_nil] at balance
  exact ⟨nothing, balance⟩

/-- A scheduler is started by its first call and by nothing else. -/
theorem Called.started_iff (h : Called b w) (free : w.isRunning = false) :
    w.started = true ↔ b.calls ≠ [] := by
  constructor
  · intro started none
    rw [(h.uncalled none).2] at started
    contradiction
  · intro some
    refine h.answered some ?_
    intro ctx entered
    simp [isRunning, entered] at free

/-- That a scheduler runs once, whatever happens to it. -/
structure RunsOnce (w₀ : Scheduler) : Prop where
  /-- Nothing is begun twice: neither the factory nor the recording,
  no informer and not the core. -/
  begins {w : Scheduler} (life : Life w₀ w) :
    (w.beginnings w₀.surroundings.journal.length).Nodup
  /-- There are books of whatever is attained by asking one thing after the other. -/
  booked {w : Scheduler} (attained : Attained w₀ w) : ∃ b, b.draining = none ∧ Booked w₀ b w
  /-- What is asked next is entered into them, and nothing else but what is started from then on. -/
  posts {w : Scheduler} {b : Books} (attained : Attained w₀ w) (booked : Booked w₀ b w)
    (undrained : b.draining = none) (c : Command) (hold : Bool) :
    ∃ b', Posts w b c b' ∧ BookedOn w₀ b' (Machine.resume hold (w.perform c).1)
  /-- No task is started twice, and each that was started is in the hands of one drain, which has
  awaited or ended it, or is outstanding. -/
  balanced {w : Scheduler} {b : Books} (booked : Booked w₀ b w) : Balanced b w ∧ b.dealt.Nodup
  /-- After a drain that follows the first call, drains have dealt with all tasks,
  with each once. -/
  followed {w : Scheduler} {b : Books} (booked : Booked w₀ b w) (undrained : b.draining = none)
    (d : Drainage) (member : d ∈ b.drains) (follows : d.follows = true) :
    w.outstanding = [] ∧ b.dealt.Perm b.started
  /-- Whether a scheduler has been started tells whether its run has been called. -/
  started_iff {w : Scheduler} {b : Books} (booked : Booked w₀ b w) (free : w.isRunning = false) :
    w.started = true ↔ b.calls ≠ []
  /-- A call is answered at the moment at which it is made, and refused unless it is the first. -/
  called {w : Scheduler} {b : Books} (booked : Booked w₀ b w) : Called b w
  /-- Each call but the first is refused at once. -/
  refused {w : Scheduler} {b : Books} (attained : Attained w₀ w) (booked : Booked w₀ b w)
    (undrained : b.draining = none) (again : b.calls ≠ []) (free : w.isRunning = false)
    (ctx : Token) : (Machine.resume false (w.perform (.run ctx)).1).run =
      .returned w.surroundings.now (.error .alreadyStarted)
  /-- To refuse a call is to say so and to change nothing else. -/
  refusing {w : Scheduler} {ctx : Token} (entered : w.run = .going ctx .entered)
    (started : w.started = true) : w.pollRun? = some w.refusing
  /-- If nobody can go on when the call is made, nothing else happens before it is refused. -/
  quiet {w : Scheduler} (attained : Attained w₀ w) (quiet : ∀ a, Machine.isAble w a = false)
    (started : w.started = true) (free : w.isRunning = false) (ctx : Token) :
    ∃ l, Machine.resume false (w.perform (.run ctx)).1 = { w.refusing with line := l }

/-- The second call of a run is answered at once. -/
theorem refused_of_called (fresh : Fresh w₀) (attained : Attained w₀ w) (booked : Booked w₀ b w)
    (undrained : b.draining = none) (again : b.calls ≠ []) (free : w.isRunning = false)
    (ctx : Token) : (Machine.resume false (w.perform (.run ctx)).1).run =
      .returned w.surroundings.now (.error .alreadyStarted) := by
  obtain ⟨calls, still⟩ := attained.still_run fresh free ctx
  rw [calls]
  obtain ⟨more, after⟩ := (booked.called ctx free undrained).on.resume fresh false
  exact (called_of_booked fresh after).refused _ _ rfl again (taken_of_still still)

/-- **Once.** A scheduler that has been constructed runs at most once, whatever is asked of it and
whatever its tasks do. -/
theorem runs_once {s s' : Surroundings} {assembly : Assembly} {builder : Builder}
    (built : construct s assembly builder = (s', .ok w₀)) : RunsOnce w₀ := by
  have fresh := fresh_of_construct built
  refine
    { begins := nodup_beginnings built
      booked := fun attained => attained.booked fresh
      posts := ?_
      balanced := ?_
      followed := fun booked undrained d member follows =>
        (balanced_of_booked fresh booked).perm_dealt undrained member follows
      started_iff := fun booked free => (called_of_booked fresh booked).started_iff free
      called := called_of_booked fresh
      refused := refused_of_called fresh
      refusing := pollRun?_of_started
      quiet := refused_of_quiet fresh }
  · intro w b attained booked undrained c hold
    obtain ⟨b', -, posts, after⟩ := booked.perform fresh attained undrained c
    exact ⟨b', posts, after.resume fresh hold⟩
  · intro w b booked
    have balanced := balanced_of_booked fresh booked
    exact ⟨balanced, balanced.nodup_dealt⟩

/-- The run of the sleepy scheduler has given up; another is refused. -/
theorem runs_once_sleepy :
    sleepyAsleep.run = .returned 0 (.error .cacheSyncTimeout) ∧
      (Machine.resume false (sleepyAsleep.perform (.run (.context 1))).1).run =
        .returned 0 (.error .alreadyStarted) ∧
      sleepyAsleep.beginnings sleepy.surroundings.journal.length =
        [.factory, .informer "pods"] := by
  have built : construct (.start ⟨"0", .epoch⟩)
      { smallAssembly with podInformer := some ⟨"pods", [.sleepThrough 5]⟩ } smallBuilder =
        (sleepy.surroundings, .ok sleepy) := rfl
  have once := runs_once built
  have gaveUp : sleepyAsleep.run = .returned 0 (.error .cacheSyncTimeout) := rfl
  obtain ⟨b, undrained, booked⟩ := once.booked attained_sleepyAsleep
  have again : b.calls ≠ [] := by
    intro none
    have idle := ((once.called booked).uncalled none).1
    rw [gaveUp] at idle
    contradiction
  exact ⟨gaveUp, once.refused attained_sleepyAsleep booked undrained again rfl (.context 1),
    by decide +kernel⟩

end Scheduler

end SchedulerHost.Host
