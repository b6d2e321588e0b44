import SchedulerHost.Proofs.Scheduler.Apart

/-!
# Watching an informer

What an informer does in an execution, whatever else happens, is what it would do by itself.

* `Watch`: an execution up to the first drain, with what one informer does in it. Time does not pass
  over what the informer is to do.
* `Tracked`: what is known of the informer agrees with what becomes of the scheduler.
* **By itself** (`Watch.leads`): an informer does what it does by itself when the shutdown comes as
  it comes.
-/

namespace SchedulerHost.Host

open Feed (FeedId)
open Relation (ReflTransGen)
open Surroundings (Tells)

namespace Scheduler

/-! ### Watching -/

/-- What is known of an informer in an execution: when the run was called first, when the shutdown
came, and what the informer has done. -/
structure Chronicle where
  called : Option Nat
  shutdown : Option Cue
  deeds : List Deed

/-- All that is to be done for an informer at this moment has been done: it can take no step, and no
run is about to launch it. -/
structure AtRest (i : Nat) (w : Scheduler) : Prop where
  stuck : w.poll? (.task (.informer i)) = none
  entered (ctx : Token) : w.run ≠ .going ctx .entered

/-- What becomes of a scheduler up to the first drain, with what is known of one of its informers.
Besides the informer anything may happen that leaves its feed and its store to it; time does not
pass over what the informer is to do. -/
inductive Watch (i : Nat) (d : Driver) (w₀ : Scheduler) : Chronicle → Scheduler → Prop
  /-- The shutdown may have come before. -/
  | constructed (shutdown : Option Nat) (known : shutdown.isSome = w₀.isCancelled .shutdown)
    (past : ∀ time ∈ shutdown, time ≤ w₀.surroundings.now) :
    Watch i d w₀ ⟨none, shutdown.map (⟨·, 0⟩), []⟩ w₀
  | acted {r : Chronicle} {w w' : Scheduler} {move : Move FeedAction}
    {play : Performance FeedAction} (before : Watch i d w₀ r w)
    (next : (w.playOf i d).next? w.surroundings.now (w.isCancelled .shutdown) = some (move, play))
    (polled : w.poll? (.task (.informer i)) = some w') :
    Watch i d w₀ { r with deeds := r.deeds ++ [⟨w.surroundings.now, move⟩] } w'
  | beside {r : Chronicle} {w w' : Scheduler} (before : Watch i d w₀ r w)
    (beside : Beside i d w w') : Watch i d w₀ r w'
  | called {r : Chronicle} {w : Scheduler} (before : Watch i d w₀ r w) (ctx : Token)
    (free : w.isRunning = false) :
    Watch i d w₀ { r with called := r.called.or (some w.surroundings.now) } (w.beginRun ctx)
  | shutDown {r : Chronicle} {w : Scheduler} (before : Watch i d w₀ r w)
    (up : w.isCancelled .shutdown = false) :
    Watch i d w₀
      { r with shutdown := some ⟨w.surroundings.now, countAt w.surroundings.now r.deeds⟩ }
      (w.perform (.cancel .shutdown)).1
  | elapsed {r : Chronicle} {w : Scheduler} (before : Watch i d w₀ r w) (rest : AtRest i w)
    (t : Nat) (later : w.surroundings.now < t) (early : ∀ due ∈ (w.playOf i d).alarms, t ≤ due) :
    Watch i d w₀ r (Machine.setNow t w)

variable {w₀ w w' : Scheduler} {i : Nat} {d : Driver} {r : Chronicle} {mark : Nat}

/-- An informer as it is seen in a scheduler. -/
def sight (w : Scheduler) (i : Nat) (d : Driver) (mark : Nat) (deeds : List Deed) : Solo where
  now := w.surroundings.now
  down := w.isCancelled .shutdown
  play := w.playOf i d
  store := w.cache.stores.get d.store
  synced := w.cache.gate.isSynced d.informer.feed
  deeds := deeds
  told := w.surroundings.read (Entry.ofFeed? d.informer.feed) mark

/-- What happens elsewhere is not seen. -/
theorem Elsewhere.sight (elsewhere : Elsewhere i d w w')
    (old : mark ≤ w.surroundings.journal.length) (deeds : List Deed) :
    w'.sight i d mark deeds = w.sight i d mark deeds := by
  have silent : Tells (Entry.ofFeed? d.informer.feed) [] w.surroundings w'.surroundings :=
    elsewhere.entered.tells fun e other => by rw [Entry.ofFeed?, if_neg other]
  have told := silent.read old
  rw [List.append_nil] at told
  simp only [Scheduler.sight, elsewhere.now, elsewhere.down, elsewhere.play, elsewhere.store,
    elsewhere.isSynced, told]

/-- What is seen when an informer takes a step. -/
theorem Acts.sight {move : Move FeedAction} {play : Performance FeedAction}
    (acts : Acts i d w move play w') (old : mark ≤ w.surroundings.journal.length)
    (deeds : List Deed) :
    w'.sight i d mark (deeds ++ [⟨w.surroundings.now, move⟩]) =
      (w.sight i d mark deeds).after d.informer.feed move play := by
  have down : w'.isCancelled .shutdown = w.isCancelled .shutdown :=
    acts.surroundings.isCancelled .shutdown
  simp only [Scheduler.sight, Solo.after, acts.play, acts.told.read old, acts.store, acts.isSynced,
    acts.surroundings.now, down]

/-- The shutdown is all that is seen when it comes. -/
theorem sight_shutDown (old : mark ≤ w.surroundings.journal.length) (deeds : List Deed) :
    (w.perform (.cancel .shutdown)).1.sight i d mark deeds =
      { w.sight i d mark deeds with down := true } := by
  have told := (Surroundings.tells_cancel (Entry.ofFeed? d.informer.feed) w.surroundings
    .shutdown).read old
  rw [List.append_nil] at told
  simp only [sight, perform, Surroundings.now_cancel, told, isCancelled,
    Surroundings.isCancelled_cancel]
  rfl

/-! ### Before the run and after -/

/-- The run has not been called, and the informer has done nothing. -/
structure Uncalled (i : Nat) (d : Driver) (mark : Nat) (r : Chronicle) (w : Scheduler) : Prop where
  run : w.run = .idle
  started : w.started = false
  sight : w.sight i d mark r.deeds =
    .fresh d.informer.script w.surroundings.now (w.isCancelled .shutdown)
  shutdown (cue : Cue) : r.shutdown = some cue → cue.after = 0

/-- What is known of an informer agrees with what becomes of the scheduler. -/
structure Tracked (i : Nat) (d : Driver) (mark : Nat) (r : Chronicle) (w : Scheduler) : Prop where
  placed : Placed i d w
  old : mark ≤ w.surroundings.journal.length
  down : w.isCancelled .shutdown = r.shutdown.isSome
  past (cue : Cue) : r.shutdown = some cue → cue.time ≤ w.surroundings.now
  uncalled : r.called = none → Uncalled i d mark r w
  called (time : Nat) : r.called = some time →
    w.started = true ∨ ∃ ctx, w.run = .going ctx .entered

/-- Before the shutdown comes, nothing is known of it. -/
theorem Tracked.up (tracked : Tracked i d mark r w) (up : w.isCancelled .shutdown = false) :
    r.shutdown = none := by
  rw [tracked.down, Option.isSome_eq_false_iff, Option.isNone_iff_eq_none] at up
  exact up

/-- A step of the informer becomes known. -/
theorem Tracked.acted (tracked : Tracked i d mark r w) {move : Move FeedAction}
    {play : Performance FeedAction} (acts : Acts i d w move play w')
    (polled : w.poll? (.task (.informer i)) = some w') :
    Tracked i d mark { r with deeds := r.deeds ++ [⟨w.surroundings.now, move⟩] } w' := by
  have step : TaskStep w (.informer i) w' := taskStep_of_pollTask? polled
  have told := acts.surroundings
  refine ⟨tracked.placed.step (.stirred (.polled _ polled)) acts.size acts.launched,
    Nat.le_trans tracked.old told.journal.length_le,
    (told.isCancelled .shutdown).trans tracked.down, ?_, ?_, ?_⟩
  · rw [told.now]
    exact tracked.past
  · -- There is no informer before the run is called.
    intro uncalled
    have nothing := tracked.placed.launched.nothing (tracked.uncalled uncalled).started
    simp [poll?, pollTask?, nothing] at polled
  · rw [step.aside.run, step.aside.started]
    exact tracked.called

theorem Tracked.beside (tracked : Tracked i d mark r w) (beside : Beside i d w w') :
    Tracked i d mark r w' := by
  have elsewhere := beside.elsewhere tracked.placed
  obtain ⟨entered, grown, -⟩ := elsewhere.entered
  refine ⟨beside.placed tracked.placed, ?_, elsewhere.down.trans tracked.down, ?_, ?_, ?_⟩
  · have old := tracked.old
    rw [grown, List.length_append]
    omega
  · rw [elsewhere.now]
    exact tracked.past
  · intro uncalled
    obtain ⟨run, started, sight, shutdown⟩ := tracked.uncalled uncalled
    rcases beside.stir.cases with turn | ⟨aside, -⟩
    · -- A run that has not been called has no turn.
      obtain ⟨ctx, phase, going, -⟩ := exists_of_pollRun? turn
      rw [run] at going
      contradiction
    · refine ⟨aside.run.trans run, aside.started.trans started, ?_, shutdown⟩
      rw [elsewhere.sight tracked.old, elsewhere.now, elsewhere.down]
      exact sight
  · intro time called
    rcases beside.stir.cases with turn | ⟨aside, -⟩
    · -- Whatever turn this is, the informers have been launched when it is over.
      left
      obtain ⟨ctx, phase, going, ⟨-, -, turned⟩ | ⟨first, turned⟩⟩ := turned_of_pollRun? turn
      · obtain ⟨s, c, b, first, l, -, -, launches⟩ := w.exists_launchAll
        rw [turned.informers.2, launches]
      · rw [turned.informers.2]
        rcases tracked.called time called with started | ⟨ctx', entered⟩
        · exact started
        · rw [going] at entered
          cases entered
          exact first rfl
    · rw [aside.run, aside.started]
      exact tracked.called time called

/-- The call of a run becomes known if it is the first. -/
theorem Tracked.begun (tracked : Tracked i d mark r w) (ctx : Token)
    (free : w.isRunning = false) :
    Tracked i d mark { r with called := r.called.or (some w.surroundings.now) }
      (w.beginRun ctx) where
  placed := tracked.placed.step (.begun ctx free) (Nat.le_refl _)
    (tracked.placed.launched.of_same rfl rfl rfl)
  old := tracked.old
  down := tracked.down
  past := tracked.past
  uncalled never := by simp at never
  called _ _ := .inr ⟨ctx, rfl⟩

/-- The shutdown becomes known, with how far the informer had come at that moment. -/
theorem Tracked.shutDown (tracked : Tracked i d mark r w) :
    Tracked i d mark
      { r with shutdown := some ⟨w.surroundings.now, countAt w.surroundings.now r.deeds⟩ }
      (w.perform (.cancel .shutdown)).1 := by
  have now : (w.surroundings.cancel .shutdown).now = w.surroundings.now :=
    Surroundings.now_cancel _ _
  have step : Step w (w.perform (.cancel .shutdown)).1 := .stirred (.asked (.cancel .shutdown) rfl)
  refine ⟨tracked.placed.step step (Nat.le_refl _) (tracked.placed.launched.of_same rfl rfl rfl),
    ?_, Surroundings.isCancelled_cancel _ _, ?_, ?_, tracked.called⟩
  · show mark ≤ (w.surroundings.cancel .shutdown).journal.length
    rw [Surroundings.journal_cancel]
    exact tracked.old
  · intro cue same
    cases same
    exact Nat.le_of_eq now.symm
  · intro uncalled
    obtain ⟨run, started, sight, -⟩ := tracked.uncalled uncalled
    have nothing : r.deeds = [] := congrArg Solo.deeds sight
    refine ⟨run, started, ?_, ?_⟩
    · rw [sight_shutDown tracked.old, sight]
      simp only [Solo.fresh, perform, Surroundings.now_cancel, isCancelled,
        Surroundings.isCancelled_cancel]
    · intro cue same
      cases same
      simp [nothing, countAt]

theorem Tracked.elapsed (tracked : Tracked i d mark r w) {t : Nat}
    (later : w.surroundings.now < t) : Tracked i d mark r (Machine.setNow t w) := by
  refine ⟨tracked.placed.step (.elapsed t (Nat.le_of_lt later)) (Nat.le_refl _)
    (tracked.placed.launched.of_same rfl rfl rfl), tracked.old, tracked.down, ?_, ?_,
    tracked.called⟩
  · exact fun cue there => Nat.le_trans (tracked.past cue there) (Nat.le_of_lt later)
  · intro uncalled
    obtain ⟨run, started, sight, shutdown⟩ := tracked.uncalled uncalled
    exact ⟨run, started, congrArg (fun x : Solo => { x with now := t }) sight, shutdown⟩

/-! ### By itself -/

/-- The shutdown has come as it was to come, or it is still to come. -/
def Ahead (plan : Option Cue) (r : Chronicle) (now : Nat) : Prop :=
  match r.shutdown with
  | some cue => plan = some cue
  | none => ∀ cue, plan = some cue →
    now ≤ cue.time ∧ (cue.time = now → countAt now r.deeds ≤ cue.after)

variable {plan : Option Cue}

/-- The shutdown is not due when it is still to come after a step of the informer. -/
theorem Tracked.not_isDue_of_acted (tracked : Tracked i d mark r w) {move : Move FeedAction}
    (ahead : Ahead plan { r with deeds := r.deeds ++ [⟨w.surroundings.now, move⟩] }
      w.surroundings.now) :
    Ahead plan r w.surroundings.now ∧ ¬(w.sight i d mark r.deeds).IsDue plan := by
  unfold Ahead at ahead ⊢
  cases shutdown : r.shutdown with
  | some cue =>
    simp only [shutdown] at ahead ⊢
    refine ⟨ahead, fun due => ?_⟩
    have down := tracked.down
    rw [shutdown] at down
    exact absurd (down.symm.trans due.1) nofun
  | none =>
    simp only [shutdown, countAt_append] at ahead ⊢
    constructor
    · intro cue planned
      obtain ⟨late, after⟩ := ahead cue planned
      exact ⟨late, fun now => Nat.le_of_succ_le (after now)⟩
    · rintro ⟨-, due⟩
      exact absurd ((ahead _ due).2 rfl) (Nat.not_succ_le_self _)

/-- An informer that is called begins by itself. -/
theorem Tracked.leads_called (tracked : Tracked i d mark r w) (uncalled : r.called = none)
    (ahead : Ahead plan r w.surroundings.now) :
    ReflTransGen (Solo.Step d.informer.feed plan)
      (.fresh d.informer.script w.surroundings.now (plan.any (·.time < w.surroundings.now)))
      (w.sight i d mark r.deeds) := by
  obtain ⟨-, -, sight, first⟩ := tracked.uncalled uncalled
  rw [sight, tracked.down]
  unfold Ahead at ahead
  cases shutdown : r.shutdown with
  | some cue =>
    simp only [shutdown] at ahead
    subst ahead
    -- The shutdown has come before this moment, or comes before the informer begins.
    rcases Nat.lt_or_eq_of_le (tracked.past cue shutdown) with before | now
    · simp only [Option.any_some, before, decide_true, Option.isSome_some]
      exact .refl
    · have late : decide (cue.time < w.surroundings.now) = false := by simp [now]
      simp only [Option.any_some, late, Option.isSome_some]
      refine .single (.falls ⟨rfl, ?_⟩)
      simp [Solo.fresh, countAt, ← now, ← first cue shutdown]
  | none =>
    simp only [shutdown] at ahead
    have late : plan.any (·.time < w.surroundings.now) = false := by
      cases planned : plan with
      | none => rfl
      | some cue => simpa using (ahead cue planned).1
    rw [late]
    exact .refl

/-- An informer that has been launched and can take no step is stuck. -/
theorem Placed.stuck (placed : Placed i d w) (started : w.started = true)
    (stuck : w.poll? (.task (.informer i)) = none) :
    (w.playOf i d).next? w.surroundings.now (w.isCancelled .shutdown) = none := by
  have launched := placed.launched
  rw [Launched, started, if_pos rfl] at launched
  have there := congrArg (·[i]?) launched
  simp only [List.getElem?_map, placed.tracked, Option.map_some, Option.map_eq_some_iff] at there
  obtain ⟨t, found, place⟩ := there
  simp only [InformerTask.place, Driver.place, Prod.mk.injEq] at place
  obtain ⟨-, -, stop⟩ := place
  simp only [poll?, pollTask?, found, Option.map_eq_none_iff] at stuck
  rw [playOf, found]
  unfold InformerTask.step? at stuck
  split at stuck
  · next nothing =>
    rw [stop] at nothing
    exact nothing
  · next move play next => cases move <;> contradiction

/-- A run that has been called has launched the informers when it is not about to. -/
theorem Tracked.stuck (tracked : Tracked i d mark r w) {time : Nat} (called : r.called = some time)
    (rest : AtRest i w) :
    (w.playOf i d).next? w.surroundings.now (w.isCancelled .shutdown) = none := by
  rcases tracked.called time called with started | ⟨ctx, entered⟩
  · exact tracked.placed.stuck started rest.stuck
  · exact absurd entered (rest.entered ctx)

/-- An informer that is at rest waits by itself. -/
theorem Tracked.leads_elapsed (tracked : Tracked i d mark r w) {time : Nat}
    (called : r.called = some time) (rest : AtRest i w) {t : Nat} (later : w.surroundings.now < t)
    (early : ∀ due ∈ (w.playOf i d).alarms, t ≤ due) (ahead : Ahead plan r t) :
    ReflTransGen (Solo.Step d.informer.feed plan) (w.sight i d mark r.deeds)
      ((Machine.setNow t w : Scheduler).sight i d mark r.deeds) := by
  have stuck := tracked.stuck called rest
  obtain ⟨span, rfl⟩ := Nat.exists_eq_add_of_le (Nat.le_of_lt later)
  apply Solo.steps_wait span
  · intro k before
    apply Performance.next?_eq_none_of_alarms stuck
    intro due alarm
    have := early due alarm
    show w.surroundings.now + k < due
    omega
  · intro k before up cue planned same
    have shutdown := tracked.up up
    simp only [Ahead, shutdown] at ahead
    have := (ahead cue planned).1
    have : cue.time = w.surroundings.now + k := same
    omega

theorem Ahead.of_elapsed {now t : Nat} (ahead : Ahead plan r t) (later : now < t) :
    Ahead plan r now := by
  unfold Ahead at ahead ⊢
  cases shutdown : r.shutdown with
  | some cue =>
    simp only [shutdown] at ahead
    exact ahead
  | none =>
    simp only [shutdown] at ahead ⊢
    intro cue planned
    have := (ahead cue planned).1
    exact ⟨by omega, fun same => by omega⟩

/-- A scheduler that has been constructed has launched nothing, and nothing is in the store. -/
theorem tracked_constructed (fresh : Fresh w₀) (placed : Placed i d w₀)
    (empty : w₀.cache.stores.get d.store = .empty) {shutdown : Option Nat}
    (known : shutdown.isSome = w₀.isCancelled .shutdown)
    (past : ∀ time ∈ shutdown, time ≤ w₀.surroundings.now) :
    Tracked i d w₀.surroundings.journal.length ⟨none, shutdown.map (⟨·, 0⟩), []⟩ w₀ := by
  refine ⟨placed, Nat.le_refl _, by simp [← known], ?_, ?_, nofun⟩
  · intro cue there
    obtain ⟨time, came, rfl⟩ := Option.map_eq_some_iff.1 there
    exact past time came
  · intro _
    refine ⟨fresh.run, fresh.started, ?_, ?_⟩
    · have unsynced : w₀.cache.gate.isSynced d.informer.feed = false := by
        simpa [Feed.Gate.isSynced] using fresh.unsynced d.informer.feed
      simp [sight, Solo.fresh, playOf, fresh.informers, empty, unsynced, Surroundings.read_length]
    · intro cue there
      obtain ⟨time, -, rfl⟩ := Option.map_eq_some_iff.1 there
      rfl

/-- **By itself.** What an informer does is what it does by itself when the shutdown
comes as it comes. -/
theorem Watch.leads (fresh : Fresh w₀) (placed : Placed i d w₀)
    (empty : w₀.cache.stores.get d.store = .empty) (watch : Watch i d w₀ r w) :
    Tracked i d w₀.surroundings.journal.length r w ∧
      ∀ plan, Ahead plan r w.surroundings.now → ∀ time, r.called = some time →
        ReflTransGen (Solo.Step d.informer.feed plan)
          (.fresh d.informer.script time (plan.any (·.time < time)))
          (w.sight i d w₀.surroundings.journal.length r.deeds) := by
  -- For every plan at once: what has come of it so far decides whether it still can be kept.
  induction watch with
  | constructed shutdown known past =>
    exact ⟨tracked_constructed fresh placed empty known past, fun _ _ _ called => by cases called⟩
  | @acted r w w' move play before next polled ih =>
    obtain ⟨tracked, leads⟩ := ih
    have acts := tracked.placed.acts_of_next next polled
    refine ⟨tracked.acted acts polled, ?_⟩
    intro plan ahead time called
    rw [acts.surroundings.now] at ahead
    obtain ⟨ahead, early⟩ := tracked.not_isDue_of_acted ahead
    rw [acts.sight tracked.old]
    exact (leads plan ahead time called).tail (.acts early next)
  | @beside r w w' before beside ih =>
    obtain ⟨tracked, leads⟩ := ih
    have elsewhere := beside.elsewhere tracked.placed
    refine ⟨tracked.beside beside, ?_⟩
    intro plan ahead time called
    rw [elsewhere.now] at ahead
    rw [elsewhere.sight tracked.old]
    exact leads plan ahead time called
  | @called r w before ctx free ih =>
    obtain ⟨tracked, leads⟩ := ih
    refine ⟨tracked.begun ctx free, ?_⟩
    intro plan ahead time called
    cases first : r.called with
    | none =>
      -- By itself it begins here; nothing has been seen of it before.
      simp only [first, Option.none_or, Option.some.injEq] at called
      rw [← called]
      exact tracked.leads_called first ahead
    | some time' =>
      simp only [first, Option.some_or] at called
      exact leads plan ahead time (first.trans called)
  | @shutDown r w before up ih =>
    obtain ⟨tracked, leads⟩ := ih
    refine ⟨tracked.shutDown, ?_⟩
    intro plan ahead time called
    have planned : plan = some ⟨w.surroundings.now, countAt w.surroundings.now r.deeds⟩ := ahead
    have before : Ahead plan r w.surroundings.now := by
      simp only [Ahead, tracked.up up, planned, Option.some.injEq]
      rintro cue rfl
      exact ⟨Nat.le_refl _, fun _ => Nat.le_refl _⟩
    rw [sight_shutDown tracked.old]
    exact (leads plan before time called).tail (.falls ⟨up, planned⟩)
  | @elapsed r w before rest t later early ih =>
    obtain ⟨tracked, leads⟩ := ih
    refine ⟨tracked.elapsed later, ?_⟩
    intro plan ahead time called
    exact (leads plan (ahead.of_elapsed later) time called).trans
      (tracked.leads_elapsed called rest later early ahead)

end Scheduler

end SchedulerHost.Host
