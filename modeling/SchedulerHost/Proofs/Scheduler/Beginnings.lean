import SchedulerHost.Proofs.Scheduler.Apart
import SchedulerHost.Proofs.Scheduler.Standing

/-!
# Beginnings

The informer factory, the recording of events, each informer and the core are begun at most once in
the life of a scheduler.

* `Entry.beginning?`: the beginning that an entry of the journal tells of.
* **One beginning per step** (`Step.begins`): a step begins one thing at most, which had not begun
  before, and what has begun has begun for good (`Begun.step`).
* **Once** (`nodup_beginnings`): the journal tells of no beginning twice.
-/

namespace SchedulerHost.Host

open Feed (FeedId)
open Surroundings (Tells tells_note tells_call tells_cancel)

inductive Beginning where
  | factory
  | recording
  | informer (feed : FeedId)
  | core
deriving DecidableEq

def Entry.beginning? (e : Entry) : Option Beginning :=
  match e.what with
  | .call .factoryStart => some .factory
  | .call (.informerRun feed) => some (.informer feed)
  | .call (.coreRun _) => some .core
  | .notice _ .recordingStarted => some .recording
  | _ => none

abbrev Surroundings.TellsOf (begun : List Beginning) (s s' : Surroundings) : Prop :=
  Tells Entry.beginning? begun s s'

open Surroundings (TellsOf)

variable {s s' : Surroundings}

theorem tellsOf_noteSync (s : Surroundings) (scope : Scope) (feed : FeedId)
    (outcome : Feed.SyncOutcome) : TellsOf [] s (noteSync s scope feed outcome) := by
  cases outcome with
  | transitioned => exact tells_note _ s _ _
  | already => exact .refl _ s
  | unknown => exact tells_note _ s _ _

/-! ### The tasks -/

def Recording.beginning? (r : Recording) : Option Beginning :=
  if r.phase = .fresh ∧ r.aborted = false then some .recording else none

theorem Broadcaster.tellsOf_stepped {b b' : Broadcaster} {r : Recording}
    (h : b.Stepped s r s' b') : TellsOf r.beginning?.toList s s' := by
  -- A recording that is ended from outside before its first step does not begin any more.
  cases h with
  | putAway going aborted =>
    rw [Recording.beginning?, if_neg (by simp [aborted])]
    exact .refl _ s
  | begins fresh kept =>
    rw [Recording.beginning?, if_pos ⟨fresh, kept⟩]
    exact tells_note _ s _ _
  | stops waiting =>
    rw [Recording.beginning?, if_neg (by simp [waiting])]
    exact tells_note _ s _ _
  | lags waiting =>
    rw [Recording.beginning?, if_neg (by simp [waiting])]
    exact tells_note _ s _ _
  | takes waiting =>
    rw [Recording.beginning?, if_neg (by simp [waiting])]
    exact .refl _ s
  | runsDry waiting =>
    rw [Recording.beginning?, if_neg (by simp [waiting])]
    exact tells_note _ s _ _
  | delivers kept delivering =>
    rw [Recording.beginning?, if_neg (by simp [delivering])]
    unfold deliver
    split
    · exact (tells_call _ s _).trans (tells_note _ _ _ _)
    · exact tells_call _ s _

/-- After a step the recording is fresh no more. -/
theorem Broadcaster.Stepped.unfresh {b b' : Broadcaster} {r : Recording}
    (h : b.Stepped s r s' b') (recording : b.recording = some r) :
    ∃ r', b'.recording = some r' ∧ r'.phase ≠ .fresh := by
  cases h with
  | putAway => exact ⟨_, rfl, nofun⟩
  | begins => exact ⟨_, rfl, nofun⟩
  | stops => exact ⟨_, rfl, nofun⟩
  | lags waiting => exact ⟨r, recording, by rw [waiting]; exact nofun⟩
  | takes => exact ⟨_, rfl, nofun⟩
  | runsDry => exact ⟨_, rfl, nofun⟩
  | delivers =>
    unfold deliver
    split
    · exact ⟨_, rfl, nofun⟩
    · exact ⟨_, rfl, nofun⟩

def Performance.beginning? {α : Type} (p : Performance α) (begun : Beginning) :
    Option Beginning :=
  if p.fate = .pending then some begun else none

/-- The first step of a performance tells of its beginning, and no other does. -/
theorem Performance.beginning?_of_next? {α : Type} {p p' : Performance α} {now : Nat}
    {down : Bool} {move : Move α} (next : p.next? now down = some (move, p'))
    (begun : Beginning) :
    (move = .begin ∧ p.beginning? begun = some begun) ∨
      (move ≠ .begin ∧ p.beginning? begun = none) := by
  cases stepped_of_next? next with
  | begins pending => exact .inl ⟨rfl, if_pos pending⟩
  | finishes going => exact .inr ⟨nofun, if_neg (by simp [going])⟩
  | breaksOff going => exact .inr ⟨nofun, if_neg (by simp [going])⟩
  | fallsAsleep going => exact .inr ⟨nofun, if_neg (by simp [going])⟩
  | wakesUp going => exact .inr ⟨nofun, if_neg (by simp [going])⟩
  | goesOn going => exact .inr ⟨nofun, if_neg (by simp [going])⟩
  | panics going => exact .inr ⟨nofun, if_neg (by simp [going])⟩
  | acts going => exact .inr ⟨nofun, if_neg (by simp [going])⟩

theorem InformerTask.tellsOf_step? {told : Bool} {c c' : Cache} {t t' : InformerTask}
    (h : t.step? s c = some (told, s', c', t')) :
    TellsOf (t.play.beginning? (.informer t.feed)).toList s s' := by
  unfold step? at h
  split at h
  · contradiction
  · next move play next =>
    rcases Performance.beginning?_of_next? next (.informer t.feed) with ⟨rfl, same⟩ | ⟨other, same⟩
    · rw [same]
      cases h
      exact (tells_note _ s _ _).trans (tells_call _ _ _)
    · rw [same]
      cases move with
      | begin => contradiction
      | finish =>
        cases h
        exact (tells_call _ s _).trans (tells_note _ _ _ _)
      | pass =>
        cases h
        exact .refl _ s
      | act a =>
        cases h
        cases a with
        | insert key object => exact .refl _ s
        | remove key => exact .refl _ s
        | replace listing => exact .refl _ s
        | sync =>
          exact (tellsOf_noteSync s (.informer t.feed) t.feed _).trans (tells_call _ _ _)

theorem Backend.tellsOf_emit (s : Surroundings) (scope : Scope) (b : Backend) (component : String)
    (remark : Event.Remark) : TellsOf [] s (b.emit s scope component remark).1 := by
  cases b with
  | structured b =>
    simp only [emit, Broadcaster.send]
    split
    · exact .refl _ s
    · exact tells_note _ s scope _
  | legacy => exact tells_call _ s _

theorem CoreTask.tellsOf_step? {c : Cache} {b b' : Backend} {t t' : CoreTask}
    (h : t.step? s c b = some (s', b', t')) : TellsOf (t.play.beginning? .core).toList s s' := by
  unfold step? at h
  split at h
  · contradiction
  · next move play next =>
    rcases Performance.beginning?_of_next? next .core with ⟨rfl, same⟩ | ⟨other, same⟩
    · rw [same]
      cases h
      exact tells_call _ s _
    · rw [same]
      cases move with
      | begin => contradiction
      | finish =>
        cases h
        exact tells_call _ s _
      | pass =>
        cases h
        exact .refl _ s
      | act a =>
        cases a with
        | look =>
          cases h
          exact tells_call _ s _
        | event remark =>
          cases h
          exact Backend.tellsOf_emit s .core b t.component remark

namespace Scheduler

variable {mark : Nat} {w₀ w w' : Scheduler} {task : Task}

/-! ### The run -/

abbrev Unheard (w w' : Scheduler) : Prop := TellsOf [] w.surroundings w'.surroundings

theorem unheard_giveUp (w : Scheduler) : Unheard w w.giveUp := tells_note _ w.surroundings _ _

theorem unheard_serve (w : Scheduler) (ctx : Token) : Unheard w (w.serve ctx) := by
  unfold serve
  split
  · exact tells_note _ w.surroundings _ _
  · exact .refl _ _

theorem unheard_awaitFeeds (w : Scheduler) (ctx : Token) : Unheard w (w.awaitFeeds ctx) := by
  unfold awaitFeeds
  split
  · exact unheard_giveUp w
  · split
    · have admits : Unheard w w.admitCore := tells_note _ w.surroundings _ _
      exact admits.trans (unheard_serve _ ctx)
    · exact .refl _ _

theorem unheard_awaitFactory (w : Scheduler) (ctx : Token) (asked : Nat) :
    Unheard w (w.awaitFactory ctx asked) := by
  unfold awaitFactory
  split
  · exact unheard_giveUp w
  · split
    · have reports : Unheard w w.takeReport := by
        unfold takeReport
        dsimp only
        split
        · exact .refl _ _
        · exact tells_note _ w.surroundings _ _
      exact reports.trans (unheard_awaitFeeds _ ctx)
    · exact .refl _ _

theorem unheard_awaitCaches (w : Scheduler) (ctx : Token) : Unheard w (w.awaitCaches ctx) := by
  unfold awaitCaches
  split
  · exact unheard_giveUp w
  · have asks : Unheard w (w.call .factoryWait) := tells_call _ w.surroundings _
    exact asks.trans (unheard_awaitFactory _ ctx _)

theorem unheard_startRecording (w : Scheduler) : Unheard w w.startRecording := by
  unfold startRecording
  split
  · split
    · exact .refl _ _
    · exact tells_note _ w.surroundings _ _
  · exact .refl _ _

/-- Of all that is launched at once only the factory begins at once. -/
theorem tellsOf_launchAll (w : Scheduler) :
    TellsOf [.factory] w.surroundings w.launchAll.surroundings := by
  have records := unheard_startRecording { w with started := true }
  obtain ⟨c, l, -, launches⟩ := exists_launchInformers
    { w with started := true }.startRecording.drivers { w with started := true }.startRecording
  have informs : Unheard { w with started := true }.startRecording
      ({ w with started := true }.startRecording.drivers.foldl launchInformer
        { w with started := true }.startRecording) := by
    rw [launches]
    exact .refl _ _
  exact ((records.trans informs).trans (tells_call _ _ .factoryStart)).trans (tells_note _ _ _ _)

/-- The beginning that a turn of the run tells of. -/
theorem tellsOf_pollRun? (turn : w.pollRun? = some w') :
    (w.started = false ∧ w'.started = true ∧
        TellsOf [.factory] w.surroundings w'.surroundings) ∨ Unheard w w' := by
  obtain ⟨ctx, phase, -, -, rfl⟩ := exists_of_pollRun? turn
  cases phase with
  | entered =>
    cases started : w.started with
    | true =>
      right
      rw [proceed, enter, if_pos started]
      exact tells_note _ w.surroundings _ _
    | false =>
      left
      rw [proceed, enter_of_fresh started]
      obtain ⟨s, c, b, first, l, -, -, same⟩ := w.exists_launchAll
      refine ⟨rfl, ?_, (tellsOf_launchAll w).trans (unheard_awaitCaches _ ctx)⟩
      rw [(turned_awaitCaches _ ctx).informers.2, same]
  | awaitingFactory asked => exact .inr (unheard_awaitFactory w ctx asked)
  | awaitingFeeds => exact .inr (unheard_awaitFeeds w ctx)
  | serving => exact .inr (unheard_serve w ctx)

/-! ### Whoever holds the scheduler -/

theorem unheard_perform (w : Scheduler) {c : Command} (brief : c.isBrief = true) :
    Unheard w (w.perform c).1 := by
  cases c with
  | run ctx => contradiction
  | advance ms => contradiction
  | drain ms => contradiction
  | cancel token => exact tells_cancel _ w.surroundings token
  | contents feed => exact .refl _ _
  | register feed =>
    simp only [perform, register]
    split
    · exact .refl _ _
    · next id s c taken =>
      obtain ⟨-, -, -, rfl⟩ := registerFeed_eq_ok taken
      exact tells_note _ w.surroundings _ _
  | markSynced feed => exact tellsOf_noteSync w.surroundings .outside feed _
  | record component remark =>
    simp only [perform, record]
    cases structured : w.backend with
    | legacy => exact (tells_call _ _ _).trans (tells_call _ _ _)
    | structured b => exact Backend.tellsOf_emit w.surroundings .outside _ component remark
  | startRecording stop =>
    simp only [perform, startRecordingBy]
    split
    · split
      · exact .refl _ _
      · exact .refl _ _
    · exact .refl _ _

theorem unheard_settleTask (w : Scheduler) (task : Task) : Unheard w (w.settleTask task).1 := by
  unfold settleTask
  split
  · exact tells_note _ w.surroundings _ _
  · exact tells_note _ w.surroundings _ _
  · obtain ⟨backend, informers, core, same⟩ := w.exists_cutShort task
    rw [abort, same]
    exact .refl _ _

/-! ### Having begun -/

/-- A task has begun, or has been ended before it could. -/
def HasBegun (w : Scheduler) : Task → Prop
  | .recording => ∃ r, w.recording? = some r ∧ r.phase ≠ .fresh
  | task => w.fate task ≠ .pending

theorem HasBegun.hasTask (begun : w.HasBegun task) : w.HasTask task := by
  by_cases there : w.HasTask task
  · exact there
  · cases task with
    | recording =>
      obtain ⟨r, recording, -⟩ := begun
      rw [HasTask, recording]
      rfl
    | informer i => exact absurd (fate_of_absent there) begun
    | core => exact absurd (fate_of_absent there) begun

theorem HasBegun.of_untouched (begun : w.HasBegun task) (same : Untouched w w' task) :
    w'.HasBegun task := by
  cases task with
  | recording =>
    have same : w'.recording? = w.recording? := same
    rw [HasBegun, same]
    exact begun
  | informer i =>
    show w'.fate (.informer i) ≠ .pending
    rw [same.fate]
    exact begun
  | core =>
    show w'.fate .core ≠ .pending
    rw [same.fate]
    exact begun

theorem HasBegun.of_same (begun : w.HasBegun task) (informers : w'.informers = w.informers)
    (core : w'.core = w.core) (recording : w'.recording? = w.recording?) : w'.HasBegun task :=
  begun.of_untouched (.of_same informers core recording task)

/-- Whoever has taken a step has begun. -/
theorem TaskStep.hasBegun (step : TaskStep w task w') : w'.HasBegun task := by
  cases step with
  | recording structured started stepped => exact stepped.unfresh started
  | @informer i t move play s c l told found next works =>
    have inside := (List.getElem?_eq_some_iff.1 found).1
    simp only [HasBegun, fate, List.getElem?_set_self inside]
    exact (Performance.stepped_of_next? next).fate_ne_pending
  | core found next => exact (Performance.stepped_of_next? next).fate_ne_pending

theorem HasBegun.cutShort (begun : w.HasBegun task) (other : Task) :
    (w.cutShort other).HasBegun task := by
  by_cases same : task = other
  · subst same
    have there := begun.hasTask
    -- Whoever is over stays as it is, and whoever is not is ended.
    have fate (whole : w.fate task ≠ .pending) :
        (w.cutShort task).fate task ≠ .pending ∨ IsCut (w.cutShort task) task := by
      cases done : (w.fate task).isOver with
      | true =>
        left
        rw [fate_cutShort done]
        exact whole
      | false => exact .inr (cut_cutShort there done)
    cases task with
    | recording =>
      obtain ⟨r, recording, unfresh⟩ := begun
      exact ⟨{ r with aborted := true }, by rw [recording?_cutShort, recording]; rfl, unfresh⟩
    | informer i =>
      refine (fate begun).elim id fun cut => ?_
      have cut : (w.cutShort (.informer i)).fate (.informer i) = .aborted := cut
      simp [HasBegun, cut]
    | core =>
      refine (fate begun).elim id fun cut => ?_
      have cut : (w.cutShort .core).fate .core = .aborted := cut
      simp [HasBegun, cut]
  · exact begun.of_untouched (untouched_cutShort same)

/-- What has begun has begun for good. -/
theorem HasBegun.step (order : InOrder mark w) (begun : w.HasBegun task) (step : Step w w') :
    w'.HasBegun task := by
  cases step with
  | stirred stir =>
    rcases stir.kinds with turn | ⟨other, step⟩ | asked | ⟨l, rfl⟩
    · exact begun.of_untouched (untouched_pollRun? order turn begun.hasTask)
    · by_cases same : task = other
      · rw [same]
        exact step.hasBegun
      · exact begun.of_untouched (step.untouched same)
    · exact begun.of_untouched (asked.untouched begun.hasTask)
    · exact begun.of_same rfl rfl rfl
  | elapsed t later => exact begun.of_same rfl rfl rfl
  | begun ctx free => exact begun.of_same rfl rfl rfl
  | takenOver free => exact begun.of_same rfl rfl rfl
  | settled other =>
    rcases settleTask_cases w other with ⟨n, same⟩ | same
    · rw [same]
      exact begun.of_same rfl rfl rfl
    · rw [same]
      exact (begun.cutShort other).of_same rfl rfl rfl
  | concluded n notice => exact begun.of_same rfl rfl rfl

def Begun (w : Scheduler) : Beginning → Prop
  | .factory => w.started = true
  | .recording => w.HasBegun .recording
  | .informer feed => ∃ i d, w.drivers[i]? = some d ∧ d.informer.feed = feed ∧
    w.HasBegun (.informer i)
  | .core => w.HasBegun .core

theorem Step.started (step : Step w w') (started : w.started = true) : w'.started = true := by
  rcases step.cases with turn | ⟨ctx, -, rfl⟩ | aside
  · obtain ⟨ctx, phase, -, ⟨-, fresh, -⟩ | ⟨-, turned⟩⟩ := turned_of_pollRun? turn
    · rw [started] at fresh
      contradiction
    · exact turned.informers.2.trans started
  · exact started
  · exact aside.started.trans started

theorem Begun.step {b : Beginning} (order : InOrder mark w) (begun : w.Begun b)
    (step : Step w w') : w'.Begun b := by
  cases b with
  | factory => exact step.started begun
  | recording =>
    have begun : w.HasBegun .recording := begun
    exact begun.step order step
  | informer feed =>
    obtain ⟨i, d, tracked, same, begun⟩ := begun
    have drivers := (Life.parts (.single step)).2
    exact ⟨i, d, by rw [drivers, tracked], same, begun.step order step⟩
  | core =>
    have begun : w.HasBegun .core := begun
    exact begun.step order step

/-! ### Feeds -/

/-- The informers have the feeds of the drivers, and no two drivers share a feed. -/
structure Fed (w : Scheduler) : Prop where
  feeds : w.informers.map (·.feed) <+: w.drivers.map (·.informer.feed)
  apart : w.drivers.Pairwise Driver.Apart

theorem Fed.step (order : InOrder mark w) (fed : Fed w) (step : Step w w') : Fed w' := by
  have drivers := (Life.parts (.single step)).2
  have apart : w'.drivers.Pairwise Driver.Apart := by
    rw [drivers]
    exact fed.apart
  refine ⟨?_, apart⟩
  rw [drivers]
  rcases step.cases with turn | ⟨ctx, -, rfl⟩ | aside
  · obtain ⟨ctx, phase, -, ⟨-, fresh, turned⟩ | ⟨-, turned⟩⟩ := turned_of_pollRun? turn
    · obtain ⟨s, c, b, first, l, -, -, same⟩ := w.exists_launchAll
      have nobody := (order.orderly.unstarted fresh).2
      rw [turned.informers.1, same, nobody, List.nil_append, List.map_map]
      exact List.prefix_rfl
    · rw [turned.informers.1]
      exact fed.feeds
  · exact fed.feeds
  · have same := congrArg (List.map Prod.fst) aside.informers
    simp only [List.map_map, Function.comp_def] at same
    rw [same]
    exact fed.feeds

theorem Fed.life (order : InOrder mark w) (fed : Fed w) (life : Life w w') : Fed w' := by
  induction life with
  | refl => exact fed
  | tail before step ih => exact ih.step (order.life before) step

/-- In a constructed scheduler no two drivers share a feed, since a feed is registered once. -/
theorem fed_of_construct {s s' : Surroundings} {assembly : Assembly} {builder : Builder}
    (built : construct s assembly builder = (s', .ok w)) : Fed w := by
  refine ⟨?_, (apart_of_construct built).1⟩
  rw [(fresh_of_construct built).informers]
  exact List.nil_prefix

/-- The driver of an informer is the only one with its feed. -/
theorem Fed.driver (fed : Fed w) {i : Nat} {t : InformerTask} (found : w.informers[i]? = some t) :
    ∃ d, w.drivers[i]? = some d ∧ d.informer.feed = t.feed ∧
      ∀ j e, w.drivers[j]? = some e → e.informer.feed = t.feed → j = i := by
  obtain ⟨behind, all⟩ := fed.feeds
  have inside := (List.getElem?_eq_some_iff.1 found).1
  have there : (w.drivers.map (·.informer.feed))[i]? = some t.feed := by
    rw [← all, List.getElem?_append_left (by simpa using inside), List.getElem?_map, found]
    rfl
  rw [List.getElem?_map, Option.map_eq_some_iff] at there
  obtain ⟨d, tracked, same⟩ := there
  refine ⟨d, tracked, same, ?_⟩
  intro j e there shared
  obtain ⟨i', rfl⟩ := List.getElem?_eq_some_iff.1 tracked
  obtain ⟨j', rfl⟩ := List.getElem?_eq_some_iff.1 there
  have apart := List.pairwise_iff_getElem.1 fed.apart
  rcases Nat.lt_trichotomy j i with before | there | after
  · exact absurd (shared.trans same.symm) (apart j i j' i' before).1
  · exact there
  · exact absurd (same.trans shared.symm) (apart i j i' j' after).1

/-! ### One beginning per step -/

/-- A step tells of one beginning at most, of something that had not begun before. -/
structure Begins (w w' : Scheduler) (begun : Option Beginning) : Prop where
  told : TellsOf begun.toList w.surroundings w'.surroundings
  new (b : Beginning) : b ∈ begun → ¬w.Begun b ∧ w'.Begun b

theorem Begins.of_unheard (unheard : Unheard w w') : Begins w w' none :=
  ⟨unheard, fun _ never => by cases never⟩

theorem Begins.of_journal (same : w'.surroundings.journal = w.surroundings.journal) :
    Begins w w' none :=
  .of_unheard (.of_journal same)

/-- A task has its beginning before it when it tells of it. -/
theorem TaskStep.begins (fed : Fed w) (next : w.pollTask? task = some w') :
    ∃ begun, Begins w w' begun := by
  have step := taskStep_of_pollTask? next
  have after := step.hasBegun
  cases task with
  | recording =>
    cases step with
    | @recording b b' r s structured started stepped =>
      refine ⟨r.beginning?, Broadcaster.tellsOf_stepped stepped, ?_⟩
      intro begun same
      rw [Recording.beginning?, Option.mem_def, Option.ite_none_right_eq_some,
        Option.some.injEq] at same
      obtain ⟨⟨fresh, -⟩, rfl⟩ := same
      refine ⟨?_, after⟩
      rintro ⟨r', there, unfresh⟩
      rw [recording?_of_structured structured, started, Option.some.injEq] at there
      exact unfresh (there ▸ fresh)
  | informer i =>
    obtain ⟨t, told, s, c, t', line, found, stepped, -, rfl⟩ := informer_of_pollTask? next
    obtain ⟨d, tracked, same, only⟩ := fed.driver found
    refine ⟨_, InformerTask.tellsOf_step? stepped, ?_⟩
    intro begun told
    rw [Performance.beginning?, Option.mem_def, Option.ite_none_right_eq_some,
      Option.some.injEq] at told
    obtain ⟨pending, rfl⟩ := told
    refine ⟨?_, i, d, tracked, same, after⟩
    rintro ⟨j, e, there, shared, already⟩
    obtain rfl := only j e there shared
    have already : w.fate (.informer j) ≠ .pending := already
    rw [fate, found] at already
    exact already pending
  | core =>
    obtain ⟨t, s, b, t', found, stepped, rfl⟩ := core_of_pollTask? next
    refine ⟨_, CoreTask.tellsOf_step? stepped, ?_⟩
    intro begun told
    rw [Performance.beginning?, Option.mem_def, Option.ite_none_right_eq_some,
      Option.some.injEq] at told
    obtain ⟨pending, rfl⟩ := told
    refine ⟨?_, after⟩
    intro already
    have already : w.fate .core ≠ .pending := already
    rw [fate, found] at already
    exact already pending

/-- **One beginning per step.** -/
theorem Step.begins (fed : Fed w) (step : Step w w') : ∃ begun, Begins w w' begun := by
  cases step with
  | stirred stir =>
    cases stir with
    | polled a next =>
      cases a with
      | run =>
        rcases tellsOf_pollRun? next with ⟨fresh, started, told⟩ | unheard
        · refine ⟨some .factory, told, ?_⟩
          rintro b ⟨⟩
          refine ⟨?_, started⟩
          intro already
          rw [Begun, fresh] at already
          contradiction
        · exact ⟨none, .of_unheard unheard⟩
      | task task => exact TaskStep.begins fed next
    | asked c brief => exact ⟨none, .of_unheard (unheard_perform w brief)⟩
    | lined l => exact ⟨none, .of_journal rfl⟩
    | marked feed => exact ⟨none, .of_journal (by rw [surroundings_withCache])⟩
    | waited => exact ⟨none, .of_journal (by rw [surroundings_withCache])⟩
    | written id f => exact ⟨none, .of_journal rfl⟩
  | elapsed t later => exact ⟨none, .of_journal rfl⟩
  | begun ctx free => exact ⟨none, .of_journal rfl⟩
  | takenOver free => exact ⟨none, .of_journal rfl⟩
  | settled task => exact ⟨none, .of_unheard (unheard_settleTask w task)⟩
  | concluded n final =>
    rcases final with rfl | ⟨names, rfl⟩
    · exact ⟨none, .of_unheard (tells_note _ w.surroundings _ _)⟩
    · exact ⟨none, .of_unheard (tells_note _ w.surroundings _ _)⟩

/-! ### Once -/

/-- The beginnings that the journal tells of, since it had a number of entries. -/
def beginnings (w : Scheduler) (mark : Nat) : List Beginning :=
  w.surroundings.read Entry.beginning? mark

/-- The journal tells of no beginning twice, and what it tells of has begun. -/
structure BegunOnce (mark : Nat) (w : Scheduler) : Prop where
  old : mark ≤ w.surroundings.journal.length
  nodup : (w.beginnings mark).Nodup
  begun : ∀ b ∈ w.beginnings mark, w.Begun b

/-- No beginning is told twice. -/
theorem BegunOnce.step {mark' : Nat} (order : InOrder mark' w) (fed : Fed w)
    (once : BegunOnce mark w) (step : Step w w') : BegunOnce mark w' := by
  obtain ⟨begun, begins⟩ := step.begins fed
  have told : w'.beginnings mark = w.beginnings mark ++ begun.toList := begins.told.read once.old
  refine ⟨Nat.le_trans once.old begins.told.length_le, ?_, ?_⟩
  · rw [told, List.nodup_append]
    refine ⟨once.nodup, by cases begun <;> simp, ?_⟩
    -- What begins now had not begun, so nothing has told of it.
    rintro b there b' new rfl
    exact (begins.new b (Option.mem_toList.1 new)).1 (once.begun b there)
  · intro b there
    rw [told, List.mem_append] at there
    rcases there with before | new
    · exact (once.begun b before).step order step
    · exact (begins.new b (Option.mem_toList.1 new)).2

theorem BegunOnce.life {mark' : Nat} (order : InOrder mark' w) (fed : Fed w)
    (once : BegunOnce mark w) (life : Life w w') : BegunOnce mark w' := by
  induction life with
  | refl => exact once
  | tail before step ih => exact ih.step (order.life before) (fed.life order before) step

/-- **Once.** In the life of a scheduler that has been constructed, nothing is begun twice. -/
theorem nodup_beginnings {s s' : Surroundings} {assembly : Assembly} {builder : Builder}
    (built : construct s assembly builder = (s', .ok w₀)) (life : Life w₀ w) :
    (w.beginnings w₀.surroundings.journal.length).Nodup := by
  have fresh := fresh_of_construct built
  have nothing : w₀.beginnings w₀.surroundings.journal.length = [] := Surroundings.read_length _ _
  have once : BegunOnce w₀.surroundings.journal.length w₀ := by
    refine ⟨Nat.le_refl _, ?_, ?_⟩
    · rw [nothing]
      exact List.nodup_nil
    · rw [nothing]
      exact fun b never => by cases never
  exact (once.life fresh.inOrder (fed_of_construct built) life).nodup

end Scheduler

end SchedulerHost.Host
