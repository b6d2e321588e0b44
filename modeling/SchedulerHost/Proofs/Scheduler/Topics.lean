import SchedulerHost.Proofs.Scheduler.Life
import SchedulerHost.Proofs.Scheduler.Launching
import SchedulerHost.Proofs.Tasks.Reading

/-!
# Topics

What the entries of a journal are about: the calls of the informer of a feed, what is recorded, or
something else. Each of those who proceed in a scheduler keeps to its own topics.

* `Surroundings.Enters`: nothing has been entered but on some topics.
* **One fact per agent**: the run enters nothing on recorded events or on a feed
  (`enters_proceed`), nor does a core that records nothing (`CoreTask.step?_cases`); an informer
  keeps to its feed (`InformerTask.enters_step?`), and the recording to the events
  (`Broadcaster.enters_stepped`).
-/

namespace SchedulerHost.Host

open Feed (FeedId)

inductive Topic where
  | plain
  | events
  | feed (feed : FeedId)
deriving DecidableEq

/-- What an entry is about: the calls of the informer of a feed; events that reach a backend, are
lost or are dropped; or anything else. -/
def Entry.topic (e : Entry) : Topic :=
  match e.what with
  | .call (.informerRun feed) | .call (.informerSync feed _) | .call (.informerStop feed) =>
    .feed feed
  | .call (.sinkAccept _ _) | .call (.sinkRefuse _) | .call (.legacyRecorder _)
  | .call (.legacyEvent _ _ _ _ _) | .notice _ (.eventsLagged _)
  | .notice _ (.eventDropped _) => .events
  | _ => .plain

/-! ### Entering -/

/-- What has been entered in between keeps to some topics. -/
def Surroundings.Enters (p : Topic → Prop) (s s' : Surroundings) : Prop :=
  ∃ entered, s'.journal = entered ++ s.journal ∧ ∀ e ∈ entered, p e.topic

namespace Surroundings

variable {p q : Topic → Prop} {s s' s'' : Surroundings}

theorem Enters.of_journal (same : s'.journal = s.journal) : Enters p s s' :=
  ⟨[], by rw [same, List.nil_append], fun _ there => by cases there⟩

theorem Enters.refl (p : Topic → Prop) (s : Surroundings) : Enters p s s := .of_journal rfl

theorem Enters.trans (first : Enters p s s') (last : Enters p s' s'') : Enters p s s'' := by
  obtain ⟨entered, grown, keeps⟩ := first
  obtain ⟨entered', grown', keeps'⟩ := last
  refine ⟨entered' ++ entered, by rw [grown', grown, List.append_assoc], ?_⟩
  intro e there
  rcases List.mem_append.1 there with after | before
  · exact keeps' e after
  · exact keeps e before

theorem Enters.mono (h : Enters p s s') (wider : ∀ topic, p topic → q topic) : Enters q s s' := by
  obtain ⟨entered, grown, keeps⟩ := h
  exact ⟨entered, grown, fun e there => wider _ (keeps e there)⟩

theorem enters_note (s : Surroundings) (scope : Scope) (n : Notice)
    (h : p (Entry.topic ⟨s.now, .notice scope n⟩)) : Enters p s (s.note scope n) :=
  ⟨[⟨s.now, .notice scope n⟩], rfl, fun _ there => by rwa [List.mem_singleton.1 there]⟩

theorem enters_call (s : Surroundings) (c : Call) (h : p (Entry.topic ⟨s.now, .call c⟩)) :
    Enters p s (s.call c) :=
  ⟨[⟨s.now, .call c⟩], rfl, fun _ there => by rwa [List.mem_singleton.1 there]⟩

theorem enters_cancel (s : Surroundings) (token : Token) : Enters p s (s.cancel token) :=
  .of_journal (s.journal_cancel token)

/-- A reader of other topics picks nothing out. -/
theorem Enters.tells {β : Type} {f : Entry → Option β} (h : Enters p s s')
    (deaf : ∀ e : Entry, p e.topic → f e = none) : Tells f [] s s' := by
  obtain ⟨entered, grown, keeps⟩ := h
  refine ⟨entered, grown, ?_⟩
  have nothing : entered.filterMap f = [] := by
    rw [List.filterMap_eq_nil_iff]
    exact fun e there => deaf e (keeps e there)
  rw [nothing, List.reverse_nil]

end Surroundings

open Surroundings (Enters enters_note enters_call enters_cancel)

variable {s s' : Surroundings}

/-- A report of a sync is noted, which is a plain entry. -/
theorem enters_noteSync {p : Topic → Prop} (plain : p .plain) (s : Surroundings) (scope : Scope)
    (feed : FeedId) (outcome : Feed.SyncOutcome) :
    Enters p s (noteSync s scope feed outcome) := by
  cases outcome with
  | transitioned => exact enters_note s scope _ plain
  | already => exact .refl p s
  | unknown => exact enters_note s scope _ plain

/-! ### The tasks -/

/-- What an informer may enter. -/
def Topic.IsOfFeed (feed : FeedId) (topic : Topic) : Prop := topic = .plain ∨ topic = .feed feed

def Topic.IsOfEvents (topic : Topic) : Prop := topic = .plain ∨ topic = .events

theorem InformerTask.enters_step? {told : Bool} {c c' : Cache} {t t' : InformerTask}
    (h : t.step? s c = some (told, s', c', t')) : Enters (Topic.IsOfFeed t.feed) s s' := by
  unfold step? at h
  split at h
  · contradiction
  · next move play next =>
    cases move with
    | begin =>
      cases h
      exact (enters_note s _ _ (.inl rfl)).trans (enters_call _ _ (.inr rfl))
    | finish =>
      cases h
      exact (enters_call s _ (.inr rfl)).trans (enters_note _ _ _ (.inl rfl))
    | pass =>
      cases h
      exact .refl _ s
    | act a =>
      cases h
      cases a with
      | insert key object => exact .refl _ s
      | remove key => exact .refl _ s
      | replace listing => exact .refl _ s
      | sync =>
        exact (enters_noteSync (.inl rfl) s (.informer t.feed) t.feed _).trans
          (enters_call _ _ (.inr rfl))

/-- A core makes a remark, or does not touch the backend and enters nothing about events. -/
theorem CoreTask.step?_cases {c : Cache} {b b' : Backend} {t t' : CoreTask}
    (h : t.step? s c b = some (s', b', t')) :
    ∃ move play, t.play.next? s.now (s.isCancelled .shutdown) = some (move, play) ∧
      ((∃ remark, move = .act (.event remark) ∧
          s' = (b.emit s .core t.component remark).1 ∧
          b' = (b.emit s .core t.component remark).2) ∨
        ((∀ remark, move ≠ .act (.event remark)) ∧ b' = b ∧ Enters (· = .plain) s s')) := by
  unfold step? at h
  split at h
  · contradiction
  · next move play next =>
    refine ⟨move, play, next, ?_⟩
    -- All but a remark leave the backend alone and enter a call of the core at most.
    rcases move with _ | ⟨remark | _⟩ | _ | _
    case act.event =>
      cases h
      exact .inl ⟨remark, rfl, rfl, rfl⟩
    all_goals
      right
      cases h
      refine ⟨by simp, rfl, ?_⟩
    case begin => exact enters_call s _ rfl
    case act.look => exact enters_call s _ rfl
    case finish => exact enters_call s _ rfl
    case pass => exact .refl _ s

theorem Backend.enters_emit (s : Surroundings) (scope : Scope) (b : Backend) (component : String)
    (remark : Event.Remark) : Enters Topic.IsOfEvents s (b.emit s scope component remark).1 := by
  cases b with
  | structured b =>
    simp only [emit, Broadcaster.send]
    split
    · exact .refl _ s
    · exact enters_note s scope _ (.inr rfl)
  | legacy => exact enters_call s _ (.inr rfl)

theorem CoreTask.enters_step? {c : Cache} {b b' : Backend} {t t' : CoreTask}
    (h : t.step? s c b = some (s', b', t')) : Enters Topic.IsOfEvents s s' := by
  obtain ⟨move, play, -, ⟨remark, -, rfl, -⟩ | ⟨-, -, plain⟩⟩ := CoreTask.step?_cases h
  · exact Backend.enters_emit s .core b t.component remark
  · exact plain.mono fun _ same => .inl same

theorem Broadcaster.enters_stepped {b b' : Broadcaster} {r : Recording}
    (h : b.Stepped s r s' b') : Enters Topic.IsOfEvents s s' := by
  cases h with
  | putAway => exact .refl _ s
  | begins => exact enters_note s _ _ (.inl rfl)
  | stops => exact enters_note s _ _ (.inl rfl)
  | lags => exact enters_note s _ _ (.inr rfl)
  | takes => exact .refl _ s
  | runsDry => exact enters_note s _ _ (.inl rfl)
  | delivers =>
    unfold deliver
    split
    · exact (enters_call s _ (.inr rfl)).trans (enters_note _ _ _ (.inl rfl))
    · exact enters_call s _ (.inr rfl)

namespace Scheduler

variable {w w' : Scheduler}

/-! ### The run -/

/-- Two schedulers, the journal of the second of which has plain entries more. -/
abbrev EntersPlain (w w' : Scheduler) : Prop :=
  Enters (· = .plain) w.surroundings w'.surroundings

theorem entersPlain_giveUp (w : Scheduler) : EntersPlain w w.giveUp :=
  enters_note w.surroundings _ _ rfl

theorem entersPlain_serve (w : Scheduler) (ctx : Token) : EntersPlain w (w.serve ctx) := by
  unfold serve
  split
  · exact enters_note w.surroundings _ _ rfl
  · exact .refl _ _

theorem entersPlain_awaitFeeds (w : Scheduler) (ctx : Token) :
    EntersPlain w (w.awaitFeeds ctx) := by
  unfold awaitFeeds
  split
  · exact entersPlain_giveUp w
  · split
    · have admits : EntersPlain w w.admitCore := enters_note w.surroundings _ _ rfl
      exact admits.trans (entersPlain_serve _ ctx)
    · exact .refl _ _

theorem entersPlain_awaitFactory (w : Scheduler) (ctx : Token) (asked : Nat) :
    EntersPlain w (w.awaitFactory ctx asked) := by
  unfold awaitFactory
  split
  · exact entersPlain_giveUp w
  · split
    · have reports : EntersPlain w w.takeReport := by
        unfold takeReport
        dsimp only
        split
        · exact .refl _ _
        · exact enters_note w.surroundings _ _ rfl
      exact reports.trans (entersPlain_awaitFeeds _ ctx)
    · exact .refl _ _

theorem entersPlain_awaitCaches (w : Scheduler) (ctx : Token) :
    EntersPlain w (w.awaitCaches ctx) := by
  unfold awaitCaches
  split
  · exact entersPlain_giveUp w
  · have asks : EntersPlain w (w.call .factoryWait) := enters_call w.surroundings _ rfl
    exact asks.trans (entersPlain_awaitFactory _ ctx _)

theorem entersPlain_startRecording (w : Scheduler) : EntersPlain w w.startRecording := by
  unfold startRecording
  split
  · split
    · exact .refl _ _
    · exact enters_note w.surroundings _ _ rfl
  · exact .refl _ _

theorem entersPlain_launchAll (w : Scheduler) : EntersPlain w w.launchAll := by
  have records := entersPlain_startRecording { w with started := true }
  obtain ⟨c, l, -, launches⟩ := exists_launchInformers
    { w with started := true }.startRecording.drivers { w with started := true }.startRecording
  -- Nothing is entered when an informer is launched: it notes its start itself, later.
  have informs : EntersPlain { w with started := true }.startRecording
      ({ w with started := true }.startRecording.drivers.foldl launchInformer
        { w with started := true }.startRecording) := by
    rw [launches]
    exact .refl _ _
  exact ((records.trans informs).trans (enters_call _ _ rfl)).trans (enters_note _ _ _ rfl)

/-- The run enters nothing about events or about a feed. -/
theorem enters_proceed (w : Scheduler) (ctx : Token) (phase : RunPhase) :
    EntersPlain w (w.proceed ctx phase) := by
  cases phase with
  | entered =>
    cases started : w.started with
    | true =>
      simp only [proceed, enter, started, if_true]
      exact enters_note w.surroundings _ _ rfl
    | false =>
      rw [proceed, enter_of_fresh started]
      exact (entersPlain_launchAll w).trans (entersPlain_awaitCaches _ ctx)
  | awaitingFactory asked => exact entersPlain_awaitFactory w ctx asked
  | awaitingFeeds => exact entersPlain_awaitFeeds w ctx
  | serving => exact entersPlain_serve w ctx

/-- The run enters nothing about feeds or events. -/
theorem entersPlain_pollRun? (turn : w.pollRun? = some w') : EntersPlain w w' := by
  obtain ⟨ctx, phase, -, -, rfl⟩ := exists_of_pollRun? turn
  exact enters_proceed w ctx phase

/-! ### Whoever holds the scheduler -/

/-- Is nothing recorded by a command, and the recording not started? -/
def Command.isSilent : Command → Bool
  | .cancel _ | .register _ | .markSynced _ | .contents _ => true
  | _ => false

theorem surroundings_withCache (w : Scheduler) (told : Bool) (c : Cache) :
    (w.withCache told c).surroundings = w.surroundings := by
  unfold withCache
  split <;> rfl

/-- A command that records nothing and starts no recording makes plain entries only. -/
theorem entersPlain_perform (w : Scheduler) {c : Command} (silent : c.isSilent = true) :
    EntersPlain w (w.perform c).1 := by
  cases c with
  | cancel token => exact enters_cancel w.surroundings token
  | register feed =>
    simp only [perform, register]
    split
    · exact .refl _ _
    · next id s c taken =>
      obtain ⟨-, -, -, rfl⟩ := registerFeed_eq_ok taken
      exact enters_note w.surroundings _ _ rfl
  | markSynced feed => exact enters_noteSync (p := (· = .plain)) rfl w.surroundings .outside feed _
  | contents feed => exact .refl _ _
  | _ => contradiction

theorem enters_record (w : Scheduler) (component : String) (remark : Event.Remark) :
    Enters Topic.IsOfEvents w.surroundings (w.record component remark).surroundings := by
  unfold record
  cases structured : w.backend with
  | legacy => exact (enters_call _ _ (.inr rfl)).trans (enters_call _ _ (.inr rfl))
  | structured b => exact Backend.enters_emit w.surroundings .outside _ component remark

theorem entersPlain_settleTask (w : Scheduler) (task : Task) :
    EntersPlain w (w.settleTask task).1 := by
  unfold settleTask
  split
  · exact enters_note w.surroundings _ _ rfl
  · exact enters_note w.surroundings _ _ rfl
  · have same : (w.abort task).surroundings = w.surroundings := by
      cases task with
      | recording =>
        simp only [abort, cutShort]
        split <;> rfl
      | informer i => rfl
      | core => rfl
    exact .of_journal (congrArg Surroundings.journal same)

end Scheduler

end SchedulerHost.Host
