import SchedulerHost.Host.Backend
import SchedulerHost.Proofs.Gate.Reports

/-!
# The steps of the recording

What a step of the recording of events does, what it uses up, and which moment the recording waits
for.

* `Broadcaster.Stepped` lists the steps, and `stepped_of_step?` says that there are no others.
* **Work** (`work_of_stepped`, `work_push`): every step leaves less to do, and an event that is
  sent makes at most two more.
* **Alarms** (`isSome_step?_of_due`, `due_of_isSome_step?`): the recording waits for its sink.
* **Lasting** (`Recording.Lasts`): a recording that does not end now, whenever it has its turns.
-/

namespace SchedulerHost.Host

/-- The recording does not end now, having taken all steps it can take: its token is not cancelled,
or it has to wait for its sink first. -/
structure Recording.Lasts (s : Surroundings) (r : Recording) : Prop where
  going : r.phase ≠ .ended
  kept : r.aborted = false
  waits : s.isCancelled r.stop = false ∨ ∃ event due, r.phase = .delivering event due ∧ s.now < due

namespace Broadcaster

variable {s s' : Surroundings} {b b' : Broadcaster} {r : Recording}

/-! ### Steps -/

inductive Stepped (s : Surroundings) (b : Broadcaster) (r : Recording) :
    Surroundings → Broadcaster → Prop
  | putAway (going : r.phase ≠ .ended) (aborted : r.aborted = true) :
    Stepped s b r s (b.enter r .ended)
  | begins (fresh : r.phase = .fresh) (kept : r.aborted = false) :
    Stepped s b r (s.note .outside .recordingStarted) (b.enter r .waiting)
  | stops (waiting : r.phase = .waiting) (kept : r.aborted = false)
    (down : s.isCancelled r.stop = true) : Stepped s b r (b.finish s r).1 (b.finish s r).2
  | lags (waiting : r.phase = .waiting) (kept : r.aborted = false) {missed : Nat}
    {channel : Event.Channel Event} (pulled : b.channel.pull? = some (.lagged missed, channel)) :
    Stepped s b r (s.note .outside (.eventsLagged missed)) { b with channel := channel }
  | takes (waiting : r.phase = .waiting) (kept : r.aborted = false)
    (up : s.isCancelled r.stop = false) {event : Event} {channel : Event.Channel Event}
    (pulled : b.channel.pull? = some (.item event, channel)) :
    Stepped s b r s
      ({ b with channel := channel }.enter r (.delivering event (s.now + b.sink.delay)))
  | runsDry (waiting : r.phase = .waiting) (kept : r.aborted = false) (alone : b.senders = 0) :
    Stepped s b r (b.finish s r).1 (b.finish s r).2
  | delivers (kept : r.aborted = false) {event : Event} {due : Nat}
    (delivering : r.phase = .delivering event due) (passed : due ≤ s.now) :
    Stepped s b r (b.deliver s r event).1 (b.deliver s r event).2

theorem stepped_of_receive? (waiting : r.phase = .waiting) (kept : r.aborted = false)
    (h : b.receive? s r = some (s', b')) : Stepped s b r s' b' := by
  unfold receive? at h
  split at h
  · next down =>
    cases h
    exact .stops waiting kept down
  · next up =>
    split at h
    · next missed channel pulled =>
      cases h
      exact .lags waiting kept pulled
    · next event channel pulled =>
      cases h
      exact .takes waiting kept (by simpa using up) pulled
    · split at h
      · next alone =>
        cases h
        exact .runsDry waiting kept alone
      · contradiction

/-- There are no other steps. -/
theorem stepped_of_step? (h : b.step? s = some (s', b')) :
    ∃ r, b.recording = some r ∧ Stepped s b r s' b' := by
  unfold step? at h
  split at h
  · contradiction
  · next r recording =>
    refine ⟨r, recording, ?_⟩
    split at h
    · contradiction
    · next going =>
      split at h
      · next aborted =>
        cases h
        exact .putAway going aborted
      · next kept =>
        have kept : r.aborted = false := by simpa using kept
        split at h
        · next fresh =>
          cases h
          exact .begins fresh kept
        · next waiting => exact stepped_of_receive? waiting kept h
        · next event due delivering =>
          split at h
          · next passed =>
            rw [Option.some.injEq] at h
            have delivers : Stepped s b r _ _ := .delivers kept delivering passed
            rw [h] at delivers
            exact delivers
          · contradiction
        · contradiction

/-- A recording that has ended takes no step. -/
theorem Stepped.going (h : Stepped s b r s' b') : r.phase ≠ .ended := by
  cases h with
  | putAway going => exact going
  | begins fresh => simp [fresh]
  | stops waiting => simp [waiting]
  | lags waiting => simp [waiting]
  | takes waiting => simp [waiting]
  | runsDry waiting => simp [waiting]
  | delivers kept delivering => simp [delivering]

/-- A recording that is ended from outside is put away, and does nothing else. -/
theorem Stepped.of_aborted (h : Stepped s b r s' b') (aborted : r.aborted = true) :
    s' = s ∧ b' = b.enter r .ended := by
  cases h with
  | putAway => exact ⟨rfl, rfl⟩
  | begins fresh kept => simp [aborted] at kept
  | stops waiting kept => simp [aborted] at kept
  | lags waiting kept => simp [aborted] at kept
  | takes waiting kept => simp [aborted] at kept
  | runsDry waiting kept => simp [aborted] at kept
  | delivers kept => simp [aborted] at kept

/-- The recording takes no time and cancels no tokens. -/
theorem Stepped.extends (h : Stepped s b r s' b') : s.Extends s' := by
  cases h with
  | putAway => exact .refl s
  | begins => exact .note s _ _
  | stops => exact .note s _ _
  | lags => exact .note s _ _
  | takes => exact .refl s
  | runsDry => exact .note s _ _
  | delivers =>
    unfold deliver
    split
    · exact (Surroundings.Extends.call s _).trans (.note _ _ _)
    · exact .call s _

/-! ### Work -/

/-- There is someone who can send, and room for what is sent. -/
structure Sane (b : Broadcaster) : Prop where
  senders : 0 < b.senders
  capacity : 0 < b.channel.capacity

theorem capacity_of_pull? {α : Type} {c c' : Event.Channel α} {pulled : Event.Pulled α}
    (h : c.pull? = some (pulled, c')) : c'.capacity = c.capacity := by
  unfold Event.Channel.pull? at h
  split at h
  · cases h
    rfl
  · split at h
    · contradiction
    · cases h
      rfl

theorem Sane.stepped (sane : b.Sane) (h : Stepped s b r s' b') : b'.Sane := by
  cases h with
  | putAway => exact ⟨sane.senders, sane.capacity⟩
  | begins => exact ⟨sane.senders, sane.capacity⟩
  | stops => exact ⟨sane.senders, sane.capacity⟩
  | lags waiting kept pulled =>
    refine ⟨sane.senders, ?_⟩
    rw [capacity_of_pull? pulled]
    exact sane.capacity
  | takes waiting kept up pulled =>
    refine ⟨sane.senders, ?_⟩
    have same := capacity_of_pull? pulled
    rw [enter, same]
    exact sane.capacity
  | runsDry => exact ⟨sane.senders, sane.capacity⟩
  | delivers =>
    unfold deliver
    split
    · exact ⟨sane.senders, sane.capacity⟩
    · exact ⟨sane.senders, sane.capacity⟩

/-- The recording goes on, with the token it has. -/
theorem Stepped.recording (recording : b.recording = some r) (h : Stepped s b r s' b') :
    ∃ phase, b'.recording = some { r with phase := phase } := by
  cases h with
  | putAway => exact ⟨_, rfl⟩
  | begins => exact ⟨_, rfl⟩
  | stops => exact ⟨_, rfl⟩
  | lags => exact ⟨r.phase, recording⟩
  | takes => exact ⟨_, rfl⟩
  | runsDry => exact ⟨_, rfl⟩
  | delivers =>
    unfold deliver
    split
    · exact ⟨_, rfl⟩
    · exact ⟨_, rfl⟩

/-- **Work.** Every step of the recording leaves less to do. -/
theorem work_of_stepped (recording : b.recording = some r) (h : Stepped s b r s' b') :
    b'.work < b.work := by
  cases h with
  | putAway going =>
    simp only [work, enter, recording]
    cases phase : r.phase with
    | ended => exact absurd phase going
    | fresh => simp
    | waiting => simp
    | delivering event due => simp
  | begins fresh => simp [work, enter, recording, fresh]
  | stops waiting => simp [work, finish, enter, recording, waiting]
  | lags waiting kept pulled =>
    unfold Event.Channel.pull? at pulled
    split at pulled
    · cases pulled
      simp only [work, recording, waiting]
      omega
    · split at pulled
      · contradiction
      · cases pulled
  | takes waiting kept up pulled =>
    unfold Event.Channel.pull? at pulled
    split at pulled
    · cases pulled
    · split at pulled
      · contradiction
      · next event rest items =>
        cases pulled
        simp only [work, enter, recording, waiting, items, List.length_cons]
        omega
  | runsDry waiting => simp [work, finish, enter, recording, waiting]
  | delivers kept delivering =>
    unfold deliver
    split
    · simp [work, enter, recording, delivering]
    · simp [work, enter, recording, delivering]

theorem Sane.push (sane : b.Sane) (event : Event) :
    Sane { b with channel := b.channel.push event } := by
  refine ⟨sane.senders, ?_⟩
  unfold Event.Channel.push
  split
  · exact sane.capacity
  · exact sane.capacity

/-- An event that is sent makes at most two steps more. -/
theorem work_push (sane : b.Sane) (event : Event) :
    work { b with channel := b.channel.push event } ≤ b.work + 2 := by
  have room := sane.capacity
  simp only [work, Event.Channel.push]
  split
  · simp only [List.length_append, List.length_singleton]
    omega
  · next full =>
    simp only [List.length_append, List.length_drop, List.length_singleton]
    omega

/-- An event that is recorded is sent, or nothing becomes of it. -/
theorem emit_cases (s : Surroundings) (scope : Scope) (backend : Backend) (component : String)
    (remark : Event.Remark) :
    (backend.emit s scope component remark).2 = backend ∨
      ∃ b event, backend = .structured b ∧ (backend.emit s scope component remark).2 =
        .structured { b with channel := b.channel.push event } := by
  cases backend with
  | legacy => exact .inl rfl
  | structured b =>
    simp only [Backend.emit, send]
    split
    · exact .inr ⟨b, _, rfl, rfl⟩
    · exact .inl rfl

/-! ### Alarms -/

/-- The recording goes on when its sink has done its work. -/
theorem isSome_step?_of_due {due : Nat} (alarm : due ∈ b.alarms) (passed : due ≤ s.now) :
    (b.step? s).isSome := by
  unfold alarms at alarm
  split at alarm
  · next recording =>
    obtain rfl := List.mem_singleton.1 alarm
    simp only [step?, recording]
    split
    · contradiction
    · split
      · rfl
      · rfl
  · cases alarm

/-- If the recording can go on later, but not now, it waits for its sink. -/
theorem due_of_isSome_step? {t : Nat} (goes : (b.step? { s with now := t }).isSome) :
    (b.step? s).isSome ∨ ∃ due ∈ b.alarms, due ≤ t := by
  unfold step? at goes ⊢
  cases recording : b.recording with
  | none =>
    rw [recording] at goes
    contradiction
  | some r =>
    obtain ⟨stop, phase, aborted⟩ := r
    simp only [recording] at goes ⊢
    cases phase with
    | fresh => cases aborted <;> simp
    | waiting =>
      left
      cases aborted with
      | true => simp
      | false =>
        have same : Surroundings.isCancelled { s with now := t } stop = s.isCancelled stop := rfl
        simp only [reduceCtorEq, Bool.false_eq_true, if_false, receive?, same] at goes ⊢
        split
        · rfl
        · next up =>
          rw [if_neg up] at goes
          split
          · rfl
          · rfl
          · next empty =>
            rw [empty] at goes
            split
            · rfl
            · next others =>
              rw [if_neg others] at goes
              contradiction
    | delivering event due =>
      cases aborted with
      | true => simp
      | false =>
        right
        simp only [reduceCtorEq, Bool.false_eq_true, if_false, Option.isSome_ite] at goes
        exact ⟨due, by simp [alarms, recording], goes⟩
    | ended => simp at goes

/-! ### Lasting -/

/-- A recording that does not wait for its sink lasts as long as its token is not cancelled. -/
theorem lasts_iff_of_idle (idle : r.phase = .fresh ∨ r.phase = .waiting)
    (kept : r.aborted = false) : r.Lasts s ↔ s.isCancelled r.stop = false := by
  constructor
  · intro lasts
    rcases lasts.waits with up | ⟨event, due, delivering, -⟩
    · exact up
    · simp [delivering] at idle
  · intro up
    refine ⟨?_, kept, .inl up⟩
    rcases idle with phase | phase <;> simp [phase]

/-- Whether a recording lasts does not depend on how many of its steps it has taken. -/
theorem lasts_iff_of_stepped (sane : b.Sane) (recording : b.recording = some r)
    (h : Stepped s b r s' b') {r' : Recording} (recording' : b'.recording = some r') :
    r.Lasts s ↔ r'.Lasts s := by
  cases h with
  | putAway going aborted =>
    cases recording'
    constructor
    · intro lasts
      have kept := lasts.kept
      rw [aborted] at kept
      contradiction
    · exact fun lasts => absurd rfl lasts.going
  | begins fresh kept =>
    cases recording'
    have idle : (r.phase = .fresh ∨ r.phase = .waiting) := .inl fresh
    rw [lasts_iff_of_idle idle kept]
    exact (lasts_iff_of_idle (r := { r with phase := .waiting }) (.inr rfl) kept).symm
  | stops waiting kept down =>
    cases recording'
    rw [lasts_iff_of_idle (.inr waiting) kept, down]
    exact ⟨fun up => by contradiction, fun lasts => absurd rfl lasts.going⟩
  | lags =>
    rw [recording, Option.some.injEq] at recording'
    rw [recording']
  | takes waiting kept up =>
    cases recording'
    rw [lasts_iff_of_idle (.inr waiting) kept]
    exact ⟨fun _ => ⟨by simp, kept, .inl up⟩, fun _ => up⟩
  | runsDry waiting kept alone =>
    have := sane.senders
    omega
  | @delivers kept event due delivering passed =>
    have waits : r' = { r with phase := .waiting } := by
      unfold deliver at recording'
      split at recording'
      · exact (Option.some.inj recording').symm
      · exact (Option.some.inj recording').symm
    rw [waits, lasts_iff_of_idle (r := { r with phase := .waiting }) (.inr rfl) kept]
    constructor
    · intro lasts
      rcases lasts.waits with up | ⟨event', due', delivering', early⟩
      · exact up
      · rw [delivering] at delivering'
        cases delivering'
        omega
    · exact fun up => ⟨by simp [delivering], kept, .inl up⟩

/-- A recording that can take no step and has not ended lasts. -/
theorem lasts_of_stuck (recording : b.recording = some r) (going : r.phase ≠ .ended)
    (stuck : b.step? s = none) : r.Lasts s := by
  simp only [step?, recording, if_neg going] at stuck
  split at stuck
  · contradiction
  · next kept =>
    have kept : r.aborted = false := by simpa using kept
    split at stuck
    · contradiction
    · next waiting =>
      rw [lasts_iff_of_idle (.inr waiting) kept]
      unfold receive? at stuck
      split at stuck
      · contradiction
      · next up => simpa using up
    · next event due delivering =>
      rw [ite_eq_right_iff] at stuck
      refine ⟨going, kept, .inr ⟨event, due, delivering, Nat.lt_of_not_le ?_⟩⟩
      intro passed
      exact absurd (stuck passed) (by simp)
    · next ended => exact absurd ended going

end Broadcaster

end SchedulerHost.Host
