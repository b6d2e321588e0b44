import Mathlib.Algebra.Ring.Nat
import SchedulerHost.Proofs.Tasks.Reading
import SchedulerHost.Proofs.Tasks.Recording

/-!
# The books of a recording

What becomes of the events that are recorded after the recording has been started: the sink gets
them, or they are reported as lost, or the channel still has them, or they came too late.

* `Pulled.Covers`: the items that are told of by what has been taken from a channel, one after the
  other; what is reported as lost stands for so many of them.
* `Broadcaster.Ledger` accounts for every event that has been recorded since the start. It is opened
  by a new broadcaster (`ledger_new`) and kept by all that is done to it (`Ledger.starts`,
  `Ledger.sends`, `Ledger.stepped`).
* **Order and loss** (`Ledger.ordered`, `Ledger.counted`, `Ledger.skips`): the sink gets the events
  in order; those it does not get are counted, and are lost only when too many are outstanding.
-/

namespace SchedulerHost

/-! ### What is taken from a channel -/

namespace Event.Pulled

variable {α : Type} {taken : List (Pulled α)} {sent : List α}

def item? : Pulled α → Option α
  | .item a => some a
  | .lagged _ => none

/-- The number of items that were reported as lost, if it was a report. -/
def lost? : Pulled α → Option Nat
  | .item _ => none
  | .lagged missed => some missed

/-- The items that are told of by what was taken: each item itself, and for each report as many as
were lost. -/
inductive Covers : List (Pulled α) → List α → Prop
  | nil : Covers [] []
  | item {taken : List (Pulled α)} {sent : List α} (covers : Covers taken sent) (a : α) :
    Covers (taken ++ [.item a]) (sent ++ [a])
  | lagged {taken : List (Pulled α)} {sent : List α} (covers : Covers taken sent)
    (lost : List α) : Covers (taken ++ [.lagged lost.length]) (sent ++ lost)

/-- The items that were taken are in order, and each was taken once. -/
theorem Covers.sublist (h : Covers taken sent) : (taken.filterMap item?).Sublist sent := by
  induction h with
  | nil => exact .slnil
  | item covers a ih =>
    rw [List.filterMap_append]
    exact ih.append (.refl [a])
  | lagged covers lost ih =>
    rw [List.filterMap_append]
    exact ih.append (List.nil_sublist lost)

/-- Every item is taken, or counted as lost. -/
theorem Covers.length (h : Covers taken sent) :
    sent.length = (taken.filterMap item?).length + (taken.filterMap lost?).sum := by
  induction h with
  | nil => rfl
  | item covers a ih =>
    simp only [List.filterMap_append, List.length_append, List.sum_append_nat, item?, lost?, ih,
      List.filterMap_cons, List.filterMap_nil, List.length_singleton, List.sum_nil]
    omega
  | lagged covers lost ih =>
    simp only [List.filterMap_append, List.length_append, List.sum_append_nat, item?, lost?, ih,
      List.filterMap_cons, List.filterMap_nil, List.length_nil, List.sum_cons,
      List.sum_nil]
    omega

end Event.Pulled

namespace Host

open Event (Channel Pulled)

/-- What the recording has taken from the channel, as far as an entry tells: an event that the sink
has done its work on, or a report of lost events. -/
def Entry.taken? (e : Entry) : Option (Pulled Event) :=
  match e.what with
  | .call (.sinkAccept _ event) => some (.item event)
  | .call (.sinkRefuse event) => some (.item event)
  | .notice _ (.eventsLagged missed) => some (.lagged missed)
  | _ => none

namespace Broadcaster

variable {capacity : Nat} {s s' : Surroundings} {mark : Nat} {b b' : Broadcaster}
  {sent : Option (List Event)}

def atWork? (b : Broadcaster) : Option Event :=
  match b.recording with
  | some ⟨_, .delivering event _, _⟩ => some event
  | _ => none

/-- What the recording has taken from the channel since the journal had a number of entries. -/
def taken (s : Surroundings) (mark : Nat) (b : Broadcaster) : List (Pulled Event) :=
  s.read Entry.taken? mark ++ b.atWork?.toList.map .item

def passed (s : Surroundings) (mark : Nat) (b : Broadcaster) : List Event :=
  (b.taken s mark).filterMap Pulled.item?

def skipped (s : Surroundings) (mark : Nat) (b : Broadcaster) : List Nat :=
  (b.taken s mark).filterMap Pulled.lost?

/-- The events recorded since the start, if there was one, are accounted for: what the recording
has taken tells of some, then come those it is not yet told have been lost, then those that are
kept, and at last those that were recorded when it had ended. -/
structure Ledger (capacity : Nat) (s : Surroundings) (mark : Nat) (b : Broadcaster)
    (sent : Option (List Event)) : Prop where
  old : mark ≤ s.journal.length
  started : b.recording.isSome = sent.isSome
  kept (r : Recording) : b.recording = some r → r.aborted = false
  size : b.channel.capacity = Channel.roundedCapacity capacity
  fits : b.channel.kept.length ≤ b.channel.capacity
  full : 0 < b.channel.missed → b.channel.kept.length = b.channel.capacity
  books : ∃ heard lost late, sent.getD [] = heard ++ lost ++ b.channel.kept ++ late ∧
    Pulled.Covers (b.taken s mark) heard ∧ lost.length = b.channel.missed ∧
    (b.hasListener = true → late = [])

theorem Ledger.room (h : Ledger capacity s mark b sent) : 0 < b.channel.capacity := by
  rw [h.size]
  exact Channel.roundedCapacity_pos capacity

/-! ### Keeping the books -/

/-- The books of a new broadcaster. -/
theorem ledger_new (s : Surroundings) (sink : Sink) (capacity : Nat) :
    Ledger capacity s s.journal.length (.new sink capacity) none where
  old := Nat.le_refl _
  started := rfl
  kept r recording := by contradiction
  size := rfl
  fits := Nat.zero_le _
  full missed := absurd missed (Nat.lt_irrefl 0)
  books := by
    refine ⟨[], [], [], rfl, ?_, rfl, fun _ => rfl⟩
    rw [taken, Surroundings.read_length]
    exact .nil

/-- Whatever else is entered into the journal, and whoever else can send. -/
theorem Ledger.of_tells (h : Ledger capacity s mark b sent) (tells : s.Tells Entry.taken? [] s')
    (channel : b'.channel = b.channel) (recording : b'.recording = b.recording) :
    Ledger capacity s' mark b' sent where
  old := Nat.le_trans h.old tells.length_le
  started := by rw [recording]; exact h.started
  kept := by rw [recording]; exact h.kept
  size := by rw [channel]; exact h.size
  fits := by rw [channel]; exact h.fits
  full := by rw [channel]; exact h.full
  books := by
    have same : b'.taken s' mark = b.taken s mark := by
      rw [taken, taken, tells.read h.old, List.append_nil, atWork?, atWork?, recording]
    rw [same, channel, hasListener, recording]
    exact h.books

/-- The recording is started when it has not been started before. -/
theorem Ledger.start_eq (h : Ledger capacity s mark b none) (stop : Token) :
    b.start stop = .ok { b with recording := some ⟨stop, .fresh, false⟩ } := by
  have unrecorded := h.started
  rw [Option.isSome_none] at unrecorded
  rw [start, isRecording, unrecorded]
  rfl

/-- It is not started again. -/
theorem Ledger.start_again {events : List Event} (h : Ledger capacity s mark b (some events))
    (stop : Token) : b.start stop = .error .alreadyRecording := by
  have recorded := h.started
  rw [Option.isSome_some] at recorded
  rw [start, isRecording, recorded]
  rfl

/-- Nothing has been recorded at the start. -/
theorem Ledger.starts (h : Ledger capacity s mark b none) (stop : Token) :
    Ledger capacity s mark { b with recording := some ⟨stop, .fresh, false⟩ } (some []) where
  old := h.old
  started := rfl
  kept r recording := by cases recording; rfl
  size := h.size
  fits := h.fits
  full := h.full
  books := by
    obtain ⟨heard, lost, late, all, covers, counted, -⟩ := h.books
    -- Nothing is on the books yet, so the channel is empty and nothing has been taken.
    obtain ⟨rfl, rfl, items, rfl⟩ : heard = [] ∧ lost = [] ∧ b.channel.kept = [] ∧ late = [] := by
      simpa using all.symm
    have unrecorded : b.recording = none := by simpa using h.started
    refine ⟨[], [], [], by rw [items]; rfl, ?_, counted, fun _ => rfl⟩
    rw [taken, atWork?, unrecorded] at covers
    exact covers

/-- An event is pushed onto the channel while there is someone to take it. -/
theorem Ledger.pushes {events : List Event} (h : Ledger capacity s mark b (some events))
    (listening : b.hasListener = true) (event : Event) :
    Ledger capacity s mark { b with channel := b.channel.push event }
      (some (events ++ [event])) := by
  obtain ⟨heard, lost, late, all, covers, counted, none_late⟩ := h.books
  obtain rfl := none_late listening
  rw [Option.getD_some, List.append_nil] at all
  have room := h.room
  have fits := h.fits
  by_cases free : b.channel.kept.length < b.channel.capacity
  · rw [Channel.push_of_room free]
    refine ⟨h.old, h.started, h.kept, h.size, ?_, ?_, heard, lost, [], ?_, covers, counted,
      fun _ => rfl⟩
    · show (b.channel.kept ++ [event]).length ≤ b.channel.capacity
      rw [List.length_append, List.length_singleton]
      omega
    · -- A channel that has missed something is full, and this one is not.
      intro missed
      have full := h.full missed
      omega
    · simp [all]
  · -- The oldest one is lost, and it stands right after those that have been lost before.
    rw [Channel.push_of_full free]
    cases items : b.channel.kept with
    | nil =>
      rw [items, List.length_nil] at free
      omega
    | cons oldest rest =>
      rw [items] at all fits free
      rw [List.length_cons] at fits free
      refine ⟨h.old, h.started, h.kept, h.size, ?_, ?_, heard, lost ++ [oldest], [], ?_, covers, ?_,
        fun _ => rfl⟩
      · simpa using fits
      · intro missed
        simp only [List.drop_succ_cons, List.drop_zero, List.length_append, List.length_singleton]
        omega
      · simp [all]
      · rw [List.length_append, List.length_singleton, counted]

/-- Whatever is recorded is accounted for. -/
theorem Ledger.sends (h : Ledger capacity s mark b sent) (scope : Scope) (controller : String)
    (remark : Event.Remark) :
    Ledger capacity (b.send s scope controller remark).1 mark (b.send s scope controller remark).2
      (sent.map (· ++ [.of s.stamp controller remark])) := by
  unfold Broadcaster.send
  by_cases listening : b.hasListener = true
  · rw [if_pos listening]
    cases sent with
    | none =>
      have unrecorded : b.recording = none := by simpa using h.started
      simp [hasListener, unrecorded] at listening
    | some events => exact h.pushes listening _
  · rw [if_neg listening]
    have kept : Ledger capacity (s.note scope (.eventDropped remark.reason)) mark b sent :=
      h.of_tells (Surroundings.tells_note _ s scope _) rfl rfl
    cases sent with
    | none => exact kept
    | some events =>
      -- It comes too late.
      obtain ⟨heard, lost, late, all, covers, counted, -⟩ := kept.books
      rw [Option.getD_some] at all
      refine ⟨kept.old, kept.started, kept.kept, kept.size, kept.fits, kept.full, heard, lost,
        late ++ [.of s.stamp controller remark], ?_, covers, counted, ?_⟩
      · simp [all]
      · exact fun listens => absurd listens listening

/-! ### The steps of the recording -/

/-- Between two events the sink works on none. -/
theorem atWork?_eq_none {r : Recording} (recording : b.recording = some r)
    (idle : r.phase = .fresh ∨ r.phase = .waiting ∨ r.phase = .ended) : b.atWork? = none := by
  obtain ⟨stop, phase, aborted⟩ := r
  simp only at idle
  rcases idle with rfl | rfl | rfl <;> rw [atWork?, recording]

/-- What has been taken, when something more has been told. -/
theorem taken_of_tells {told : List (Pulled Event)} (old : mark ≤ s.journal.length)
    (tells : s.Tells Entry.taken? told s') :
    b'.taken s' mark = s.read Entry.taken? mark ++ told ++ b'.atWork?.toList.map .item := by
  rw [taken, tells.read old]

/-- A step of the recording takes what is next from the channel, or takes nothing. No event is taken
any more once the token is cancelled. -/
theorem taken_of_stepped {r : Recording} (old : mark ≤ s.journal.length)
    (recording : b.recording = some r) (kept : r.aborted = false) (step : Stepped s b r s' b') :
    (b'.taken s' mark = b.taken s mark ∧ b'.channel = b.channel) ∨
      ∃ pulled, b.channel.pull? = some (pulled, b'.channel) ∧
        b'.taken s' mark = b.taken s mark ++ [pulled] ∧
        (s.isCancelled r.stop = true → pulled.item? = none) := by
  -- Whoever is not at work, before and after, and notes nothing that is read has taken nothing.
  have enters (phase : RecordingPhase) (idle : r.phase = .fresh ∨ r.phase = .waiting) (n : Notice)
      (unread : Entry.taken? ⟨s.now, .notice .outside n⟩ = none)
      (still : (b.enter r phase).atWork? = none) :
      (b.enter r phase).taken (s.note .outside n) mark = b.taken s mark := by
    have before : b.atWork? = none := atWork?_eq_none recording (idle.imp_right .inl)
    rw [taken_of_tells old (Surroundings.tells_note _ s .outside n), taken, unread, still, before]
    simp
  cases step with
  | putAway going aborted =>
    rw [kept] at aborted
    contradiction
  | begins fresh => exact .inl ⟨enters .waiting (.inl fresh) _ rfl rfl, rfl⟩
  | stops waiting => exact .inl ⟨enters .ended (.inr waiting) _ rfl rfl, rfl⟩
  | runsDry waiting => exact .inl ⟨enters .ended (.inr waiting) _ rfl rfl, rfl⟩
  | @lags waiting kept missed c pulled =>
    refine .inr ⟨_, pulled, ?_, fun _ => rfl⟩
    have idle : b.atWork? = none := atWork?_eq_none recording (.inr (.inl waiting))
    have still : atWork? { b with channel := c } = none := idle
    rw [taken_of_tells old (Surroundings.tells_note _ s .outside _), taken, idle, still]
    simp [Entry.taken?]
  | @takes waiting kept up event c pulled =>
    refine .inr ⟨_, pulled, ?_, fun down => ?_⟩
    · -- The event is at work now, and not in the journal yet.
      have idle : b.atWork? = none := atWork?_eq_none recording (.inr (.inl waiting))
      rw [taken_of_tells old (.refl _ s), taken, idle]
      simp [atWork?, enter]
    · rw [up] at down
      contradiction
  | @delivers kept event due delivering passed =>
    left
    have at_work : b.atWork? = some event := by
      obtain ⟨stop, phase, aborted⟩ := r
      obtain rfl : phase = .delivering event due := delivering
      rw [atWork?, recording]
    -- What the sink worked on is in the journal now.
    have told : s.Tells Entry.taken? [.item event] (b.deliver s r event).1 := by
      unfold deliver
      split
      · exact (Surroundings.tells_call _ s (.sinkRefuse event)).trans
          (Surroundings.tells_note _ _ .outside _)
      · exact Surroundings.tells_call _ s (.sinkAccept _ event)
    have still : (b.deliver s r event).2.atWork? = none := by
      unfold deliver
      split <;> rfl
    constructor
    · rw [taken_of_tells old told, taken, at_work, still]
      simp
    · unfold deliver
      split <;> rfl

/-- Something is taken from the channel: the books are brought up to date. -/
theorem Ledger.pulls {pulled : Pulled Event} (h : Ledger capacity s mark b sent)
    (pull : b.channel.pull? = some (pulled, b'.channel))
    (told : b'.taken s' mark = b.taken s mark ++ [pulled]) :
    (0 < b'.channel.missed → b'.channel.kept.length = b'.channel.capacity) ∧
    b'.channel.kept.length ≤ b'.channel.capacity ∧
    ∃ heard lost late, sent.getD [] = heard ++ lost ++ b'.channel.kept ++ late ∧
      Pulled.Covers (b'.taken s' mark) heard ∧ lost.length = b'.channel.missed ∧
      (b.hasListener = true → late = []) := by
  obtain ⟨heard, lost, late, all, covers, counted, none_late⟩ := h.books
  have fits := h.fits
  rcases Channel.pull?_cases pull with
    ⟨missed, rfl, rest⟩ | ⟨event, rest, caught_up, items, rfl, rest_eq⟩
  · -- All that have been lost are reported at once.
    rw [rest, told]
    refine ⟨fun missed => absurd missed (Nat.lt_irrefl 0), fits, heard ++ lost, [], late, ?_, ?_,
      rfl, none_late⟩
    · simp [all]
    · rw [← counted]
      exact covers.lagged lost
  · -- None has been lost, so the oldest of those that are kept is the next.
    rw [rest_eq, told]
    obtain rfl : lost = [] := List.eq_nil_of_length_eq_zero (counted.trans caught_up)
    rw [items, List.length_cons] at fits
    refine ⟨fun missed => ?_, Nat.le_of_succ_le fits, heard ++ [event], [], late, ?_,
      covers.item event, counted, none_late⟩
    · have missed : 0 < b.channel.missed := missed
      omega
    · simp [all, items]

/-- **The books are kept.** Every step of the recording leaves every event accounted for. -/
theorem Ledger.stepped {r : Recording} (h : Ledger capacity s mark b sent)
    (recording : b.recording = some r) (step : Stepped s b r s' b') :
    Ledger capacity s' mark b' sent := by
  have kept := h.kept r recording
  have old := Nat.le_trans h.old step.extends.journal.length_le
  have size := h.size
  have listening : b.hasListener = true := by
    rw [hasListener, recording]
    simpa using step.going
  obtain ⟨phase, recording'⟩ := step.recording recording
  have started : b'.recording.isSome = sent.isSome := by
    rw [recording', ← h.started, recording]
    rfl
  have kept' (r' : Recording) (same : b'.recording = some r') : r'.aborted = false := by
    rw [recording'] at same
    cases same
    exact kept
  rcases taken_of_stepped h.old recording kept step with ⟨told, channel⟩ | ⟨pulled, pull, told, -⟩
  · obtain ⟨heard, lost, late, all, covers, counted, none_late⟩ := h.books
    refine ⟨old, started, kept', by rw [channel]; exact size, by rw [channel]; exact h.fits,
      by rw [channel]; exact h.full, heard, lost, late, ?_, ?_, ?_, fun _ => none_late listening⟩
    · rw [channel]; exact all
    · rw [told]; exact covers
    · rw [channel]; exact counted
  · obtain ⟨full, fits, heard, lost, late, all, covers, counted, none_late⟩ := h.pulls pull told
    exact ⟨old, started, kept', by rw [capacity_of_pull? pull]; exact size, fits, full, heard, lost,
      late, all, covers, counted, fun _ => none_late listening⟩

/-! ### Order and loss -/

/-- The sink gets events that were recorded since the start, in order and each once. -/
theorem Ledger.ordered (h : Ledger capacity s mark b sent) :
    (b.passed s mark).Sublist (sent.getD []) := by
  obtain ⟨heard, lost, late, all, covers, -⟩ := h.books
  rw [all, List.append_assoc, List.append_assoc]
  exact covers.sublist.trans (List.sublist_append_left heard _)

/-- As long as there is someone to take them, every event is passed to the sink, reported as lost,
or outstanding. -/
theorem Ledger.counted (h : Ledger capacity s mark b sent) (listening : b.hasListener = true) :
    (sent.getD []).length =
      (b.passed s mark).length + (b.skipped s mark).sum + b.channel.outstanding := by
  obtain ⟨heard, lost, late, all, covers, counted, none_late⟩ := h.books
  have told := covers.length
  rw [all, none_late listening]
  simp only [List.length_append, List.length_nil, Channel.outstanding, passed, skipped]
  omega

/-- Once its token is cancelled the recording passes nothing more to the sink. -/
theorem Ledger.passed_of_cancelled {r : Recording} (h : Ledger capacity s mark b sent)
    (recording : b.recording = some r) (down : s.isCancelled r.stop = true)
    (step : Stepped s b r s' b') : b'.passed s' mark = b.passed s mark := by
  rw [passed, passed]
  rcases taken_of_stepped h.old recording (h.kept r recording) step with
    ⟨told, -⟩ | ⟨pulled, -, told, nothing⟩
  · rw [told]
  · rw [told, List.filterMap_append]
    simp [nothing down]

/-- Events are lost only when more are outstanding than are kept. Then all but those are lost, and
those are the last ones. -/
theorem Ledger.skips {r : Recording} (h : Ledger capacity s mark b sent)
    (recording : b.recording = some r) (step : Stepped s b r s' b') :
    b'.skipped s' mark = b.skipped s mark ∨
      ∃ more, 0 < more ∧ b'.skipped s' mark = b.skipped s mark ++ [more] ∧
        (sent.getD []).length = (b.passed s mark).length + (b.skipped s mark).sum +
          (b.channel.capacity + more) ∧
        b'.channel.kept.length = b.channel.capacity ∧ b'.channel.kept <:+ sent.getD [] := by
  have listening : b.hasListener = true := by
    rw [hasListener, recording]
    simpa using step.going
  rw [skipped, skipped]
  rcases taken_of_stepped h.old recording (h.kept r recording) step with
    ⟨told, -⟩ | ⟨pulled, pull, told, -⟩
  · exact .inl (by rw [told])
  · rw [told, List.filterMap_append]
    rcases Channel.pull?_cases pull with ⟨missed, rfl, rest⟩ | ⟨event, rest, -, -, rfl, -⟩
    · -- A channel that has lost some is full.
      right
      have full := h.full missed
      have all := h.counted listening
      rw [Channel.outstanding, full] at all
      refine ⟨b.channel.missed, missed, rfl, all, by rw [rest]; exact full, ?_⟩
      obtain ⟨heard, lost, late, all, -, -, none_late⟩ := h.books
      rw [rest, all, none_late listening, List.append_nil]
      exact List.suffix_append _ _
    · exact .inl (List.append_nil _)

/-- When a recording that waits can take no step, nothing is outstanding. -/
theorem outstanding_of_stuck {r : Recording} (recording : b.recording = some r)
    (waiting : r.phase = .waiting) (stuck : b.step? s = none) : b.channel.outstanding = 0 := by
  simp only [step?, recording, waiting, reduceCtorEq, if_false] at stuck
  split at stuck
  · contradiction
  · unfold receive? at stuck
    split at stuck
    · contradiction
    · split at stuck
      · contradiction
      · contradiction
      · next empty =>
        unfold Channel.pull? at empty
        split at empty
        · contradiction
        · next caught_up =>
          split at empty
          · next items =>
            rw [Channel.outstanding, items, List.length_nil]
            omega
          · contradiction

end Broadcaster

end Host

end SchedulerHost
