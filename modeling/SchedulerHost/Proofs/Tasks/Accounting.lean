import Mathlib.Order.Bounds.Basic
import SchedulerHost.Host.EventDesk
import SchedulerHost.Proofs.Machine.Settling
import SchedulerHost.Proofs.Tasks.Delivering

/-!
# Delivery and loss

What becomes of the events that are recorded at an event desk, whatever the recorders, whoever
starts the recording and cancels its token, and the sink do, and in whatever order they do it.

* `EventDesk.Course`: all that may be done, told along with the events recorded since the first
  start. Whatever is asked of a desk keeps to such a course (`Course.perform`, `Course.resume`).
* **The books** (`Course.ledger`): along a course every event is accounted for.
* **Delivery and loss** (`delivery_and_loss`): which starts are granted, what the sink gets, and
  when events are lost, and how many.
-/

namespace SchedulerHost.Host

open Event (Channel)

namespace EventDesk

variable {s : Surroundings} {sink : Sink} {capacity : Nat} {sent : Option (List Event)}
  {d d' : EventDesk}

/-! ### Courses -/

/-- The sink becomes another, which may refuse other events and take longer or shorter. -/
def sway (d : EventDesk) (sink : Sink) : EventDesk :=
  match d.backend with
  | .structured b => { d with backend := .structured { b with sink := sink } }
  | .legacy => d

def Command.isBrief : Command → Bool
  | .advance _ => false
  | _ => true

/-- The events that are recorded when remarks are made through a recorder. -/
def events (d : EventDesk) (recorder : Nat) (remarks : List Event.Remark) : List Event :=
  match d.recorders[recorder]? with
  | some (some (.ofBackend component)) => remarks.map (.of d.surroundings.stamp component)
  | _ => []

/-- The events recorded since the first start, if there was one, after something was asked for. -/
def sentAfter (d : EventDesk) (sent : Option (List Event)) : Command → Option (List Event)
  | .record recorder remarks => sent.map (· ++ d.events recorder remarks)
  | .startRecording _ => if d.isHeld then some (sent.getD []) else sent
  | _ => sent

/-- What becomes of a desk with a new broadcaster, along with the events recorded since the first
start, if there was one: the recording takes a step, something is asked for, and between any two of
these time changes, and what the sink will do, and how the next events will be stamped. -/
inductive Course (s : Surroundings) (sink : Sink) (capacity : Nat) :
    Option (List Event) → EventDesk → Prop
  | opened : Course s sink capacity none (.new s (.structured (.new sink capacity)))
  | proceeded {sent : Option (List Event)} {d d' : EventDesk}
    (course : Course s sink capacity sent d) (next : Machine.poll? () d = some d') :
    Course s sink capacity sent d'
  | asked {sent : Option (List Event)} {d : EventDesk} (course : Course s sink capacity sent d)
    (c : Command) (brief : c.isBrief = true) :
    Course s sink capacity (d.sentAfter sent c) (d.perform c).1
  | elapsed {sent : Option (List Event)} {d : EventDesk} (course : Course s sink capacity sent d)
    (t : Nat) : Course s sink capacity sent (Machine.setNow t d)
  | swayed {sent : Option (List Event)} {d : EventDesk} (course : Course s sink capacity sent d)
    (sink' : Sink) : Course s sink capacity sent (d.sway sink')
  | stamped {sent : Option (List Event)} {d : EventDesk} (course : Course s sink capacity sent d)
    (stamp : Event.Stamp) : Course s sink capacity sent
      { d with surroundings := { d.surroundings with stamp := stamp } }

/-- The steps of the recording keep to the course. -/
theorem keeps_course : Machine.Keeps (Course s sink capacity sent) where
  of_poll course next := course.proceeded next
  of_line course _ := course

/-- Whatever is asked for keeps to the course, and so does the passing of time. -/
theorem Course.perform (course : Course s sink capacity sent d) (c : Command) :
    Course s sink capacity (d.sentAfter sent c) (d.perform c).1 := by
  cases c with
  | advance ms => exact keeps_course.advance (fun t course => course.elapsed t) course ms
  | _ => exact course.asked _ rfl

/-- So does what goes on afterwards. -/
theorem Course.resume (course : Course s sink capacity sent d) (hold : Bool) :
    Course s sink capacity sent (Machine.resume hold d) := by
  cases hold with
  | true => exact keeps_course.rouse course
  | false => exact keeps_course.settle (keeps_course.rouse course)

/-! ### The books -/

/-- The desk has a broadcaster whose books are kept. -/
def Booked (capacity mark : Nat) (sent : Option (List Event)) (d : EventDesk) : Prop :=
  ∃ b, d.backend = .structured b ∧ b.Ledger capacity d.surroundings mark sent

variable {mark : Nat}

/-- Nothing is done to the channel and to the recording. -/
theorem Booked.of_ledger {b b' : Broadcaster} (h : b.Ledger capacity d.surroundings mark sent)
    (backend : d'.backend = .structured b')
    (tells : d.surroundings.Tells Entry.taken? [] d'.surroundings)
    (channel : b'.channel = b.channel) (recording : b'.recording = b.recording) :
    Booked capacity mark sent d' :=
  ⟨b', backend, h.of_tells tells channel recording⟩

/-- A remark made through a recorder of the backend is recorded. -/
theorem Booked.emits (h : Booked capacity mark sent d) (component : String)
    (remark : Event.Remark) :
    Booked capacity mark (sent.map (· ++ [.of d.surroundings.stamp component remark]))
        (emit (.ofBackend component) d remark) ∧
      (emit (.ofBackend component) d remark).surroundings.stamp = d.surroundings.stamp := by
  obtain ⟨b, backend, ledger⟩ := h
  simp only [emit, backend, Backend.emit]
  refine ⟨⟨_, rfl, ledger.sends .outside component remark⟩, ?_⟩
  unfold Broadcaster.send
  split <;> rfl

/-- So are remarks that are made one right after the other. -/
theorem Booked.records (h : Booked capacity mark sent d) (component : String)
    (remarks : List Event.Remark) :
    Booked capacity mark (sent.map (· ++ remarks.map (.of d.surroundings.stamp component)))
      (remarks.foldl (emit (.ofBackend component)) d) := by
  induction remarks generalizing sent d with
  | nil =>
    have same : sent.map (· ++ ([] : List Event)) = sent := by simp
    rw [List.map_nil, same]
    exact h
  | cons remark rest ih =>
    obtain ⟨emitted, stamp⟩ := h.emits component remark
    have later := ih emitted
    rw [stamp, Option.map_map] at later
    rw [List.foldl_cons, List.map_cons]
    have joined : (fun events => events ++ (Event.of d.surroundings.stamp component remark ::
        rest.map (.of d.surroundings.stamp component))) =
        (fun events => events ++ rest.map (.of d.surroundings.stamp component)) ∘
          (· ++ [.of d.surroundings.stamp component remark]) := by
      funext events
      simp
    rw [joined]
    exact later

/-- A remark made through a legacy recorder is no business of the broadcaster. -/
theorem Booked.records_legacy (h : Booked capacity mark sent d) (source : Event.Source)
    (remarks : List Event.Remark) :
    Booked capacity mark sent (remarks.foldl (emit (.legacy source)) d) := by
  induction remarks generalizing d with
  | nil => exact h
  | cons remark rest ih =>
    obtain ⟨b, backend, ledger⟩ := h
    exact ih (.of_ledger ledger backend (Surroundings.tells_call _ d.surroundings _) rfl rfl)

/-- What is recorded goes on the books. -/
theorem Booked.record (h : Booked capacity mark sent d) (recorder : Nat)
    (remarks : List Event.Remark) :
    Booked capacity mark (sent.map (· ++ d.events recorder remarks))
      (d.record recorder remarks).1 := by
  have nothing : sent.map (· ++ ([] : List Event)) = sent := by simp
  rw [EventDesk.record, events]
  rcases d.recorders[recorder]? with _ | _ | component | source
  case none =>
    rw [nothing]
    exact h
  case some.none =>
    rw [nothing]
    exact h
  case some.some.ofBackend => exact h.records component remarks
  case some.some.legacy =>
    rw [nothing]
    exact h.records_legacy source remarks

/-- The recording is started once. -/
theorem startRecording_eq {b : Broadcaster} (held : d.isHeld = true)
    (backend : d.backend = .structured b) (h : b.Ledger capacity d.surroundings mark sent)
    (stop : Token) :
    d.startRecording stop =
      if sent.isSome then (d, .refused .alreadyRecording)
      else ({ d with backend := .structured { b with recording := some ⟨stop, .fresh, false⟩ } },
        .done) := by
  simp only [startRecording, held, backend]
  cases sent with
  | none => simp [h.start_eq stop]
  | some events => simp [h.start_again stop]

/-- The first start opens the books, and a later one leaves them as they are. -/
theorem Booked.startRecording (h : Booked capacity mark sent d) (stop : Token) :
    Booked capacity mark (if d.isHeld then some (sent.getD []) else sent)
      (d.startRecording stop).1 := by
  obtain ⟨b, backend, ledger⟩ := h
  cases held : d.isHeld with
  | false =>
    rw [EventDesk.startRecording, held]
    exact ⟨b, backend, ledger⟩
  | true =>
    rw [startRecording_eq held backend ledger]
    cases sent with
    | none => exact ⟨_, rfl, ledger.starts stop⟩
    | some events => exact ⟨b, backend, ledger⟩

/-- Whoever is gone takes nothing off the books. -/
theorem Booked.release (h : Booked capacity mark sent d) (backend' : d'.backend = d.backend.release)
    (surroundings : d'.surroundings = d.surroundings) : Booked capacity mark sent d' := by
  obtain ⟨b, backend, ledger⟩ := h
  rw [backend] at backend'
  refine .of_ledger ledger backend' ?_ rfl rfl
  rw [surroundings]
  exact .refl _ _

/-- Whatever is asked for, the books are kept. -/
theorem Booked.perform (h : Booked capacity mark sent d) {c : Command} (brief : c.isBrief = true) :
    Booked capacity mark (d.sentAfter sent c) (d.perform c).1 := by
  obtain ⟨b, backend, ledger⟩ := id h
  cases c with
  | advance ms => contradiction
  | newRecorder component =>
    simp only [EventDesk.perform, newRecorder, backend, Backend.newRecorder]
    split
    · exact .of_ledger ledger rfl (.refl _ _) rfl rfl
    · exact h
  | newLegacyRecorder source =>
    exact .of_ledger ledger backend (Surroundings.tells_call _ d.surroundings _) rfl rfl
  | record recorder remarks => exact h.record recorder remarks
  | startRecording stop => exact h.startRecording stop
  | cancel token =>
    exact .of_ledger ledger backend (Surroundings.tells_cancel _ d.surroundings token) rfl rfl
  | dropBackend =>
    simp only [EventDesk.perform]
    split
    · exact h.release rfl rfl
    · exact h
  | dropRecorder recorder =>
    simp only [EventDesk.perform, dropRecorder]
    split
    · exact h.release rfl rfl
    · exact ⟨b, backend, ledger⟩

/-- The recording goes on by its own steps. -/
theorem Booked.proceeds (h : Booked capacity mark sent d) (next : Machine.poll? () d = some d') :
    ∃ b b' r, d.backend = .structured b ∧ b.Ledger capacity d.surroundings mark sent ∧
      b.recording = some r ∧ b.Stepped d.surroundings r d'.surroundings b' ∧
      d'.backend = .structured b' := by
  obtain ⟨b, backend, ledger⟩ := h
  simp only [Machine.poll?, backend, Backend.step?, Option.map_map, Option.map_eq_some_iff] at next
  obtain ⟨⟨s, b'⟩, stepped, rfl⟩ := next
  obtain ⟨r, recording, stepped⟩ := Broadcaster.stepped_of_step? stepped
  exact ⟨b, b', r, backend, ledger, recording, stepped, rfl⟩

/-- **The books.** Along a course every event is accounted for. -/
theorem Course.booked (course : Course s sink capacity sent d) :
    Booked capacity s.journal.length sent d := by
  -- Whatever is done next, the books of the course so far are kept.
  induction course with
  | opened => exact ⟨_, rfl, Broadcaster.ledger_new s sink capacity⟩
  | proceeded course next ih =>
    obtain ⟨b, b', r, -, ledger, recording, stepped, backend'⟩ := ih.proceeds next
    exact ⟨b', backend', ledger.stepped recording stepped⟩
  | asked course c brief ih => exact ih.perform brief
  | elapsed course t ih =>
    obtain ⟨b, backend, ledger⟩ := ih
    exact .of_ledger ledger backend (.of_journal rfl) rfl rfl
  | swayed course sink' ih =>
    obtain ⟨b, backend, ledger⟩ := ih
    rw [sway, backend]
    exact .of_ledger ledger rfl (.refl _ _) rfl rfl
  | stamped course stamp ih =>
    obtain ⟨b, backend, ledger⟩ := ih
    exact .of_ledger ledger backend (.of_journal rfl) rfl rfl

/-! ### Delivery and loss -/

def passed (mark : Nat) (d : EventDesk) : List Event :=
  match d.backend with
  | .structured b => b.passed d.surroundings mark
  | .legacy => []

def skipped (mark : Nat) (d : EventDesk) : List Nat :=
  match d.backend with
  | .structured b => b.skipped d.surroundings mark
  | .legacy => []

def keptEvents (d : EventDesk) : List Event :=
  match d.backend with
  | .structured b => b.channel.kept
  | .legacy => []

/-- How events are delivered and lost, where a channel keeps `room` of them and `sent` have been
recorded since the first start, if there was one. -/
structure Accounted (room mark : Nat) (sent : Option (List Event)) (d : EventDesk) : Prop where
  /-- The first start is granted. -/
  first : sent = none → d.isHeld = true → ∀ stop, (d.startRecording stop).2 = .done ∧
    (d.startRecording stop).1.recording? = some ⟨stop, .fresh, false⟩
  /-- Every other is refused, and nothing comes of it. -/
  again : sent.isSome = true → d.isHeld = true → ∀ stop,
    d.startRecording stop = (d, .refused .alreadyRecording)
  /-- The sink gets events that were recorded since the start, in order and each once. -/
  ordered : (d.passed mark).Sublist (sent.getD [])
  /-- It gets no more of them once the token of the recording is cancelled. -/
  stopped : ∀ r d', d.recording? = some r → d.surroundings.isCancelled r.stop = true →
    Machine.poll? () d = some d' → d'.passed mark = d.passed mark
  /-- When the recording waits for an event, it has passed on all there were,
  or reported them as lost. -/
  complete : ∀ r, d.recording? = some r → r.phase = .waiting → Machine.poll? () d = none →
    (sent.getD []).length = (d.passed mark).length + (d.skipped mark).sum
  /-- It reports events as lost only when more are outstanding than the channel keeps, and then all
  but the last that it keeps. -/
  skips : ∀ d', Machine.poll? () d = some d' → d'.skipped mark = d.skipped mark ∨
    ∃ more, 0 < more ∧ d'.skipped mark = d.skipped mark ++ [more] ∧
      (sent.getD []).length =
        (d.passed mark).length + (d.skipped mark).sum + (room + more) ∧
      d'.keptEvents.length = room ∧ d'.keptEvents <:+ sent.getD []

/-- **Delivery and loss.** Whatever is done at a desk with a new broadcaster, only the first start
of the recording is granted, and the events recorded since are passed to the sink in order or
counted as lost. -/
theorem delivery_and_loss {room : Nat}
    (least : IsLeast {n | n.isPowerOfTwo ∧ max 1 capacity ≤ n} room)
    (course : Course s sink capacity sent d) : Accounted room s.journal.length sent d := by
  -- There is only one least power of two.
  have size : Channel.roundedCapacity capacity = room := by
    apply Nat.le_antisymm
    · exact Channel.roundedCapacity_le least.1.1 least.1.2
    · exact least.2 ⟨Channel.isPowerOfTwo_roundedCapacity capacity,
        Channel.le_roundedCapacity capacity⟩
  have booked := course.booked
  obtain ⟨b, backend, ledger⟩ := id booked
  have reads : d.recording? = b.recording := by rw [recording?, backend]; rfl
  constructor
  case first =>
    intro unstarted held stop
    rw [startRecording_eq held backend ledger, unstarted]
    exact ⟨rfl, rfl⟩
  case again =>
    intro started held stop
    rw [startRecording_eq held backend ledger, started]
    rfl
  case ordered =>
    rw [passed, backend]
    exact ledger.ordered
  case stopped =>
    intro r d' recording down next
    obtain ⟨b₀, b', r', backend₀, -, recording', stepped, backend'⟩ := booked.proceeds next
    rw [backend] at backend₀
    cases backend₀
    rw [reads, recording', Option.some.injEq] at recording
    subst recording
    rw [passed, passed, backend, backend']
    exact ledger.passed_of_cancelled recording' down stepped
  case complete =>
    intro r recording waiting stuck
    rw [reads] at recording
    have listening : b.hasListener = true := by
      simp [Broadcaster.hasListener, recording, waiting]
    have nothing : b.step? d.surroundings = none := by
      simpa [Machine.poll?, backend, Backend.step?] using stuck
    have all := ledger.counted listening
    rw [Broadcaster.outstanding_of_stuck recording waiting nothing] at all
    rw [passed, skipped, backend]
    exact all
  case skips =>
    intro d' next
    obtain ⟨b₀, b', r, backend₀, -, recording, stepped, backend'⟩ := booked.proceeds next
    rw [backend] at backend₀
    cases backend₀
    have skips := ledger.skips recording stepped
    rw [ledger.size, size] at skips
    rw [skipped, skipped, passed, keptEvents, backend, backend']
    exact skips

/-! ### A crowded desk -/

def podRemark (reason : String) : Event.Remark :=
  ⟨⟨"Pod", "default", "web", ""⟩, none, .normal, reason, "Binding", ""⟩

/-- A desk with room for one event, at which three are recorded before the recording has a turn. -/
def crowded : EventDesk :=
  let d := new (.start ⟨"0", .epoch⟩) (.structured (.new ⟨[], 0, 1⟩ 1))
  let d := (d.perform (.newRecorder "scheduler")).1
  let d := (d.perform (.startRecording .shutdown)).1
  let d := (d.perform (.record 0 [podRemark "a", podRemark "b", podRemark "c"])).1
  Machine.turn () 4 d

/-- The last of the three events is delivered, and two are reported as lost. -/
theorem delivery_and_loss_crowded :
    crowded.passed 0 = [.of ⟨"0", .epoch⟩ "scheduler" (podRemark "c")] ∧
    crowded.skipped 0 = [2] ∧
    Accounted 1 0 (some ([podRemark "a", podRemark "b", podRemark "c"].map
      (.of ⟨"0", .epoch⟩ "scheduler"))) crowded := by
  have least : IsLeast {n | n.isPowerOfTwo ∧ max 1 1 ≤ n} 1 :=
    ⟨⟨⟨0, rfl⟩, Nat.le_refl 1⟩, fun n enough => enough.2⟩
  have start : Course (.start ⟨"0", .epoch⟩) ⟨[], 0, 1⟩ 1 none _ := .opened
  have started := (start.perform (.newRecorder "scheduler")).perform (.startRecording .shutdown)
  have recorded := started.perform (.record 0 [podRemark "a", podRemark "b", podRemark "c"])
  exact ⟨by decide, by decide, delivery_and_loss least (keeps_course.turn (a := ()) recorded 4)⟩

end EventDesk

end SchedulerHost.Host
