import SchedulerHost.Host.Signals
import SchedulerHost.Proofs.Machine.Settling

/-!
# Listening for signals

What a listener does in one step, whichever of the reactions that are open it picks, and what
becomes of those who listen when they go on in any order while they are asked for this and that.

* `Listener.Stepped`: what a step of a listener is. `Listener.Stepped.fate_iff`: whether a token is
  cancelled, or is about to be, no step of a listener changes.
* `SignalWatch.Course`: all that may be done, told along with what has been asked for.
* **Rest** (`SignalWatch.Course.still_resume`): those who listen always come to rest.
-/

namespace SchedulerHost.Host

/-- Of the reactions that are open one is picked, if there are any; which one is not said. -/
structure Chooses (choose : List Reaction → Option Reaction) : Prop where
  eq_none_iff (reactions : List Reaction) : choose reactions = none ↔ reactions = []
  mem {reactions : List Reaction} {picked : Reaction} : choose reactions = some picked →
    picked ∈ reactions

theorem chooses_head? : Chooses List.head? where
  eq_none_iff _ := List.head?_eq_none_iff
  mem := List.mem_of_head?

theorem chooses_getLast? : Chooses List.getLast? where
  eq_none_iff _ := List.getLast?_eq_none_iff
  mem := List.mem_of_getLast?

namespace Listener

variable {choose : List Reaction → Option Reaction} {s s' : Surroundings} {l l' : Listener}
  {token : Token}

def IsWaiting (l : Listener) : Prop := ∃ arrived, l.phase = .waiting arrived

/-- A signal has reached one who waits, and has not been heeded yet. -/
def IsReached (l : Listener) : Prop := ∃ signal earlier, l.phase = .waiting (signal :: earlier)

/-- A step of a listener: it begins to wait, it leaves because the token is cancelled, or it heeds
a signal. -/
inductive Stepped (s : Surroundings) (l : Listener) : Surroundings → Listener → Prop
  | begins (fresh : l.phase = .fresh) : Stepped s l s { l with phase := .waiting [] }
  | leaves {arrived : List Signal} (waiting : l.phase = .waiting arrived)
    (released : l.isReleased s = true) :
    Stepped s l (s.note .outside .cancelledElsewhere) { l with phase := .ended }
  | heeds {arrived : List Signal} {signal : Signal} (waiting : l.phase = .waiting arrived)
    (reached : signal ∈ arrived) :
    Stepped s l (l.react s (.heed signal)).1 { l with phase := .ended }

theorem react_snd (s : Surroundings) (l : Listener) (reaction : Reaction) :
    (l.react s reaction).2 = { l with phase := .ended } := by
  cases reaction with
  | leave => rfl
  | heed signal =>
    simp only [react]
    split <;> rfl

/-- There are no other steps. -/
theorem stepped_of_step? (chooses : Chooses choose) (h : l.step? choose s = some (s', l')) :
    l.Stepped s s' l' := by
  unfold step? at h
  cases phase : l.phase with
  | fresh =>
    simp only [phase, Option.some.injEq, Prod.mk.injEq] at h
    obtain ⟨rfl, rfl⟩ := h
    exact .begins phase
  | ended => simp [phase] at h
  | waiting arrived =>
    simp only [phase, Option.map_eq_some_iff] at h
    obtain ⟨reaction, picked, reacts⟩ := h
    have ended := react_snd s l reaction
    rw [reacts] at ended
    obtain rfl : l' = { l with phase := .ended } := ended
    have there := chooses.mem picked
    simp only [reactions, phase, List.mem_append, List.mem_map] at there
    cases reaction with
    | leave =>
      have released : l.isReleased s = true := by
        cases released : l.isReleased s with
        | true => rfl
        | false => simp [released] at there
      obtain rfl : s.note .outside .cancelledElsewhere = s' := congrArg Prod.fst reacts
      exact .leaves phase released
    | heed signal =>
      have reached : signal ∈ arrived := by
        rcases there with ⟨_, reached, same⟩ | left
        · cases same
          exact reached
        · split at left <;> simp at left
      obtain rfl : (l.react s (.heed signal)).1 = s' := congrArg Prod.fst reacts
      exact .heeds phase reached

/-- Heeding a signal cancels the token, and no other. -/
theorem isCancelled_heed (s : Surroundings) (l : Listener) (signal : Signal) :
    (l.react s (.heed signal)).1.isCancelled token = true ↔
      s.isCancelled token = true ∨ l.token = some token := by
  unfold react
  cases own : l.token with
  | none =>
    simp only [reduceCtorEq, or_false]
    rfl
  | some other =>
    by_cases same : other = token
    · subst same
      simp
    · simp only [Option.some.injEq, same, or_false]
      rw [Surroundings.isCancelled_cancel_of_ne _ same]
      rfl

theorem Stepped.token_eq (h : l.Stepped s s' l') : l'.token = l.token := by
  cases h <;> rfl

/-- A token stays cancelled. -/
theorem Stepped.isCancelled (h : l.Stepped s s' l') (cancelled : s.isCancelled token = true) :
    s'.isCancelled token = true := by
  cases h with
  | begins => exact cancelled
  | leaves => exact cancelled
  | heeds => exact (isCancelled_heed s l _).2 (.inl cancelled)

/-- A handler does not return before its token is cancelled. -/
theorem Stepped.isCancelled_of_ended (h : l.Stepped s s' l') (own : l.token = some token)
    (ended : l'.phase = .ended) : s'.isCancelled token = true := by
  cases h with
  | begins => contradiction
  | leaves waiting released =>
    rw [isReleased, own] at released
    exact released
  | heeds => exact (isCancelled_heed s l _).2 (.inr own)

/-- **The fate of a token.** Whether a token is cancelled, or is about to be because a signal has
reached a listener, a step of the listener leaves as it is. -/
theorem Stepped.fate_iff (h : l.Stepped s s' l') :
    (s'.isCancelled token = true ∨ l'.token = some token ∧ l'.IsReached) ↔
      (s.isCancelled token = true ∨ l.token = some token ∧ l.IsReached) := by
  cases h with
  | begins fresh => simp [IsReached, fresh]
  | leaves waiting released =>
    have cancelled (own : l.token = some token) : s.isCancelled token = true := by
      rw [isReleased, own] at released
      exact released
    simp only [IsReached, reduceCtorEq, exists_false, and_false, or_false]
    exact ⟨.inl, fun fate => fate.elim id fun reached => cancelled reached.1⟩
  | @heeds arrived signal waiting reached =>
    have there : l.IsReached := by
      obtain ⟨first, earlier, rfl⟩ := List.exists_cons_of_ne_nil (List.ne_nil_of_mem reached)
      exact ⟨first, earlier, waiting⟩
    rw [isCancelled_heed, and_iff_left there]
    simp [IsReached]

/-- A signal reaches those who wait. -/
theorem isReached_deliver {signal : Signal} : (l.deliver signal).IsReached ↔ l.IsWaiting := by
  unfold deliver IsReached IsWaiting
  cases phase : l.phase <;> simp [phase]

theorem IsReached.isWaiting : l.IsReached → l.IsWaiting
  | ⟨signal, earlier, phase⟩ => ⟨signal :: earlier, phase⟩

@[simp] theorem token_deliver (signal : Signal) (l : Listener) :
    (l.deliver signal).token = l.token := by
  unfold deliver
  split <;> rfl

/-- A signal passes by whoever does not wait. -/
theorem deliver_of_not_isWaiting {signal : Signal} (h : ¬l.IsWaiting) : l.deliver signal = l := by
  unfold deliver
  split
  · next arrived waiting => exact absurd ⟨arrived, waiting⟩ h
  · rfl

theorem not_isWaiting_of_isOver (gone : l.isOver = true) : ¬l.IsWaiting := by
  rintro ⟨arrived, waiting⟩
  simp [isOver, waiting] at gone

theorem Stepped.now (h : l.Stepped s s' l') : s'.now = s.now := by
  cases h with
  | begins => rfl
  | leaves => rfl
  | heeds =>
    unfold react
    cases l.token with
    | none => rfl
    | some own => exact Surroundings.now_cancel _ _

/-- Every step of a listener leaves fewer to come. -/
theorem Stepped.work_lt (h : l.Stepped s s' l') : l'.work < l.work := by
  cases h with
  | begins fresh => simp [work, fresh]
  | leaves waiting => simp [work, waiting]
  | heeds waiting => simp [work, waiting]

end Listener

namespace SignalWatch

variable {choose : List Reaction → Option Reaction} {w w' first : SignalWatch}
  {past : List (SignalWatch × Command)} {i : Nat}

/-! ### Steps -/

theorem exists_of_pollBy? (chooses : Chooses choose) (next : w.pollBy? choose i = some w') :
    ∃ l s l', w.listeners[i]? = some l ∧ l.Stepped w.surroundings s l' ∧
      w' = { w with surroundings := s, listeners := w.listeners.set i l' } := by
  unfold pollBy? at next
  cases found : w.listeners[i]? with
  | none => simp [found] at next
  | some l =>
    simp only [found, Option.map_eq_some_iff] at next
    obtain ⟨⟨s, l'⟩, stepped, rfl⟩ := next
    exact ⟨l, s, l', rfl, Listener.stepped_of_step? chooses stepped, rfl⟩

/-- Who can go on does not hang on which reaction is picked. -/
theorem pollBy?_eq_none_iff (chooses : Chooses choose) :
    w.pollBy? choose i = none ↔ ∀ l, w.listeners[i]? = some l →
      l.phase = .ended ∨ l.phase = .waiting [] ∧ l.isReleased w.surroundings = false := by
  unfold pollBy?
  cases found : w.listeners[i]? with
  | none => simp
  | some l =>
    simp [Listener.step?_eq_none_iff chooses.eq_none_iff, Listener.isOver]

/-- Something happens that nobody asked for: one of those who listen takes a step, with any choice
between the reactions that are open, they are called in another order, or time passes. -/
inductive Goes : SignalWatch → SignalWatch → Prop
  | polled {w w' : SignalWatch} (i : Nat) {choose : List Reaction → Option Reaction}
    (chooses : Chooses choose) (next : w.pollBy? choose i = some w') : Goes w w'
  | lined {w : SignalWatch} (l : Line Nat) (members : ∀ i ∈ w.line.members, i ∈ l.members) :
    Goes w { w with line := l }
  | elapsed {w : SignalWatch} (t : Nat) : Goes w (Machine.setNow t w)

def Command.isBrief : Command → Bool
  | .advance _ => false
  | _ => true

/-- What becomes of those who listen, along with what was asked for on the way, and how they stood
when it was: the latest comes first. -/
inductive Course (first : SignalWatch) : List (SignalWatch × Command) → SignalWatch → Prop
  | begun : Course first [] first
  | went {past : List (SignalWatch × Command)} {w w' : SignalWatch} (course : Course first past w)
    (goes : Goes w w') : Course first past w'
  | asked {past : List (SignalWatch × Command)} {w : SignalWatch} (course : Course first past w)
    (c : Command) (brief : c.isBrief = true) : Course first ((w, c) :: past) (w.perform c).1

/-! ### What a machine does -/

/-- The turns that a machine gives keep to a course. -/
theorem keeps_course : Machine.Keeps (Course first past) where
  of_poll course next := course.went (.polled _ chooses_head? next)
  of_line course members := course.went (.lined _ members)

/-- So does all that is asked for. -/
theorem Course.perform (course : Course first past w) (c : Command) :
    Course first (if c.isBrief then (w, c) :: past else past) (w.perform c).1 := by
  cases c with
  | advance ms => exact keeps_course.advance (fun t course => course.went (.elapsed t)) course ms
  | _ => exact course.asked _ rfl

/-- So does what goes on afterwards. -/
theorem Course.resume (course : Course first past w) (hold : Bool) :
    Course first past (Machine.resume hold w) := by
  cases hold with
  | true => exact keeps_course.rouse course
  | false => exact keeps_course.settle (keeps_course.rouse course)

/-! ### Coming to rest -/

/-- Those who listen stand in the line. -/
def InLine (w : SignalWatch) : Prop := ∀ i < w.listeners.length, i ∈ w.line.members

/-- Whoever goes on uses up some of the work that is left. -/
theorem work_lt_of_pollBy? (chooses : Chooses choose) (next : w.pollBy? choose i = some w') :
    Machine.work w' < Machine.work w := by
  obtain ⟨l, s, l', found, stepped, rfl⟩ := exists_of_pollBy? chooses next
  exact foldr_add_set_lt (·.work) found stepped.work_lt

theorem isAble_eq (w : SignalWatch) (i : Nat) :
    Machine.isAble w i = (w.pollBy? List.head? i).isSome := rfl

/-- A listener has to wait on until a signal arrives or its token is cancelled. -/
theorem isAble_eq_false_iff : Machine.isAble w i = false ↔
    ∀ l, w.listeners[i]? = some l →
      l.phase = .ended ∨ l.phase = .waiting [] ∧ l.isReleased w.surroundings = false := by
  rw [isAble_eq, Option.isSome_eq_false_iff, Option.isNone_iff_eq_none,
    pollBy?_eq_none_iff chooses_head?]

/-- Who can go on hangs on the listeners and on which tokens are cancelled. -/
theorem isAble_congr (w w' : SignalWatch) (listeners : w'.listeners = w.listeners)
    (cancelled : w'.surroundings.cancelled = w.surroundings.cancelled) (i : Nat) :
    Machine.isAble w' i = Machine.isAble w i := by
  have tokens : w'.surroundings.isCancelled = w.surroundings.isCancelled := by
    funext token
    simp only [Surroundings.isCancelled, cancelled]
  have same : Machine.isAble w' i = false ↔ Machine.isAble w i = false := by
    rw [isAble_eq_false_iff, isAble_eq_false_iff, listeners]
    simp only [Listener.isReleased, tokens]
  cases able : Machine.isAble w i with
  | false => exact same.2 able
  | true => simpa [able] using same

instance : LawfulMachine SignalWatch where
  setLine_line _ := rfl
  line_setLine _ _ := rfl
  setLine_setLine _ _ _ := rfl
  now_setLine _ _ := rfl
  alarms_setLine _ _ := rfl
  work_setLine _ _ := rfl
  isAble_setLine l w i := isAble_congr w (Machine.setLine l w) rfl rfl i
  setNow_now _ := rfl
  now_setNow _ _ := rfl
  setNow_setNow _ _ _ := rfl
  line_setNow _ _ := rfl
  alarms_setNow _ _ := rfl
  work_setNow _ _ := rfl

/-- Those who listen come to rest. -/
theorem sound_inLine : Machine.Sound InLine where
  of_poll h next := by
    obtain ⟨l, s, l', -, -, rfl⟩ := exists_of_pollBy? chooses_head? next
    intro i inside
    exact h i (by simpa using inside)
  of_line h members := fun i inside => members i (h i inside)
  of_time h _ := h
  now_poll _ next := by
    obtain ⟨l, s, l', -, stepped, rfl⟩ := exists_of_pollBy? chooses_head? next
    exact stepped.now
  work_poll _ next := work_lt_of_pollBy? chooses_head? next
  able_mem := by
    intro i w h able
    obtain ⟨next, polled⟩ := Option.isSome_iff_exists.1 able
    obtain ⟨l, s, l', found, -, -⟩ := exists_of_pollBy? chooses_head? polled
    exact h i (List.getElem?_eq_some_iff.1 found).1
  able_of_due _ due := nomatch due
  due_of_able := by
    intro i w t h later able
    rw [isAble_congr w (Machine.setNow t w) rfl rfl i] at able
    exact .inl able

/-- A signal reaches whoever waits, and nobody else. -/
theorem perform_deliver (w : SignalWatch) (signal : Signal) :
    (w.perform (.deliver signal)).1 =
      { w with listeners := w.listeners.map (·.deliver signal) } := by
  simp only [perform]
  split
  · next gone =>
    have same : w.listeners.map (·.deliver signal) = w.listeners.map id := by
      apply List.map_congr_left
      intro l there
      have idle := Listener.not_isWaiting_of_isOver (List.all_eq_true.1 gone l there)
      exact Listener.deliver_of_not_isWaiting idle
    rw [same, List.map_id]
  · rfl

theorem InLine.listen (h : w.InLine) (token : Option Token) : (w.listen token).InLine := by
  intro i inside
  simp only [SignalWatch.listen, List.length_append, List.length_singleton] at inside
  by_cases old : i < w.listeners.length
  · exact Line.mem_members_toBack (h i old)
  · obtain rfl : i = w.listeners.length := by omega
    simp [SignalWatch.listen, Line.toBack]

theorem Course.inLine (course : Course first past w) (h : first.InLine) : w.InLine := by
  induction course with
  | begun => exact h
  | went course goes ih =>
    cases goes with
    | polled i chooses next =>
      obtain ⟨l, s, l', -, -, rfl⟩ := exists_of_pollBy? chooses next
      intro j inside
      exact ih j (by simpa using inside)
    | lined l members => exact fun j inside => members j (ih j inside)
    | elapsed t => exact ih
  | asked course c brief ih =>
    cases c with
    | handler token => exact ih.listen (some token)
    | listener => exact ih.listen none
    | cancel token => exact ih
    | deliver signal =>
      rw [perform_deliver]
      intro j inside
      exact ih j (by simpa using inside)
    | advance ms => contradiction

/-- **Rest.** Whatever has become of those who listen, they come to rest. -/
theorem Course.still_resume {stamp : Event.Stamp} (course : Course (start stamp) past w) :
    Machine.Still (Machine.resume false w) := by
  have inLine := course.inLine (by simp [InLine, start])
  exact sound_inLine.still_settle (sound_inLine.keeps.rouse inLine)
    (sound_inLine.roused_rouse inLine)

end SignalWatch

end SchedulerHost.Host
