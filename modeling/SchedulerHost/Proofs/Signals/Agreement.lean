import Mathlib.Data.List.Forall2
import SchedulerHost.Proofs.Signals.Listening

/-!
# What signals come to

Which tokens are cancelled and which handlers have returned, once all who listen have gone as far as
they can, in whatever order they were called and whichever reactions they picked.

* `SignalWatch.IsDoomed`: a token is cancelled, or is about to be because a signal has reached one
  of its handlers. Nobody who goes on makes a difference to that (`Goes.isDoomed_iff`), and it is
  told which commands do (`isDoomed_perform`).
* **The fate of the tokens** (`Course.isDoomed_iff`): a token is doomed exactly when someone
  cancelled it or a signal was delivered while one of its handlers was waiting.
* **Agreement** (`Course.agrees`): courses on which the same was asked for come to the same.
-/

namespace SchedulerHost.Host

namespace SignalWatch

variable {w w' first : SignalWatch} {past : List (SignalWatch × Command)} {i : Nat} {token : Token}

/-! ### Handlers -/

/-- One of those who listen, by number, is a handler of a token, and something is true of it. -/
def Handler (w : SignalWatch) (i : Nat) (token : Token) (P : Listener → Prop) : Prop :=
  ∃ l, w.listeners[i]? = some l ∧ l.token = some token ∧ P l

def HasBegun (w : SignalWatch) (i : Nat) (token : Token) : Prop :=
  w.Handler i token (·.phase ≠ .fresh)

def IsWaiting (w : SignalWatch) (i : Nat) (token : Token) : Prop :=
  w.Handler i token Listener.IsWaiting

/-- The wait of a handler has returned. -/
def HasEnded (w : SignalWatch) (i : Nat) (token : Token) : Prop :=
  w.Handler i token (·.phase = .ended)

theorem hasBegun_iff : w.HasBegun i token ↔ w.IsWaiting i token ∨ w.HasEnded i token := by
  constructor
  · rintro ⟨l, found, own, begun⟩
    cases phase : l.phase with
    | fresh => exact absurd phase begun
    | waiting arrived => exact .inl ⟨l, found, own, arrived, phase⟩
    | ended => exact .inr ⟨l, found, own, phase⟩
  · rintro (⟨l, found, own, arrived, phase⟩ | ⟨l, found, own, phase⟩)
    · exact ⟨l, found, own, by simp [phase]⟩
    · exact ⟨l, found, own, by simp [phase]⟩

/-! ### The fate of a token -/

/-- A token is cancelled, or is about to be because a signal has reached one of its handlers. -/
def IsDoomed (w : SignalWatch) (token : Token) : Prop :=
  w.surroundings.isCancelled token = true ∨ ∃ i, w.Handler i token Listener.IsReached

/-- The handlers whose wait has returned had their token cancelled. -/
def Heeded (w : SignalWatch) : Prop :=
  ∀ i token, w.HasEnded i token → w.surroundings.isCancelled token = true

/-- The fate of a token as it hangs on one listener and on the others. -/
theorem isDoomed_iff_of_found {l : Listener} (found : w.listeners[i]? = some l) :
    w.IsDoomed token ↔
      (w.surroundings.isCancelled token = true ∨ l.token = some token ∧ l.IsReached) ∨
        ∃ j, j ≠ i ∧ w.Handler j token Listener.IsReached := by
  constructor
  · rintro (cancelled | ⟨j, l', found', own, reached⟩)
    · exact .inl (.inl cancelled)
    · by_cases same : j = i
      · subst same
        obtain rfl : l = l' := by simpa [found] using found'
        exact .inl (.inr ⟨own, reached⟩)
      · exact .inr ⟨j, same, l', found', own, reached⟩
  · rintro ((cancelled | ⟨own, reached⟩) | ⟨j, -, handler⟩)
    · exact .inl cancelled
    · exact .inr ⟨i, l, found, own, reached⟩
    · exact .inr ⟨j, handler⟩

/-- Whoever goes on, the fate of every token stays as it was. -/
theorem Goes.isDoomed_iff (goes : Goes w w') : w'.IsDoomed token ↔ w.IsDoomed token := by
  cases goes with
  | lined => exact .rfl
  | elapsed => exact .rfl
  | polled i chooses next =>
    obtain ⟨l, s, l', found, stepped, rfl⟩ := exists_of_pollBy? chooses next
    have inside : i < w.listeners.length := (List.getElem?_eq_some_iff.1 found).1
    rw [isDoomed_iff_of_found found, isDoomed_iff_of_found (i := i) (l := l') (by simp [inside]),
      stepped.fate_iff]
    refine or_congr_right (exists_congr fun j => and_congr_right fun other => ?_)
    simp only [Handler, List.getElem?_set_ne (Ne.symm other)]

theorem Goes.tokens_eq (goes : Goes w w') :
    w'.listeners.map (·.token) = w.listeners.map (·.token) := by
  cases goes with
  | lined => rfl
  | elapsed => rfl
  | polled i chooses next =>
    obtain ⟨l, s, l', found, stepped, rfl⟩ := exists_of_pollBy? chooses next
    obtain ⟨inside, rfl⟩ := List.getElem?_eq_some_iff.1 found
    have inside : i < (w.listeners.map (·.token)).length := by simpa using inside
    have same : (w.listeners.map (·.token))[i] = l'.token := by
      rw [List.getElem_map, stepped.token_eq]
    rw [List.map_set, ← same, List.set_getElem_self]

theorem Goes.isCancelled (goes : Goes w w') (h : w.surroundings.isCancelled token = true) :
    w'.surroundings.isCancelled token = true := by
  cases goes with
  | lined => exact h
  | elapsed => exact h
  | polled i chooses next =>
    obtain ⟨l, s, l', -, stepped, rfl⟩ := exists_of_pollBy? chooses next
    exact stepped.isCancelled h

/-- No step lets a handler return before its token is cancelled. -/
theorem Goes.heeded (goes : Goes w w') (h : w.Heeded) : w'.Heeded := by
  intro j token ended
  cases goes with
  | lined => exact h j token ended
  | elapsed => exact h j token ended
  | polled i chooses next =>
    obtain ⟨l, s, l', found, stepped, rfl⟩ := exists_of_pollBy? chooses next
    obtain ⟨l'', found'', own, phase⟩ := ended
    have inside : i < w.listeners.length := (List.getElem?_eq_some_iff.1 found).1
    by_cases same : i = j
    · subst same
      obtain rfl : l' = l'' := by simpa [inside] using found''
      exact stepped.isCancelled_of_ended (stepped.token_eq ▸ own) phase
    · rw [List.getElem?_set_ne same] at found''
      exact stepped.isCancelled (h j token ⟨l'', found'', own, phase⟩)

/-- A command strikes a token: it is cancelled by name, or a signal is delivered and meets one of
its handlers. -/
def Strikes (Meets : SignalWatch → Nat → Token → Prop) (w : SignalWatch) : Command → Token → Prop
  | .cancel other, token => other = token
  | .deliver _, token => ∃ i, Meets w i token
  | _, _ => False

theorem isCancelled_cancel_iff {s : Surroundings} {other : Token} :
    (s.cancel other).isCancelled token = true ↔ s.isCancelled token = true ∨ other = token := by
  by_cases same : other = token
  · subst same
    simp
  · rw [Surroundings.isCancelled_cancel_of_ne s same, or_iff_left same]

/-- What is true of a handler after someone else has come to listen. -/
theorem handler_listen {P : Listener → Prop} (never : ∀ t, ¬P (.new t)) (t : Option Token) :
    (w.listen t).Handler i token P ↔ w.Handler i token P := by
  unfold Handler listen
  by_cases old : i < w.listeners.length
  · simp only [List.getElem?_append_left old]
  · constructor
    · rintro ⟨l, found, own, true⟩
      have new : l = .new t := by
        rw [List.getElem?_append_right (by omega)] at found
        exact List.mem_singleton.1 (List.mem_of_getElem? found)
      exact absurd (new ▸ true) (never t)
    · rintro ⟨l, found, -⟩
      exact absurd (List.getElem?_eq_some_iff.1 found).1 old

/-- Nothing happens to a token when someone comes to listen. -/
theorem isDoomed_listen (t : Option Token) : (w.listen t).IsDoomed token ↔ w.IsDoomed token := by
  refine or_congr .rfl (exists_congr fun i => handler_listen ?_ t)
  rintro t ⟨signal, earlier, phase⟩
  contradiction

/-- What is true of a handler after a delivery. -/
theorem handler_deliver {P : Listener → Prop} (signal : Signal) :
    Handler { w with listeners := w.listeners.map (·.deliver signal) } i token P ↔
      w.Handler i token fun l => P (l.deliver signal) := by
  simp only [Handler, List.getElem?_map, Option.map_eq_some_iff]
  constructor
  · rintro ⟨_, ⟨l, found, rfl⟩, own, true⟩
    exact ⟨l, found, (l.token_deliver signal).symm.trans own, true⟩
  · rintro ⟨l, found, own, true⟩
    exact ⟨_, ⟨l, found, rfl⟩, (l.token_deliver signal).trans own, true⟩

/-- A token is doomed by what strikes it, and by nothing else. -/
theorem isDoomed_perform {c : Command} (brief : c.isBrief = true) :
    (w.perform c).1.IsDoomed token ↔ w.IsDoomed token ∨ w.Strikes IsWaiting c token := by
  cases c with
  | handler other => exact (isDoomed_listen _).trans (or_iff_left id).symm
  | listener => exact (isDoomed_listen _).trans (or_iff_left id).symm
  | advance ms => contradiction
  | cancel other =>
    show _ ∨ _ ↔ (_ ∨ _) ∨ _
    rw [show (w.perform (.cancel other)).1.surroundings = w.surroundings.cancel other from rfl,
      isCancelled_cancel_iff, or_right_comm]
    rfl
  | deliver signal =>
    have reached (i : Nat) : (w.perform (.deliver signal)).1.Handler i token Listener.IsReached ↔
        w.IsWaiting i token := by
      simp only [perform_deliver, handler_deliver, Listener.isReached_deliver]
      rfl
    have kept : (w.perform (.deliver signal)).1.surroundings = w.surroundings := by
      rw [perform_deliver]
    simp only [IsDoomed, reached, kept, Strikes]
    constructor
    · rintro (cancelled | waits)
      · exact .inl (.inl cancelled)
      · exact .inr waits
    · rintro ((cancelled | ⟨i, l, found, own, reached⟩) | waits)
      · exact .inl cancelled
      · exact .inr ⟨i, l, found, own, reached.isWaiting⟩
      · exact .inr waits

theorem isCancelled_perform {c : Command} (brief : c.isBrief = true)
    (h : w.surroundings.isCancelled token = true) :
    (w.perform c).1.surroundings.isCancelled token = true := by
  cases c with
  | handler other => exact h
  | listener => exact h
  | advance ms => contradiction
  | cancel other => exact isCancelled_cancel_iff.2 (.inl h)
  | deliver signal =>
    rw [perform_deliver]
    exact h

theorem Heeded.perform (h : w.Heeded) {c : Command} (brief : c.isBrief = true) :
    (w.perform c).1.Heeded := by
  intro i token ended
  apply isCancelled_perform brief
  apply h i
  cases c with
  | handler other => exact (handler_listen (fun _ => nofun) _).1 ended
  | listener => exact (handler_listen (fun _ => nofun) _).1 ended
  | advance ms => contradiction
  | cancel other => exact ended
  | deliver signal =>
    rw [perform_deliver] at ended
    obtain ⟨l, found, own, phase⟩ := (handler_deliver signal).1 ended
    refine ⟨l, found, own, ?_⟩
    by_cases waits : l.IsWaiting
    · obtain ⟨arrived, waiting⟩ := waits
      simp [Listener.deliver, waiting] at phase
    · rwa [Listener.deliver_of_not_isWaiting waits] at phase

/-! ### Along a course -/

theorem Course.isCancelled (course : Course first past w)
    (h : first.surroundings.isCancelled token = true) :
    w.surroundings.isCancelled token = true := by
  induction course with
  | begun => exact h
  | went course goes ih => exact goes.isCancelled ih
  | asked course c brief ih => exact isCancelled_perform brief ih

theorem Course.heeded (course : Course first past w) (h : first.Heeded) : w.Heeded := by
  induction course with
  | begun => exact h
  | went course goes ih => exact goes.heeded ih
  | asked course c brief ih => exact ih.perform brief

/-- A token is doomed by what was asked for, if it is known of each command whether it dooms it. -/
theorem Course.isDoomed_iff_of {Dooms : SignalWatch → Command → Token → Prop}
    (dooms : ∀ {past w c}, Course first past w → Command.isBrief c = true →
      ((w.perform c).1.IsDoomed token ↔ w.IsDoomed token ∨ Dooms w c token))
    (course : Course first past w) :
    w.IsDoomed token ↔ first.IsDoomed token ∨ ∃ e ∈ past, Dooms e.1 e.2 token := by
  induction course with
  | begun => simp
  | went course goes ih => exact goes.isDoomed_iff.trans ih
  | asked course c brief ih =>
    rw [dooms course brief, ih, List.exists_mem_cons_iff, or_assoc, or_comm (a := ∃ e ∈ _, _)]

/-- **The fate of the tokens.** A token is doomed exactly if it was from the first, or someone has
cancelled it since, or a signal was delivered while one of its handlers was waiting. -/
theorem Course.isDoomed_iff (course : Course first past w) :
    w.IsDoomed token ↔ first.IsDoomed token ∨ ∃ e ∈ past, e.1.Strikes IsWaiting e.2 token :=
  course.isDoomed_iff_of fun _ brief => isDoomed_perform brief

/-! ### At rest -/

/-- The handlers that have begun to wait have gone as far as they can, whichever of the reactions
that are open they would pick. -/
def AtRest (w : SignalWatch) : Prop :=
  ∀ i token, w.HasBegun i token → ∀ choose, Chooses choose → w.pollBy? choose i = none

theorem atRest_of_still (still : Machine.Still w) : w.AtRest := by
  intro i token _ choose chooses
  rw [pollBy?_eq_none_iff chooses, ← isAble_eq_false_iff]
  exact still.unable i

/-- A handler that has begun has returned, or no signal has reached it and its
token is not cancelled. -/
theorem AtRest.cases (rest : w.AtRest) {l : Listener} (found : w.listeners[i]? = some l)
    (own : l.token = some token) (begun : l.phase ≠ .fresh) :
    l.phase = .ended ∨
      l.phase = .waiting [] ∧ w.surroundings.isCancelled token = false := by
  have stuck := rest i token ⟨l, found, own, begun⟩ _ chooses_head?
  have cases := (pollBy?_eq_none_iff chooses_head?).1 stuck l found
  rwa [Listener.isReleased, own] at cases

/-- At rest every token that was doomed is cancelled. -/
theorem AtRest.isDoomed_iff (rest : w.AtRest) :
    w.IsDoomed token ↔ w.surroundings.isCancelled token = true := by
  refine or_iff_left ?_
  rintro ⟨i, l, found, own, signal, earlier, phase⟩
  rcases rest.cases found own (by simp [phase]) with ended | ⟨waiting, -⟩
  · simp [ended] at phase
  · simp [waiting] at phase

/-- At rest the handlers that have returned are those of the cancelled tokens. -/
theorem AtRest.hasEnded_iff (rest : w.AtRest) (heeded : w.Heeded) :
    w.HasEnded i token ↔ w.HasBegun i token ∧ w.surroundings.isCancelled token = true := by
  constructor
  · exact fun ended => ⟨hasBegun_iff.2 (.inr ended), heeded i token ended⟩
  · rintro ⟨⟨l, found, own, begun⟩, cancelled⟩
    rcases rest.cases found own begun with ended | ⟨-, kept⟩
    · exact ⟨l, found, own, ended⟩
    · rw [cancelled] at kept
      contradiction

/-! ### Agreement -/

/-- It makes no difference whether a signal meets only those that are waiting or also those whose
wait has returned, since their token has been cancelled then. -/
theorem Heeded.isDoomed_or_strikes (h : w.Heeded) (c : Command) :
    w.IsDoomed token ∨ w.Strikes HasBegun c token ↔
      w.IsDoomed token ∨ w.Strikes IsWaiting c token := by
  cases c with
  | handler other => exact .rfl
  | listener => exact .rfl
  | advance ms => exact .rfl
  | cancel other => exact .rfl
  | deliver signal =>
    simp only [Strikes, hasBegun_iff]
    constructor
    · rintro (doomed | ⟨i, waits | ended⟩)
      · exact .inl doomed
      · exact .inr ⟨i, waits⟩
      · exact .inl (.inl (h i token ended))
    · rintro (doomed | ⟨i, waits⟩)
      · exact .inl doomed
      · exact .inr ⟨i, .inl waits⟩

/-- The same is asked for, when the same handlers have begun to wait. -/
def Alike (e e' : SignalWatch × Command) : Prop :=
  e.2 = e'.2 ∧ ∀ i token, e.1.HasBegun i token ↔ e'.1.HasBegun i token

/-- What a command strikes hangs only on which handlers have begun. -/
theorem Alike.strikes_iff {e e' : SignalWatch × Command} (alike : Alike e e') :
    e.1.Strikes HasBegun e.2 token ↔ e'.1.Strikes HasBegun e'.2 token := by
  obtain ⟨same, begun⟩ := alike
  rw [same]
  cases e'.2 with
  | deliver signal => exact exists_congr fun i => begun i token
  | _ => exact .rfl

/-- What is asked for alike strikes the same tokens. -/
theorem exists_strikes_iff_of_alike {past' : List (SignalWatch × Command)}
    (alike : List.Forall₂ Alike past past') :
    (∃ e ∈ past, e.1.Strikes HasBegun e.2 token) ↔ ∃ e ∈ past', e.1.Strikes HasBegun e.2 token := by
  induction alike with
  | nil => exact .rfl
  | cons first _ ih =>
    rw [List.exists_mem_cons_iff, List.exists_mem_cons_iff, first.strikes_iff, ih]

/-- Those who have come to listen, by their tokens. -/
def enrolled : List Command → List (Option Token)
  | [] => []
  | .handler token :: earlier => enrolled earlier ++ [some token]
  | .listener :: earlier => enrolled earlier ++ [none]
  | _ :: earlier => enrolled earlier

variable {stamp : Event.Stamp}

/-- Nobody listens but those who were asked to, in that order. -/
theorem Course.tokens_eq (course : Course (start stamp) past w) :
    w.listeners.map (·.token) = enrolled (past.map Prod.snd) := by
  induction course with
  | begun => rfl
  | went course goes ih => exact goes.tokens_eq.trans ih
  | @asked past w course c brief ih =>
    cases c with
    | handler token =>
      show (w.listeners ++ [Listener.new (some token)]).map (·.token) = enrolled _ ++ [some token]
      rw [List.map_append, ih]
      rfl
    | listener =>
      show (w.listeners ++ [Listener.new none]).map (·.token) = enrolled _ ++ [none]
      rw [List.map_append, ih]
      rfl
    | advance ms => contradiction
    | cancel other => exact ih
    | deliver signal =>
      simp only [perform_deliver, List.map_map, Function.comp_def, Listener.token_deliver]
      exact ih

theorem map_snd_eq_of_alike {past' : List (SignalWatch × Command)}
    (alike : List.Forall₂ Alike past past') : past.map Prod.snd = past'.map Prod.snd := by
  induction alike with
  | nil => rfl
  | cons first _ ih => rw [List.map_cons, List.map_cons, first.1, ih]

theorem not_isDoomed_start : ¬(start stamp).IsDoomed token := by
  simp [IsDoomed, Handler, start, Surroundings.isCancelled, Surroundings.start]

theorem heeded_start : (start stamp).Heeded := by
  rintro i token ⟨l, found, -⟩
  simp [start] at found

/-- A token is doomed exactly if someone has cancelled it, or a signal was delivered after one of
its handlers had begun to wait. -/
theorem Course.isDoomed_iff_hasBegun (course : Course (start stamp) past w) :
    w.IsDoomed token ↔ ∃ e ∈ past, e.1.Strikes HasBegun e.2 token := by
  have doomed : w.IsDoomed token ↔
      (start stamp).IsDoomed token ∨ ∃ e ∈ past, e.1.Strikes HasBegun e.2 token :=
    course.isDoomed_iff_of fun course brief =>
      (isDoomed_perform brief).trans ((course.heeded heeded_start).isDoomed_or_strikes _).symm
  rwa [or_iff_right not_isDoomed_start] at doomed

/-- It has come to the same: the same have come to listen, the same tokens are cancelled, and of the
handlers that have begun in both or in neither, the same have returned. -/
structure Agree (w w' : SignalWatch) : Prop where
  tokens : w'.listeners.map (·.token) = w.listeners.map (·.token)
  cancelled (token : Token) : w'.surroundings.isCancelled token = w.surroundings.isCancelled token
  ended {i : Nat} {token : Token} : (w'.HasBegun i token ↔ w.HasBegun i token) →
    (w'.HasEnded i token ↔ w.HasEnded i token)

/-- **Agreement.** Courses on which the same was asked for come to the same. -/
theorem Course.agrees {past' : List (SignalWatch × Command)} (course : Course (start stamp) past w)
    (course' : Course (start stamp) past' w') (alike : List.Forall₂ Alike past past')
    (rest : w.AtRest) (rest' : w'.AtRest) : Agree w w' := by
  have cancelled (token : Token) : w'.surroundings.isCancelled token = true ↔
      w.surroundings.isCancelled token = true := by
    rw [← rest.isDoomed_iff, ← rest'.isDoomed_iff, course.isDoomed_iff_hasBegun,
      course'.isDoomed_iff_hasBegun, exists_strikes_iff_of_alike alike]
  refine ⟨?_, fun token => Bool.eq_iff_iff.2 (cancelled token), fun begun => ?_⟩
  · rw [course.tokens_eq, course'.tokens_eq, map_snd_eq_of_alike alike]
  · rw [rest.hasEnded_iff (course.heeded heeded_start),
      rest'.hasEnded_iff (course'.heeded heeded_start), begun, cancelled]

/-- What is decided about the tokens and their handlers on a course. -/
structure Decided (stamp : Event.Stamp) (past : List (SignalWatch × Command)) (w : SignalWatch) :
    Prop where
  /-- At rest, exactly those handlers have returned that had begun and whose token is cancelled. -/
  ended : w.AtRest → ∀ i token, w.HasEnded i token ↔
    w.HasBegun i token ∧ w.surroundings.isCancelled token = true
  /-- At rest, exactly those tokens are cancelled that someone cancelled or one of whose handlers
  was waiting when a signal was delivered. -/
  cancelled : w.AtRest → ∀ token, w.surroundings.isCancelled token = true ↔
    (∃ v, (v, .cancel token) ∈ past) ∨
      ∃ v signal, (v, .deliver signal) ∈ past ∧ ∃ i, v.IsWaiting i token
  /-- A token stays cancelled, whatever is asked for later. -/
  lasting : ∀ {later w'}, Course w later w' → ∀ token, w.surroundings.isCancelled token = true →
    w'.surroundings.isCancelled token = true
  /-- A signal leaves a token alone that has no handler waiting. -/
  untouched : ∀ signal token, (∀ i, ¬w.IsWaiting i token) →
    ∀ {w'}, Course (w.perform (.deliver signal)).1 [] w' →
      w'.surroundings.isCancelled token = w.surroundings.isCancelled token
  /-- What comes of it in the end does not hang on which of the open reactions are picked, nor on
  the order in which those who listen are called. -/
  agrees : ∀ {past' w'}, Course (start stamp) past' w' → List.Forall₂ Alike past past' →
    w.AtRest → w'.AtRest → Agree w w'
  /-- Those who listen come to rest, and all have begun then. -/
  rests : Course (start stamp) past (Machine.resume false w) ∧ (Machine.resume false w).AtRest ∧
    ∀ l ∈ (Machine.resume false w).listeners, l.phase ≠ .fresh

/-- A token is struck by name, or by a signal that meets one of its handlers. -/
theorem exists_strikes_iff : (∃ e ∈ past, e.1.Strikes IsWaiting e.2 token) ↔
    (∃ v, (v, .cancel token) ∈ past) ∨
      ∃ v signal, (v, .deliver signal) ∈ past ∧ ∃ i, v.IsWaiting i token := by
  constructor
  · rintro ⟨⟨v, c⟩, there, strikes⟩
    cases c with
    | cancel other =>
      obtain rfl : other = token := strikes
      exact .inl ⟨v, there⟩
    | deliver signal => exact .inr ⟨v, signal, there, strikes⟩
    | handler other => exact strikes.elim
    | listener => exact strikes.elim
    | advance ms => exact strikes.elim
  · rintro (⟨v, there⟩ | ⟨v, signal, there, waits⟩)
    · exact ⟨_, there, rfl⟩
    · exact ⟨_, there, waits⟩

/-- A signal leaves a token alone that has no handler waiting, however those who listen go on. -/
theorem Course.isCancelled_eq_of_untouched {signal : Signal} (idle : ∀ i, ¬w.IsWaiting i token)
    (course : Course (w.perform (.deliver signal)).1 [] w') :
    w'.surroundings.isCancelled token = w.surroundings.isCancelled token := by
  have kept : (w.perform (.deliver signal)).1.surroundings = w.surroundings := by
    rw [perform_deliver]
  rw [Bool.eq_iff_iff]
  constructor
  · intro cancelled
    have doomed : (w.perform (.deliver signal)).1.IsDoomed token := by
      simpa using course.isDoomed_iff.1 (.inl cancelled)
    rcases (isDoomed_perform rfl).1 doomed with (before | ⟨i, l, found, own, reached⟩) | ⟨i, waits⟩
    · exact before
    · exact absurd ⟨l, found, own, reached.isWaiting⟩ (idle i)
    · exact absurd waits (idle i)
  · exact fun cancelled => course.isCancelled (kept ▸ cancelled)

/-- **What signals come to.** Whatever was asked for, and whoever went on in between in whatever
order and with whatever choices, what becomes of the tokens and of their handlers is decided. -/
theorem signals_decided (course : Course (start stamp) past w) : Decided stamp past w where
  ended rest _ _ := rest.hasEnded_iff (course.heeded heeded_start)
  cancelled rest token := by
    rw [← rest.isDoomed_iff, course.isDoomed_iff, or_iff_right not_isDoomed_start,
      exists_strikes_iff]
  lasting later _ cancelled := later.isCancelled cancelled
  untouched _ _ idle _ later := later.isCancelled_eq_of_untouched idle
  agrees course' alike rest rest' := course.agrees course' alike rest rest'
  rests := by
    refine ⟨course.resume false, atRest_of_still course.still_resume, fun l there fresh => ?_⟩
    obtain ⟨i, found⟩ := List.mem_iff_getElem?.1 there
    have stuck := isAble_eq_false_iff.1 (course.still_resume.unable i) l found
    simp [fresh] at stuck

/-! ### Two that are torn -/

def callAll (choose : List Reaction → Option Reaction) (numbers : List Nat) (w : SignalWatch) :
    SignalWatch :=
  numbers.foldl (fun w i => (w.pollBy? choose i).getD w) w

theorem Course.callAll {choose : List Reaction → Option Reaction} (chooses : Chooses choose)
    (numbers : List Nat) (course : Course first past w) :
    Course first past (callAll choose numbers w) := by
  induction numbers generalizing w with
  | nil => exact course
  | cons i rest ih =>
    apply ih
    show Course first past ((w.pollBy? choose i).getD w)
    cases next : w.pollBy? choose i with
    | none => exact course
    | some w' => exact course.went (.polled i chooses next)

/-- Two handlers of one token that wait. -/
def pair : SignalWatch :=
  let w := ((start ⟨"0", .epoch⟩).perform (.handler (.numbered 0))).1
  callAll List.head? [0, 1] (w.perform (.handler (.numbered 0))).1

/-- They have not had a turn since a signal was delivered and someone else cancelled their token. -/
def torn : SignalWatch :=
  ((pair.perform (.deliver .interrupt)).1.perform (.cancel (.numbered 0))).1

/-- The first one is called first, and they heed the signal. -/
def heeding : SignalWatch := callAll List.head? [0, 1] torn

/-- The second one is called first, and they leave because the token is cancelled. -/
def leaving : SignalWatch := callAll List.getLast? [1, 0] torn

/-- Where everybody is done, all is at rest. -/
theorem atRest_of_all_isOver (gone : w.listeners.all (·.isOver) = true) : w.AtRest := by
  rintro i token - choose chooses
  rw [pollBy?_eq_none_iff chooses]
  intro l found
  have ended := List.all_eq_true.1 gone l (List.mem_of_getElem? found)
  exact .inl (by simpa [Listener.isOver] using ended)

/-- The two that are torn tell different things, but it comes to the same. -/
theorem signals_decided_torn : ∃ past, Course (start ⟨"0", .epoch⟩) past heeding ∧
    Course (start ⟨"0", .epoch⟩) past leaving ∧ heeding.AtRest ∧ leaving.AtRest ∧
    heeding.surroundings.journal.length = 4 ∧ leaving.surroundings.journal.length = 2 ∧
    (heeding.HasEnded 1 (.numbered 0) ∧ heeding.surroundings.isCancelled (.numbered 0) = true) ∧
    Agree heeding leaving := by
  have listening : Course (start ⟨"0", .epoch⟩) _ pair :=
    .callAll chooses_head? [0, 1] (((Course.begun).perform (.handler (.numbered 0))).perform
      (.handler (.numbered 0)))
  have course := (listening.perform (.deliver .interrupt)).perform (.cancel (.numbered 0))
  have rest : heeding.AtRest := atRest_of_all_isOver (by decide)
  have rest' : leaving.AtRest := atRest_of_all_isOver (by decide)
  have heeded := course.callAll chooses_head? [0, 1]
  have left := course.callAll chooses_getLast? [1, 0]
  refine ⟨_, heeded, left, rest, rest', by decide, by decide, ⟨⟨_, rfl, rfl, rfl⟩, by decide⟩, ?_⟩
  have same (e : SignalWatch × Command) : Alike e e := ⟨rfl, fun _ _ => .rfl⟩
  exact (signals_decided heeded).agrees left (List.forall₂_same.2 fun e _ => same e) rest rest'

end SignalWatch

end SchedulerHost.Host
