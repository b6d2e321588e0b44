import SchedulerHost.Proofs.Gate.Attending
import SchedulerHost.Proofs.Machine.Passing

/-!
# Rest at a gate

A waiting room is run as a machine: whoever is woken is called, takes as many steps as it can and
goes to the back of the line. All of it is made of the steps that anyone may take, so what holds of
a room that has been reached in any way holds of every room that comes up when one thing is asked
after the other.

* **Soundness** (`sound_reached`): steps use up work, whoever can go on stands in the line, and
  nobody becomes able before an alarm is due.
* **Steps are enough** (`Reachable.perform`, `Reached.resume`): what is asked of a room, and what
  goes on in it afterwards, can be told as steps. `Session.reachable` says so of all that is asked
  one after the other.
* **Rest** (`Reached.still_resume`): those who are in a room always come to rest.
-/

namespace SchedulerHost.Host.WaitingRoom

variable {stamp : Event.Stamp} {r r' : WaitingRoom} {a : RoomAgent}

/-! ### Who can go on -/

theorem isSome_poll?_informer (r : WaitingRoom) (i : Nat) :
    (r.poll? (.informer i)).isSome = r.informers[i]?.any fun t =>
      (t.play.next? r.surroundings.now (r.surroundings.isCancelled t.stop)).isSome := by
  simp only [poll?]
  cases r.informers[i]? with
  | none => rfl
  | some t => rw [Option.isSome_map, InformerTask.isSome_step?, Option.any_some]

instance : LawfulMachine WaitingRoom where
  setLine_line _ := rfl
  line_setLine _ _ := rfl
  setLine_setLine _ _ _ := rfl
  now_setLine _ _ := rfl
  alarms_setLine _ _ := rfl
  work_setLine _ _ := rfl
  isAble_setLine l r a := by
    show (poll? { r with line := l } a).isSome = (r.poll? a).isSome
    cases a with
    | informer i => rw [isSome_poll?_informer, isSome_poll?_informer]
    | wait i => exact Bool.eq_iff_iff.2 (able_congr r { r with line := l } rfl rfl rfl)
  setNow_now _ := rfl
  now_setNow _ _ := rfl
  setNow_setNow _ _ _ := rfl
  line_setNow _ _ := rfl
  alarms_setNow _ _ := rfl
  work_setNow _ _ := rfl

/-- A step depends on the line only in who is woken by it. -/
theorem exists_poll?_of_line (next : r.poll? a = some r') (l : Line RoomAgent) :
    r'.line.members = r.line.members ∧ ∃ l' : Line RoomAgent, l'.members = l.members ∧
      poll? { r with line := l } a = some { r' with line := l' } := by
  cases a with
  | informer i =>
    simp only [poll?] at next ⊢
    cases found : r.informers[i]? with
    | none => simp [found] at next
    | some t =>
      simp only [found, Option.map_eq_some_iff] at next ⊢
      obtain ⟨⟨told, s, c, t'⟩, stepped, rfl⟩ := next
      refine ⟨r.members_withCache told c, (withCache { r with line := l } told c).line,
        members_withCache { r with line := l } told c, _, stepped, ?_⟩
      cases told <;> rfl
  | wait i =>
    obtain ⟨w, g, w', found, stepped, rfl⟩ := exists_of_poll?_wait next
    refine ⟨rfl, l, rfl, ?_⟩
    rw [poll?_wait (r := { r with line := l }) found, stepped]
    rfl

/-! ### Fitness -/

/-- Whoever goes on stands in the line, and the informers are in a state they can be in. -/
structure Fit (r : WaitingRoom) : Prop where
  waits (i : Nat) : i < r.waits.length → .wait i ∈ r.line.members
  informers (i : Nat) : i < r.informers.length → .informer i ∈ r.line.members
  sane (t : InformerTask) : t ∈ r.informers → t.play.Sane

theorem Fit.mem_of_able (fit : r.Fit) (able : (r.poll? a).isSome = true) :
    a ∈ r.line.members := by
  cases a with
  | informer i =>
    rw [isSome_poll?_informer] at able
    obtain ⟨t, found, -⟩ := (Option.any_eq_true _ _).1 able
    exact fit.informers i (List.getElem?_eq_some_iff.1 found).1
  | wait i =>
    obtain ⟨w, found, -⟩ := isSome_poll?_wait.1 able
    exact fit.waits i (List.getElem?_eq_some_iff.1 found).1

/-- Informers are launched, and no command does anything else to them. -/
theorem informers_perform (r : WaitingRoom) {c : Command} (brief : c.isBrief = true) :
    (r.perform c).1.informers = r.informers ∨
      ∃ t : InformerTask, t.play.Sane ∧ (r.perform c).1.informers = r.informers ++ [t] ∧
        .informer r.informers.length ∈ (r.perform c).1.line.members := by
  cases c with
  | advance ms => contradiction
  | launch driver stop =>
    simp only [perform, launch]
    cases r.drivers[driver]? with
    | none => exact .inl rfl
    | some d =>
      right
      refine ⟨(d.launch r.cache stop).1, Performance.sane_ofScript _, ?_, ?_⟩
      · simp only [informers_withCache]
      · simp [Line.toBack]
  | register feed =>
    left
    simp only [perform, register]
    split
    · rfl
    · exact r.informers_withCache _ _
  | drive informer =>
    left
    simp only [perform, drive]
    split
    · rfl
    · exact r.informers_withCache _ _
  | insert feed key object =>
    left
    simp only [perform]
    split <;> rfl
  | replace feed listing =>
    left
    simp only [perform]
    split <;> rfl
  | markRunning feed => exact .inl (r.informers_withCache _ _)
  | markSynced feed => exact .inl (r.informers_withCache _ _)
  | isSynced => exact .inl rfl
  | state feed => exact .inl rfl
  | contents feed => exact .inl rfl
  | snapshot => exact .inl rfl
  | read snapshot feed => exact .inl rfl
  | wait token => exact .inl rfl
  | cancel token => exact .inl rfl

/-- Nobody leaves the line because something is asked. -/
theorem members_perform (r : WaitingRoom) {c : Command} (brief : c.isBrief = true) :
    ∀ a ∈ r.line.members, a ∈ (r.perform c).1.line.members := by
  rcases spares_perform r c brief with spares | ⟨token, rfl⟩ | ⟨token, rfl⟩
  · exact spares.members
  · exact fun _ member => Line.mem_members_toBack member
  · exact fun _ member => member

theorem Fit.ask (fit : r.Fit) {c : Command} (brief : c.isBrief = true)
    (attended : (r.ask c).Attended) : (r.ask c).Fit := by
  have informers : (r.ask c).informers = (r.perform c).1.informers := by cases c <;> rfl
  have members : (r.ask c).line.members = (r.perform c).1.line.members := by cases c <;> rfl
  have stays := r.members_perform brief
  rw [← members] at stays
  refine ⟨attended.present, ?_, ?_⟩
  · intro i inside
    rcases r.informers_perform brief with same | ⟨t, -, launched, joins⟩
    · rw [informers, same] at inside
      exact stays _ (fit.informers i inside)
    · rw [informers, launched, List.length_append, List.length_singleton] at inside
      by_cases old : i < r.informers.length
      · exact stays _ (fit.informers i old)
      · obtain rfl : i = r.informers.length := by omega
        rw [members]
        exact joins
  · intro t there
    rcases r.informers_perform brief with same | ⟨t', sane, launched, -⟩
    · rw [informers, same] at there
      exact fit.sane t there
    · rw [informers, launched, List.mem_append, List.mem_singleton] at there
      rcases there with before | rfl
      · exact fit.sane t before
      · exact sane

/-- A step of someone leaves less to do. -/
theorem Fit.poll? (fit : r.Fit) (next : r.poll? a = some r') :
    r'.Fit ∧ Machine.work r' < Machine.work r ∧
      r'.surroundings.now = r.surroundings.now := by
  have members := (exists_poll?_of_line next r.line).1
  cases a with
  | informer i =>
    have spares := spares_poll? next
    simp only [WaitingRoom.poll?] at next
    cases found : r.informers[i]? with
    | none => simp [found] at next
    | some t =>
      simp only [found, Option.map_eq_some_iff] at next
      obtain ⟨⟨told, s, c, t'⟩, stepped, rfl⟩ := next
      obtain ⟨works, move, play, next, rfl⟩ := InformerTask.step?_facts stepped
      have sane := fit.sane t (List.mem_of_getElem? found)
      obtain ⟨kept, less⟩ := InformerTask.work_of_next? sane next
      refine ⟨⟨?_, ?_, ?_⟩, ?_, works.surroundings.now⟩
      · intro j inside
        rw [members]
        rw [spares.waits] at inside
        exact fit.waits j inside
      · intro j inside
        rw [members]
        rw [List.length_set] at inside
        exact fit.informers j inside
      · intro other there
        rcases List.mem_or_eq_of_mem_set there with before | rfl
        · exact fit.sane other before
        · exact kept
      · have total := foldr_add_set_lt (fun t : InformerTask => t.work) found less
        show _ + ((r.withCache told c).waits.map (·.work)).foldr (· + ·) 0 < _ + _
        rw [waits_withCache]
        exact Nat.add_lt_add_right total _
  | wait i =>
    obtain ⟨w, g, w', found, stepped, rfl⟩ := exists_of_poll?_wait next
    refine ⟨⟨?_, fit.informers, fit.sane⟩, ?_, rfl⟩
    · intro j inside
      rw [List.length_set] at inside
      exact fit.waits j inside
    · exact Nat.add_lt_add_left
        (foldr_add_set_lt (fun w : Wait => w.work) found (Wait.work_step? stepped)) _

theorem Fit.of_line (fit : r.Fit) {l : Line RoomAgent}
    (kept : ∀ a ∈ r.line.members, a ∈ l.members) : Fit { r with line := l } :=
  ⟨fun i inside => kept _ (fit.waits i inside), fun i inside => kept _ (fit.informers i inside),
    fit.sane⟩

/-- Every room that can be reached is fit. -/
theorem Reachable.fit (h : Reachable stamp r) : r.Fit := by
  induction h with
  | refl => exact ⟨by simp [start], by simp [start], by simp [start]⟩
  | tail reached step ih =>
    have attended := Reachable.attended (reached.tail step)
    obtain ⟨polled, move⟩ := step
    cases move with
    | asked c brief => exact ih.ask brief attended
    | polled a woken next => exact (ih.poll? next).1
    | lined l members woken => exact ih.of_line members
    | elapsed t later => exact ⟨ih.waits, ih.informers, ih.sane⟩

/-! ### Soundness -/

/-- A room that can be reached, but for who is woken: whoever has a turn is called no more, and may
go on all the same. -/
def Reached (stamp : Event.Stamp) (r : WaitingRoom) : Prop :=
  ∃ l : Line RoomAgent, (∀ a ∈ l.members, a ∈ r.line.members) ∧
    Reachable stamp { r with line := l }

theorem Reachable.reached (h : Reachable stamp r) : Reached stamp r :=
  ⟨r.line, fun _ member => member, h⟩

theorem Reached.fit (h : Reached stamp r) : r.Fit := by
  obtain ⟨l, members, reachable⟩ := h
  exact reachable.fit.of_line members

/-- Whoever can go on may be woken for it. -/
theorem Reached.poll? (h : Reached stamp r) (next : r.poll? a = some r') : Reached stamp r' := by
  obtain ⟨l, members, reachable⟩ := h
  let called : Line RoomAgent := { l with woken := a :: l.woken }
  have woken : Reachable stamp { r with line := called } :=
    reachable.tail ⟨none, .lined called (fun _ member => member)
      fun _ there _ => List.mem_cons_of_mem a there⟩
  obtain ⟨same, l', members', polled⟩ := exists_poll?_of_line next called
  refine ⟨l', ?_, woken.tail ⟨some a, .polled a List.mem_cons_self polled⟩⟩
  rw [members', same]
  exact members

/-- Once whoever can go on is woken, nothing is missing. -/
theorem Reached.reachable (h : Reached stamp r) (roused : Machine.Roused r) :
    Reachable stamp r := by
  obtain ⟨l, members, reachable⟩ := h
  refine reachable.tail ⟨none, .lined r.line members ?_⟩
  intro a _ able
  refine roused a ?_
  rw [← LawfulMachine.isAble_setLine l r a]
  exact able

/-- Time makes nobody able to go on but an informer whose alarm is due. -/
theorem due_of_isSome_poll? {t : Nat} (able : (poll? (Machine.setNow t r) a).isSome = true) :
    (r.poll? a).isSome = true ∨ ∃ due ∈ Machine.alarms r, due ≤ t := by
  cases a with
  | wait i => exact .inl ((able_congr r (Machine.setNow t r) rfl rfl rfl).1 able)
  | informer i =>
    rw [isSome_poll?_informer] at able ⊢
    obtain ⟨task, found, goes⟩ := (Option.any_eq_true _ _).1 able
    have found : r.informers[i]? = some task := found
    rcases Performance.due_of_isSome_next? r.surroundings.now goes with
      now | ⟨due, waits, passed⟩
    · left
      rw [found, Option.any_some]
      exact now
    · exact .inr ⟨due, List.mem_flatMap.2 ⟨task, List.mem_of_getElem? found, waits⟩, passed⟩

/-- **Soundness.** In a room that has been reached, steps use up work, whoever can go on stands in
the line, and nobody becomes able before an alarm is due. -/
theorem sound_reached : Machine.Sound (Reached stamp) where
  of_poll h next := h.poll? next
  of_line h kept := by
    obtain ⟨l, members, reachable⟩ := h
    exact ⟨l, fun a member => kept a (members a member), reachable⟩
  of_time h later := by
    obtain ⟨l, members, reachable⟩ := h
    exact ⟨l, members, reachable.tail ⟨none, .elapsed _ later⟩⟩
  now_poll h next := (h.fit.poll? next).2.2
  work_poll h next := (h.fit.poll? next).2.1
  able_mem h able := h.fit.mem_of_able able
  able_of_due {r due} h alarm passed := by
    obtain ⟨t, there, waits⟩ := List.mem_flatMap.1 alarm
    obtain ⟨i, found⟩ := List.mem_iff_getElem?.1 there
    refine ⟨.informer i, ?_⟩
    show (r.poll? (.informer i)).isSome = true
    rw [isSome_poll?_informer, found, Option.any_some]
    exact Performance.isSome_next?_of_due (h.fit.sane t there) waits passed
  due_of_able _ _ able := due_of_isSome_poll? able

/-! ### One thing after the other -/

/-- What is asked of a room can be told as steps, but for who is woken by it. -/
theorem Reachable.perform (h : Reachable stamp r) (roused : Machine.Roused r) (c : Command) :
    Reached stamp (r.perform c).1 := by
  cases brief : c.isBrief with
  | true =>
    have asked : Reachable stamp (r.ask c) := h.tail ⟨none, .asked c brief⟩
    refine ⟨(r.ask c).line, ?_, ?_⟩
    · cases c <;> exact fun _ member => member
    · cases c <;> exact asked
  | false =>
    cases c with
    | advance ms => exact (sound_reached.advance_facts h.reached roused ms).1
    | _ => contradiction

/-- So can what goes on afterwards. -/
theorem Reached.resume (h : Reached stamp r) (hold : Bool) :
    Reachable stamp (Machine.resume hold r) ∧ Machine.Roused (Machine.resume hold r) := by
  have held := sound_reached.keeps.rouse h
  have roused := sound_reached.roused_rouse h
  cases hold with
  | true => exact ⟨held.reachable roused, roused⟩
  | false =>
    have awake := (sound_reached.still_settle held roused).roused
    exact ⟨(sound_reached.settle_facts held roused).1.reachable awake, awake⟩

/-- **Rest.** Whatever has become of a room, it comes to rest. -/
theorem Reached.still_resume (h : Reached stamp r) : Machine.Still (Machine.resume false r) :=
  sound_reached.still_settle (sound_reached.keeps.rouse h) (sound_reached.roused_rouse h)

/-- The rooms that come up when one thing is asked after the other. Whatever is asked, all settles
then or is held up. -/
inductive Session (stamp : Event.Stamp) : WaitingRoom → Prop
  | started : Session stamp (start stamp)
  | performed {r : WaitingRoom} (before : Session stamp r) (c : Command) (hold : Bool) :
    Session stamp (Machine.resume hold (r.perform c).1)

/-- **Steps are enough.** Whatever is asked of a room, one thing after the other,
can be told as steps. -/
theorem Session.reachable (h : Session stamp r) : Reachable stamp r ∧ Machine.Roused r := by
  induction h with
  | started =>
    have reachable : Reachable stamp (start stamp) := .refl
    refine ⟨reachable, ?_⟩
    -- Nobody is in the room yet.
    intro a able
    have stands := sound_reached.able_mem reachable.reached able
    cases stands
  | performed before c hold ih => exact (ih.1.perform ih.2 c).resume hold

end SchedulerHost.Host.WaitingRoom
