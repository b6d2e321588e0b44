import SchedulerHost.Json.Record

/-!
# Readers that agree

A text may be read in two ways, one of which keeps more of it than the other: a time may be read as
an instant or left as it is spelled. If the fields of a record agree, the records do.

* `Refines`: where one reader takes a value, another takes one that agrees with it.
* `Twin`, `Agree`: a field that is read in two ways, and records of such fields that agree.
* **Records** (`refines_record`), **documents** (`Refines.document`).
-/

namespace SchedulerHost.Json

variable {α β : Type} {agree : α → β → Prop} {read : Reader α} {other : Reader β}

/-- Where one reader takes a value, the other takes as much, and the values agree. -/
def Refines (agree : α → β → Prop) (read : Reader α) (other : Reader β) : Prop :=
  ∀ ⦃cs : List Char⦄ ⦃a : α⦄ ⦃rest : List Char⦄, read cs = .ok (a, rest) →
    ∃ b, other cs = .ok (b, rest) ∧ agree a b

theorem refines_self (read : Reader α) : Refines Eq read read :=
  fun _ a _ h => ⟨a, h, rfl⟩

theorem Refines.map {γ δ : Type} {agree' : γ → δ → Prop} (refines : Refines agree read other)
    {f : α → γ} {g : β → δ} (h : ∀ a b, agree a b → agree' (f a) (g b)) :
    Refines agree' (read.map f) (other.map g) := by
  intro cs c rest taken
  cases here : read cs with
  | error fault => simp [Reader.map, here] at taken
  | ok part =>
    obtain ⟨a, left⟩ := part
    obtain ⟨b, there, same⟩ := refines here
    simp only [Reader.map, here, Except.ok.injEq, Prod.mk.injEq] at taken
    obtain ⟨rfl, rfl⟩ := taken
    exact ⟨g b, Reader.map_ok g other cs left b there, h a b same⟩

theorem Refines.enclosed (refines : Refines agree read other)
    (close : List Char → Except Fault Unit × List Char) :
    Refines agree (Reader.enclosed read close) (Reader.enclosed other close) := by
  intro cs a rest taken
  unfold Reader.enclosed at taken
  split at taken
  · next a' left here =>
    obtain ⟨b, there, same⟩ := refines here
    split at taken
    · next closed =>
      cases taken
      exact ⟨b, by simp [Reader.enclosed, there, closed], same⟩
    · cases taken
  · cases taken
  · cases taken

/-- What is read from a whole text agrees too. -/
theorem Refines.document (refines : Refines agree read other) {text : String} {a : α}
    (h : read.document text = .ok a) : ∃ b, other.document text = .ok b ∧ agree a b := by
  unfold Reader.document at h
  split at h
  · cases h
  · next a' left here =>
    obtain ⟨b, there, same⟩ := refines here
    split at h
    · next ended =>
      cases h
      exact ⟨b, by simp [Reader.document, there, ended], same⟩
    · cases h

/-! ### Records -/

/-- Two fields of one name whose values agree. -/
structure Twin (f g : Field) where
  agree : f.type → g.type → Prop
  name : f.name = g.name
  refines : Refines agree f.read g.read
  absent : Option.Rel agree f.absent g.absent

def Twin.refl (f : Field) : Twin f f where
  agree := Eq
  name := rfl
  refines := refines_self f.read
  absent := by cases f.absent <;> constructor; rfl

/-- Two records whose fields agree one by one. -/
inductive Twins : Schema → Schema → Type 1
  | nil : Twins [] []
  | cons {f g : Field} {s s' : Schema} (t : Twin f g) (ts : Twins s s') : Twins (f :: s) (g :: s')

namespace Schema

variable {s s' : Schema} {cs rest : List Char}

def twins_refl : (s : Schema) → Twins s s
  | [] => .nil
  | f :: s => .cons (.refl f) (twins_refl s)

/-- The values of two records agree field by field. -/
def Agree : {s s' : Schema} → Twins s s' → Values s → Values s' → Prop
  | _, _, .nil, _, _ => True
  | _, _, .cons t ts, (a, values), (b, others) => t.agree a b ∧ Agree ts values others

/-- Two drafts have the same fields, and these agree. -/
def DraftsAgree : {s s' : Schema} → Twins s s' → Draft s → Draft s' → Prop
  | _, _, .nil, _, _ => True
  | _, _, .cons t ts, (slot, draft), (slot', draft') =>
    Option.Rel t.agree slot slot' ∧ DraftsAgree ts draft draft'

theorem draftsAgree_blank (ts : Twins s s') : DraftsAgree ts (blank s) (blank s') := by
  induction ts with
  | nil => trivial
  | cons t ts ih => exact ⟨.none, ih⟩

/-- A member is read into drafts that agree. -/
theorem draftsAgree_member {ts : Twins s s'} {draft draft' : Draft s} {plain : Draft s'}
    (agree : DraftsAgree ts draft plain) {key : String}
    (h : member key s draft cs = .ok (draft', rest)) :
    ∃ plain', member key s' plain cs = .ok (plain', rest) ∧ DraftsAgree ts draft' plain' := by
  induction ts generalizing rest with
  | nil => exact ⟨(), h, trivial⟩
  | @cons f g s s' t ts ih =>
    obtain ⟨slot, draft⟩ := draft
    obtain ⟨slot', plain⟩ := plain
    obtain ⟨slots, agree⟩ := agree
    by_cases own : g.name = key
    · cases slots with
      | some same => simp [member, t.name, own] at h
      | none =>
        simp only [member, t.name, own, if_true, bind, Except.bind] at h ⊢
        cases after : colon cs with
        | error fault => simp [after] at h
        | ok left =>
          cases value : f.read left with
          | error fault => simp [after, value] at h
          | ok part =>
            obtain ⟨a, last⟩ := part
            obtain ⟨b, there, same⟩ := t.refines value
            simp only [after, value, pure, Except.pure, Except.ok.injEq] at h
            cases h
            exact ⟨(some b, plain), by simp [there, pure, Except.pure], .some same, agree⟩
    · simp only [member, t.name, own, if_false, bind, Except.bind] at h ⊢
      cases below : member key s draft cs with
      | error fault => simp [below] at h
      | ok part =>
        obtain ⟨lower, left⟩ := part
        obtain ⟨lower', there, same⟩ := ih agree below
        simp only [below, pure, Except.pure, Except.ok.injEq] at h
        cases h
        exact ⟨(slot', lower'), by simp [there, pure, Except.pure], slots, same⟩

/-- The members of an object are read into drafts that agree. -/
theorem draftsAgree_members {ts : Twins s s'} {fuel : Nat} {first : Bool} {draft draft' : Draft s}
    {plain : Draft s'} (agree : DraftsAgree ts draft plain)
    (h : members s fuel first draft cs = .ok (draft', rest)) :
    ∃ plain', members s' fuel first plain cs = .ok (plain', rest) ∧
      DraftsAgree ts draft' plain' := by
  induction fuel generalizing first draft plain cs with
  | zero =>
    cases h
    exact ⟨plain, rfl, agree⟩
  | succ fuel ih =>
    simp only [members, bind, Except.bind] at h ⊢
    cases more : nextKey first cs with
    | error fault => simp [more] at h
    | ok part =>
      obtain ⟨more', left⟩ := part
      cases more' with
      | false =>
        simp only [more, Bool.false_eq_true, if_false, pure, Except.pure, Except.ok.injEq,
          Prod.mk.injEq] at h
        obtain ⟨rfl, rfl⟩ := h
        exact ⟨plain, by simp [pure, Except.pure], agree⟩
      | true =>
        cases name : stringBody left with
        | error fault => simp [more, name] at h
        | ok part =>
          obtain ⟨key, after⟩ := part
          cases value : member key s draft after with
          | error fault => simp [more, name, value] at h
          | ok part =>
            obtain ⟨next, last⟩ := part
            obtain ⟨next', there, agree⟩ := draftsAgree_member agree value
            simp only [more, name, value, if_true] at h
            obtain ⟨plain', later, agree⟩ := ih agree h
            exact ⟨plain', by simp [name, there, later], agree⟩

/-- Drafts that agree are completed to records that agree. -/
theorem agree_complete {ts : Twins s s'} {draft : Draft s} {plain : Draft s'}
    (agree : DraftsAgree ts draft plain) {values : Values s} (h : complete s draft = .ok values) :
    ∃ others, complete s' plain = .ok others ∧ Agree ts values others := by
  induction ts with
  | nil => exact ⟨(), rfl, trivial⟩
  | @cons f g s s' t ts ih =>
    obtain ⟨slot, draft⟩ := draft
    obtain ⟨slot', plain⟩ := plain
    obtain ⟨slots, agree⟩ := agree
    have value : Option.Rel t.agree (slot.or f.absent) (slot'.or g.absent) := by
      cases slots with
      | some same => exact .some same
      | none => exact t.absent
    simp only [complete] at h ⊢
    revert h value
    generalize slot.or f.absent = first
    generalize slot'.or g.absent = first'
    intro h value
    cases value with
    | none => cases h
    | @some a b same =>
      cases below : complete s draft with
      | error cause => simp [below] at h
      | ok lower =>
        obtain ⟨lower', there, agree⟩ := ih agree below
        simp only [below] at h
        cases h
        exact ⟨(b, lower'), by simp [there], same, agree⟩

/-- Members that are read into the one record are read into the other. -/
theorem refines_fromMembers (ts : Twins s s') :
    Refines (Agree ts) (fromMembers s) (fromMembers s') := by
  intro cs values rest h
  unfold fromMembers at h ⊢
  split at h
  · cases h
  · next draft left read =>
    obtain ⟨plain, there, agree⟩ := draftsAgree_members (draftsAgree_blank ts) read
    split at h
    · cases h
    · next values' completes =>
      obtain ⟨others, completes', agree⟩ := agree_complete agree completes
      cases h
      exact ⟨others, by simp [there, completes'], agree⟩

theorem refines_fromItems (ts : Twins s s') (expected expected' : String) (index : Nat)
    (first : Bool) :
    Refines (Agree ts) (fromItems expected s index first) (fromItems expected' s' index first) := by
  intro cs values rest h
  induction ts generalizing index first cs rest with
  | nil => exact ⟨(), h, trivial⟩
  | @cons f g s s' t ts ih =>
    simp only [fromItems, bind, Except.bind] at h ⊢
    cases more : Reader.nextItem first cs with
    | error fault => simp [more] at h
    | ok part =>
      obtain ⟨more', left⟩ := part
      have absent := t.absent
      revert h
      cases more' with
      | true =>
        cases value : f.read left with
        | error fault => simp [more, value]
        | ok part =>
          obtain ⟨a, after⟩ := part
          obtain ⟨b, there, same⟩ := t.refines value
          cases below : fromItems expected s (index + 1) false after with
          | error fault => simp [more, value, below]
          | ok part =>
            obtain ⟨lower, last⟩ := part
            obtain ⟨lower', there', agree⟩ := ih _ _ below
            intro h
            simp only [more, value, below, if_true, pure, Except.pure, Except.ok.injEq] at h
            cases h
            exact ⟨(b, lower'), by simp [there, there', pure, Except.pure], same, agree⟩
      | false =>
        revert absent
        generalize f.absent = slot
        generalize g.absent = slot'
        intro absent h
        cases absent with
        | none => simp [more] at h
        | @some a b same =>
          cases below : fromItems expected s (index + 1) first left with
          | error fault => simp [more, below] at h
          | ok part =>
            obtain ⟨lower, last⟩ := part
            obtain ⟨lower', there', agree⟩ := ih _ _ below
            simp only [more, below, Bool.false_eq_true, if_false, pure, Except.pure,
              Except.ok.injEq] at h
            cases h
            exact ⟨(b, lower'), by simp [there', pure, Except.pure], same, agree⟩

/-- Two records are read alike when their fields are. -/
theorem refines_record (ts : Twins s s') (name : String) :
    Refines (Agree ts) (Reader.record name s) (Reader.record name s') := by
  intro cs values rest h
  unfold Reader.record at h ⊢
  split at h
  · cases h
  · exact (refines_fromMembers ts).enclosed Reader.closeObject h
  · exact (refines_fromItems ts _ _ 0 true).enclosed Reader.closeList h
  · cases h

end Schema

end SchedulerHost.Json
