import SchedulerHost.Proofs.Gate.Reports

/-!
# Reading the journal

A reader picks what it understands out of the entries of a journal. `Surroundings.read` is all that
it has picked out since the journal had a number of entries, the first first;
`Surroundings.Tells` says what it picks out of what has been entered from one moment to another.

* **What is told is read** (`Tells.read`), and what is told piece by piece is told as a whole
  (`Tells.trans`).
-/

namespace SchedulerHost.Host

namespace Surroundings

variable {β : Type} {f : Entry → Option β} {s s' s'' : Surroundings} {mark : Nat}

/-- What a reader picks out of the entries since the journal had a number of them. -/
def read (f : Entry → Option β) (s : Surroundings) (mark : Nat) : List β :=
  ((s.entriesSince mark).filterMap f).reverse

/-- What a reader picks out of what has been entered in between. -/
def Tells (f : Entry → Option β) (told : List β) (s s' : Surroundings) : Prop :=
  ∃ entered, s'.journal = entered ++ s.journal ∧ (entered.filterMap f).reverse = told

/-- Nothing has been entered when the reading begins. -/
theorem read_length (f : Entry → Option β) (s : Surroundings) : s.read f s.journal.length = [] := by
  simp [read, entriesSince]

theorem Tells.of_journal (same : s'.journal = s.journal) : Tells f [] s s' :=
  ⟨[], by rw [same, List.nil_append], rfl⟩

theorem Tells.refl (f : Entry → Option β) (s : Surroundings) : Tells f [] s s :=
  .of_journal rfl

theorem Tells.trans {told more : List β} (first : Tells f told s s') (last : Tells f more s' s'') :
    Tells f (told ++ more) s s'' := by
  obtain ⟨entered, grown, rfl⟩ := first
  obtain ⟨entered', grown', rfl⟩ := last
  refine ⟨entered' ++ entered, by rw [grown', grown, List.append_assoc], ?_⟩
  rw [List.filterMap_append, List.reverse_append]

/-- What tells nothing may go on as long as it likes. -/
theorem Tells.silent (first : Tells f [] s s') (last : Tells f [] s' s'') : Tells f [] s s'' :=
  first.trans last

theorem tells_note (f : Entry → Option β) (s : Surroundings) (scope : Scope) (n : Notice) :
    Tells f (f ⟨s.now, .notice scope n⟩).toList s (s.note scope n) := by
  refine ⟨[⟨s.now, .notice scope n⟩], rfl, ?_⟩
  cases told : f ⟨s.now, .notice scope n⟩ <;> simp [told]

theorem tells_call (f : Entry → Option β) (s : Surroundings) (c : Call) :
    Tells f (f ⟨s.now, .call c⟩).toList s (s.call c) := by
  refine ⟨[⟨s.now, .call c⟩], rfl, ?_⟩
  cases told : f ⟨s.now, .call c⟩ <;> simp [told]

/-- Tokens are cancelled without a word. -/
theorem journal_cancel (s : Surroundings) (token : Token) :
    (s.cancel token).journal = s.journal := by
  unfold cancel
  split <;> rfl

theorem tells_cancel (f : Entry → Option β) (s : Surroundings) (token : Token) :
    Tells f [] s (s.cancel token) :=
  .of_journal (s.journal_cancel token)

theorem Tells.length_le {told : List β} (h : Tells f told s s') :
    s.journal.length ≤ s'.journal.length := by
  obtain ⟨entered, grown, -⟩ := h
  rw [grown, List.length_append]
  omega

/-- What is told is read, after what has been read before. -/
theorem Tells.read {told : List β} (h : Tells f told s s') (old : mark ≤ s.journal.length) :
    s'.read f mark = s.read f mark ++ told := by
  obtain ⟨entered, grown, rfl⟩ := h
  have since : s'.entriesSince mark = entered ++ s.entriesSince mark := by
    rw [entriesSince, entriesSince, grown, List.length_append,
      show entered.length + s.journal.length - mark =
        entered.length + (s.journal.length - mark) by omega, List.take_length_add_append]
  rw [Surroundings.read, since, List.filterMap_append, List.reverse_append]
  rfl

end Surroundings

end SchedulerHost.Host
