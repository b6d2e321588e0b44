import SchedulerHost.Json.Record
import SchedulerHost.Json.Variant
import SchedulerHost.Proofs.Json.Reading

/-!
# Reading records and variants

A record is written as an object whose members are its fields in declaration order, some of them
left out. It is read field by field into a draft, which has nothing twice if the names of the fields
are different.

* `Written`: how the values of a record are written; `Fills`: what its members make of a draft.
* **Records** (`Schema.Written.decodes`): a record that was written is read as it was.
* **Variants** (`decodes_alone`, `decodes_tagged`): so is a value of one of several named shapes.
-/

namespace SchedulerHost.Json

namespace Schema

/-! ### Members -/

/-- A member of an object gives a field of a record that was not given before. -/
inductive Gives : (s : Schema) → Draft s → String → Value → Draft s → Prop
  | here {f : Field} {s : Schema} {draft : Draft s} {v : Value} {a : f.type}
    (read : Decodes f.read v a) : Gives (f :: s) (none, draft) f.name v (some a, draft)
  | later {f : Field} {s : Schema} {slot : Option f.type} {draft draft' : Draft s} {key : String}
    {v : Value} (other : f.name ≠ key) (gives : Gives s draft key v draft') :
    Gives (f :: s) (slot, draft) key v (slot, draft')

/-- The members of an object, one after the other, give fields that were not given before. -/
inductive Fills {s : Schema} : Draft s → List (String × Value) → Draft s → Prop
  | nil (draft : Draft s) : Fills draft [] draft
  | cons {draft draft' draft'' : Draft s} {key : String} {v : Value}
    {members : List (String × Value)} (gives : Gives s draft key v draft')
    (fills : Fills draft' members draft'') : Fills draft ((key, v) :: members) draft''

/-- A member that gives a field is read into the draft. -/
theorem Gives.member {s : Schema} {draft draft' : Draft s} {key : String} {v : Value}
    (gives : Gives s draft key v draft') {rest : List Char} (ends : Ends rest) :
    member key s draft (':' :: (v.chars ++ rest)) = .ok (draft', rest) := by
  induction gives with
  | here read =>
    simp (disch := decide) only [Schema.member, if_true, colon, skipSpace_of_not_space, bind,
      Except.bind, read rest ends, pure, Except.pure]
  | later other gives ih =>
    simp only [Schema.member, other, if_false, ih, bind, Except.bind, pure, Except.pure]

theorem ends_memberChars (members : List (String × Value)) (rest : List Char) :
    Ends (memberChars false members ++ rest) := by
  cases members with
  | nil => exact ends_brace rest
  | cons m members =>
    rw [memberChars]
    exact ends_comma _

/-- The members of an object are read into the draft up to the closing brace. -/
theorem Fills.members {s : Schema} {draft draft' : Draft s} {members : List (String × Value)}
    (fills : Fills draft members draft') {fuel : Nat} (enough : members.length < fuel)
    (first : Bool) (rest : List Char) :
    Schema.members s fuel first draft (memberChars first members ++ rest) =
      .ok (draft', '\x7d' :: rest) := by
  induction fills generalizing fuel first with
  | nil draft =>
    obtain ⟨fuel, rfl⟩ : ∃ n, fuel = n + 1 := ⟨fuel - 1, by omega⟩
    simp (disch := decide) [Schema.members, memberChars, nextKey, skipSpace_of_not_space, bind,
      Except.bind, pure, Except.pure]
  | @cons draft draft' draft'' key v members gives fills ih =>
    obtain ⟨fuel, rfl⟩ : ∃ n, fuel = n + 1 := ⟨fuel - 1, by omega⟩
    have later := ih (by simpa using enough) false
    have here := gives.member (ends_memberChars members rest)
    have more : nextKey first (memberChars first ((key, v) :: members) ++ rest) =
        .ok (true, key.toList.flatMap escape ++
          '"' :: ':' :: (v.chars ++ (memberChars false members ++ rest))) := by
      cases first with
      | true => simp (disch := decide) [memberChars, comma, quote, nextKey, skipSpace_of_not_space]
      | false => simp (disch := decide) [memberChars, comma, quote, nextKey, skipSpace_of_not_space]
    simp only [Schema.members, more, bind, Except.bind, if_true, stringBody_quote, here, later]

theorem length_le_memberChars (first : Bool) (members : List (String × Value)) :
    members.length ≤ (memberChars first members).length := by
  induction members generalizing first with
  | nil => exact Nat.zero_le _
  | cons m members ih =>
    obtain ⟨key, v⟩ := m
    have later := ih false
    simp only [memberChars, List.length_append, List.length_cons]
    omega

/-! ### Records -/

/-- The values of a record are written as members in declaration order. A field may be left out that
has its value when it is not given. -/
inductive Written : (s : Schema) → Values s → List (String × Value) → Prop
  | nil : Written [] () []
  | given {f : Field} {s : Schema} {values : Values s} {members : List (String × Value)}
    {v : Value} {a : f.type} (read : Decodes f.read v a) (written : Written s values members) :
    Written (f :: s) (a, values) ((f.name, v) :: members)
  | leftOut {f : Field} {s : Schema} {values : Values s} {members : List (String × Value)}
    {a : f.type} (absent : f.absent = some a) (written : Written s values members) :
    Written (f :: s) (a, values) members

/-- Nothing is written but fields. -/
theorem Written.names {s : Schema} {values : Values s} {members : List (String × Value)}
    (written : Written s values members) {m : String × Value} (there : m ∈ members) :
    m.1 ∈ s.map (·.name) := by
  induction written with
  | nil => exact absurd there List.not_mem_nil
  | given read written ih =>
    rcases List.mem_cons.1 there with rfl | behind
    · exact List.mem_cons_self
    · exact List.mem_cons_of_mem _ (ih behind)
  | leftOut absent written ih => exact List.mem_cons_of_mem _ (ih there)

/-- Members that give fields further down leave the field in front alone. -/
theorem Fills.later {f : Field} {s : Schema} {draft draft' : Draft s}
    {members : List (String × Value)} (fills : Fills draft members draft')
    (others : ∀ m ∈ members, f.name ≠ m.1) (slot : Option f.type) :
    Fills (s := f :: s) (slot, draft) members (slot, draft') := by
  induction fills with
  | nil draft => exact .nil _
  | cons gives fills ih =>
    refine .cons (.later (others _ List.mem_cons_self) gives) (ih ?_)
    exact fun m there => others m (List.mem_cons_of_mem _ there)

/-- What is written fills the draft with all that is needed to complete the record. -/
theorem Written.fills {s : Schema} {values : Values s} {members : List (String × Value)}
    (written : Written s values members) (distinct : (s.map (·.name)).Nodup) :
    ∃ draft, Fills (blank s) members draft ∧ complete s draft = .ok values := by
  induction written with
  | nil => exact ⟨(), .nil _, rfl⟩
  | @given f s values members v a read written ih =>
    obtain ⟨alone, distinct⟩ := List.nodup_cons.1 distinct
    obtain ⟨draft, fills, completes⟩ := ih distinct
    have others (m : String × Value) (there : m ∈ members) : f.name ≠ m.1 := by
      intro same
      exact alone (by simpa only [same] using written.names there)
    refine ⟨(some a, draft), .cons (.here read) (fills.later others _), ?_⟩
    simp [complete, completes]
  | @leftOut f s values members a absent written ih =>
    obtain ⟨alone, distinct⟩ := List.nodup_cons.1 distinct
    obtain ⟨draft, fills, completes⟩ := ih distinct
    have others (m : String × Value) (there : m ∈ members) : f.name ≠ m.1 := by
      intro same
      exact alone (by simpa only [same] using written.names there)
    refine ⟨(none, draft), fills.later others _, ?_⟩
    simp [complete, completes, absent]

/-- **Records.** A record that was written is read as it was. -/
theorem Written.decodes {s : Schema} {values : Values s} {members : List (String × Value)}
    (written : Written s values members) (distinct : (s.map (·.name)).Nodup) (name : String) :
    Decodes (Reader.record name s) (.obj members) values := by
  intro rest _
  obtain ⟨draft, fills, completes⟩ := written.fills distinct
  have enough : members.length < (memberChars true members ++ rest).length + 1 := by
    have := length_le_memberChars true members
    rw [List.length_append]
    omega
  have read := fills.members enough true rest
  simp (disch := decide) only [Value.chars, List.cons_append, Reader.record,
    skipSpace_of_not_space, Reader.enclosed, fromMembers, read, completes, Reader.closeObject]

end Schema

/-! ### Variants -/

namespace Variant

variable {α : Type} {variants : List (Variant α)} {v : Variant α}

/-- The name of a variant is read as the variant. -/
theorem decodes_tag (known : variants.find? (·.name = v.name) = some v) :
    Decodes (tag variants) (.str v.name) v := by
  apply decodes_text
  simp [known]

/-- A variant without content is written as its name. -/
theorem decodes_alone (known : variants.find? (·.name = v.name) = some v) {a : α}
    (bare : v.shape = .bare a) : Decodes (Reader.variant variants) (.str v.name) a := by
  intro rest ends
  have read := decodes_tag known rest ends
  rw [Value.chars, quote_append] at read ⊢
  simp (disch := decide) only [Reader.variant, skipSpace_of_not_space, read, bind, Except.bind,
    alone, bare]

/-- A variant with content is written as an object with its name as the only key. -/
theorem decodes_tagged (known : variants.find? (·.name = v.name) = some v) {a : α} {value : Value}
    (content : Decodes v.content value a) :
    Decodes (Reader.variant variants) (.obj [(v.name, value)]) a := by
  intro rest _
  -- What follows the name is no number, so the name ends there.
  have ends (tail : List Char) : Ends (':' :: tail) := by simp [Ends]
  have read := decodes_tag known _ (ends (value.chars ++ ('\x7d' :: rest)))
  have inside := content _ (ends_brace rest)
  rw [Value.chars, quote_append] at read
  have text : (Value.obj [(v.name, value)]).chars ++ rest =
      '\x7b' :: '"' :: (v.name.toList.flatMap escape ++
        '"' :: ':' :: (value.chars ++ '\x7d' :: rest)) := by
    simp [Value.chars, memberChars, comma, quote]
  simp (disch := decide) only [text, Reader.variant, skipSpace_of_not_space, onlyKey, read, bind,
    Except.bind, colon, inside]

end Variant

/-- What is written of a value is read as the value, from the first character to the last. -/
theorem Decodes.document {α : Type} {read : Reader α} {v : Value} {a : α} (h : Decodes read v a) :
    read.document v.render = .ok a := by
  have all := h [] ends_nil
  rw [List.append_nil] at all
  simp [Reader.document, Value.render, all]

end SchedulerHost.Json
