import SchedulerHost.Proofs.Json.Gathering

/-!
# Objects whose keys are texts

An object whose keys all stand for a text says of each field of a record whether it is given, and by
which value. Which record is read of it depends on nothing else: not on the order of its members,
not on members that are no field, and not on how it is spelled.

* `Entry`: a member with the text its key stands for. `ObjectText`: the text of an object of them.
* `Field.given`: what an object says of a field, by the values it has for it. `fillOne_eq`: reading
  the members one after the other comes to the same.
* **Objects** (`ObjectText.toOption_record`): a record is read of an object if every field is given
  a value, or has one when it is not given.
-/

namespace SchedulerHost.Json

/-! ### Objects -/

/-- A member of an object whose key stands for a text. -/
structure Entry where
  member : Member
  name : String
  framed : member.Framed
  spells : Spells member.key name.toList
  value : ValueText member.value

/-- The text of an object whose keys all stand for a text, with the blanks around it. -/
structure ObjectText where
  before : List Char
  lead : List Char
  entries : List Entry
  after : List Char
  blank_before : Blanks before
  blank_lead : Blanks lead
  blank_after : Blanks after

theorem isSome_hexValue? {w x y z : Char} {n : Nat} (digits : fourHex? [w, x, y, z] = some n) :
    ∀ c ∈ [w, x, y, z], (hexValue? c).isSome := by
  cases first : hexValue? w <;> cases second : hexValue? x <;> cases third : hexValue? y <;>
    cases fourth : hexValue? z <;> simp_all [fourHex?]

/-- There are eight escapes of one letter. -/
theorem mem_of_simpleEscape? {c stands : Char} (known : simpleEscape? c = some stands) :
    c ∈ ['"', '\\', '/', 'b', 'f', 'n', 'r', 't'] := by
  refine Decidable.byContradiction fun absent => ?_
  simp only [List.mem_cons, List.not_mem_nil, or_false, not_or] at absent
  simp [simpleEscape?, absent] at known

/-- What stands for a text is a string. -/
theorem Spells.stringText {cs s : List Char} (h : Spells cs s) : StringText cs := by
  induction h with
  | nil => exact .nil
  | plain quote backslash control _ ih => exact .plain quote backslash control ih
  | letter known _ ih => exact .letter (mem_of_simpleEscape? known) ih
  | number digits _ _ _ ih => exact .number (isSome_hexValue? digits) ih
  | pair digits _ digits' _ _ ih =>
    exact .number (isSome_hexValue? digits) (.number (isSome_hexValue? digits') ih)

/-- What a member says: the text its key stands for, and its value as it is spelled. -/
def Entry.pair (e : Entry) : String × List Char := (e.name, e.member.value)

theorem Entry.name?_member (e : Entry) : e.member.name? = some e.name := by
  rw [Member.name?, e.spells.stringBody]
  rfl

namespace ObjectText

variable (o : ObjectText)

def pairs : List (String × List Char) := o.entries.map Entry.pair

def members : List Member := o.entries.map Entry.member

theorem framed : ∀ m ∈ o.members, m.Framed :=
  List.forall_mem_map.2 fun e _ => Entry.framed e

theorem keys : ∀ m ∈ o.members, StringText m.key :=
  List.forall_mem_map.2 fun e _ => (Entry.spells e).stringText

theorem values : ∀ m ∈ o.members, ValueText m.value :=
  List.forall_mem_map.2 fun e _ => Entry.value e

def object : List Char :=
  '\x7b' :: (o.lead ++ itemTexts '\x7d' true (o.members.map Member.item))

def text : String := String.ofList (o.before ++ (o.object ++ o.after))

theorem valueText : ValueText o.object :=
  .object o.blank_lead o.framed o.keys o.values

theorem valueText_of_mem {name : String} {v : List Char} (there : (name, v) ∈ o.pairs) :
    ValueText v := by
  obtain ⟨e, -, same⟩ := List.mem_map.1 there
  cases same
  exact e.value

end ObjectText

/-! ### Fields -/

/-- What the values that an object has for a field come to: one value is decoded, none leaves the
field as it is when it is not given, and more than one are refused. -/
def Field.ofValues (f : Field) : List (List Char) → Option f.type
  | [] => f.absent
  | [v] => decoded f.read v
  | _ => none

def valuesOf (name : String) (pairs : List (String × List Char)) : List (List Char) :=
  (pairs.filter (·.1 = name)).map (·.2)

theorem valuesOf_cons_self (name : String) (v : List Char) (pairs : List (String × List Char)) :
    valuesOf name ((name, v) :: pairs) = v :: valuesOf name pairs := by
  simp [valuesOf]

theorem valuesOf_cons_of_ne {name other : String} (h : name ≠ other) (v : List Char)
    (pairs : List (String × List Char)) :
    valuesOf name ((other, v) :: pairs) = valuesOf name pairs := by
  simp [valuesOf, Ne.symm h]

theorem mem_valuesOf {name : String} {v : List Char} {pairs : List (String × List Char)} :
    v ∈ valuesOf name pairs ↔ (name, v) ∈ pairs := by
  simp [valuesOf]

theorem perm_valuesOf {pairs others : List (String × List Char)} (perm : pairs.Perm others)
    (name : String) : (valuesOf name pairs).Perm (valuesOf name others) :=
  (perm.filter _).map _

/-- It does not matter in which order the values of a field come: only one is decoded. -/
theorem Field.ofValues_perm (f : Field) {vs ws : List (List Char)} (perm : vs.Perm ws) :
    f.ofValues vs = f.ofValues ws := by
  match vs, ws, perm.length_eq with
  | [], [], _ => rfl
  | [v], [w], _ => rw [List.singleton_perm_singleton.1 perm]
  | _ :: _ :: _, _ :: _ :: _, _ => rfl

def Field.given (f : Field) (pairs : List (String × List Char)) : Option f.type :=
  f.ofValues (valuesOf f.name pairs)

namespace Schema

def gather : (s : Schema) → List (String × List Char) → Option (Values s)
  | [], _ => some ()
  | f :: s, pairs => (f.given pairs).bind fun a => (gather s pairs).map (.cons a)

theorem gather_cons_eq_some {f : Field} {s : Schema} {pairs : List (String × List Char)}
    {a : f.type} {values : Values s} :
    gather (f :: s) pairs = some (.cons a values) ↔
      f.given pairs = some a ∧ gather s pairs = some values := by
  rw [gather]
  cases f.given pairs with
  | none => simp
  | some b =>
    cases gather s pairs with
    | none => simp
    | some others =>
      constructor
      · intro same
        cases same
        exact ⟨rfl, rfl⟩
      · rintro ⟨same, same'⟩
        cases same
        cases same'
        rfl

/-- What becomes of one field when entries are read one after the other. -/
def fillOne (f : Field) : Option f.type → List Entry → Option (Option f.type)
  | slot, [] => some slot
  | slot, e :: es =>
    if f.name = e.name then
      match slot with
      | some _ => none
      | none => (decoded f.read e.member.value).bind fun a => fillOne f (some a) es
    else fillOne f slot es

/-- A field that has a value must not come again. -/
theorem fillOne_some (f : Field) (a : f.type) (es : List Entry) :
    fillOne f (some a) es =
      if valuesOf f.name (es.map Entry.pair) = [] then some (some a) else none := by
  induction es with
  | nil => rfl
  | cons e es ih =>
    rw [List.map_cons, Entry.pair, fillOne]
    by_cases own : f.name = e.name
    · rw [if_pos own, own, valuesOf_cons_self]
      rfl
    · rw [if_neg own, valuesOf_cons_of_ne own, ih]

/-- Read one after the other, the entries of an object say of a field what they say together. -/
theorem fillOne_eq (f : Field) (es : List Entry) :
    (fillOne f none es).bind (·.or f.absent) = f.given (es.map Entry.pair) := by
  induction es with
  | nil => rfl
  | cons e es ih =>
    rw [Field.given] at ih ⊢
    rw [List.map_cons, Entry.pair, fillOne]
    by_cases own : f.name = e.name
    · rw [if_pos own]
      simp only [fillOne_some]
      rw [← own, valuesOf_cons_self]
      cases value : decoded f.read e.member.value with
      | none => cases valuesOf f.name (es.map Entry.pair) <;> simp [Field.ofValues, value]
      | some a => cases valuesOf f.name (es.map Entry.pair) <;> simp [Field.ofValues, value]
    · rw [if_neg own, valuesOf_cons_of_ne own, ih]

/-- A field of another name is left as it is. -/
theorem give_of_not_mem {s : Schema} {name : String} (other : name ∉ s.map (·.name)) (v : List Char)
    (draft : Draft s) : give name v s draft = some draft := by
  induction s with
  | nil => rfl
  | cons f s ih =>
    obtain ⟨slot, draft⟩ := draft
    simp only [List.map_cons, List.mem_cons, not_or] at other
    simp only [give, Ne.symm other.1, if_false, ih other.2]
    rfl

/-- What becomes of a record is what becomes of its fields. -/
theorem fill_cons {f : Field} {s : Schema} (alone : f.name ∉ s.map (·.name)) (slot : Option f.type)
    (draft : Draft s) (es : List Entry) :
    fill (f :: s) (slot, draft) (es.map Entry.member) =
      (fillOne f slot es).bind fun slot =>
        (fill s draft (es.map Entry.member)).map fun draft => ((slot, draft) : Draft (f :: s)) := by
  induction es generalizing slot draft with
  | nil => rfl
  | cons e es ih =>
    simp only [List.map_cons, fill, e.name?_member, Option.bind_some, fillOne]
    by_cases own : f.name = e.name
    · have same := give_of_not_mem (own ▸ alone) e.member.value draft
      simp only [give, own, if_true, same, Option.bind_some]
      cases slot with
      | some a => rfl
      | none =>
        cases decoded f.read e.member.value with
        | none => rfl
        | some a => exact ih (some a) draft
    · simp only [give, own, if_false]
      cases give e.name e.member.value s draft with
      | none => cases fillOne f slot es <;> rfl
      | some draft => exact ih slot draft

theorem fill_nil (draft : Draft []) (es : List Entry) :
    fill [] draft (es.map Entry.member) = some () := by
  induction es generalizing draft with
  | nil => rfl
  | cons e es ih =>
    rw [List.map_cons, fill, e.name?_member]
    exact ih ()

/-- A draft makes a record when every field is given or has a value without being given. -/
theorem toOption_complete {f : Field} {s : Schema} (slot : Option f.type) (draft : Draft s) :
    (complete (f :: s) (slot, draft)).toOption =
      (slot.or f.absent).bind fun a => (complete s draft).toOption.map (.cons a) := by
  rw [complete]
  cases slot.or f.absent with
  | none => rfl
  | some a => cases complete s draft <;> rfl

/-- What is made of the members of an object is what its entries say. -/
theorem ofMembers_eq {s : Schema} (distinct : (s.map (·.name)).Nodup) (es : List Entry) :
    ofMembers s (es.map Entry.member) = gather s (es.map Entry.pair) := by
  induction s with
  | nil =>
    rw [ofMembers, fill_nil]
    rfl
  | cons f s ih =>
    obtain ⟨alone, distinct⟩ := List.nodup_cons.1 distinct
    rw [gather, ← ih distinct, ← fillOne_eq, ofMembers, ofMembers, blank, fill_cons alone]
    cases fillOne f none es with
    | none => rfl
    | some slot =>
      cases fill s (blank s) (es.map Entry.member) with
      | none =>
        simp only [Option.bind_some]
        cases slot.or f.absent <;> rfl
      | some draft => exact toOption_complete slot draft

end Schema

/-- **Objects.** A record is read of an object if each of its fields is given a value, or is not
given and has a value for that case. -/
theorem ObjectText.toOption_record {s : Schema} (o : ObjectText)
    (steady : ∀ f ∈ s, Steady f.read) (distinct : (s.map (·.name)).Nodup) (name : String) :
    ((Reader.record name s).document o.text).toOption = s.gather o.pairs := by
  have record := Schema.steady_record steady name
  have read := Schema.toOption_object steady o.framed o.keys o.values o.blank_lead name []
  have alone : Reader.record name s (o.object ++ []) = Reader.record name s o.object := by simp
  rw [text, record.toOption_document o.blank_before o.valueText o.blank_after, decoded, ← alone,
    object, read, members, Schema.ofMembers_eq distinct, pairs]
  cases s.gather (o.entries.map Entry.pair) <;> rfl

end SchedulerHost.Json
