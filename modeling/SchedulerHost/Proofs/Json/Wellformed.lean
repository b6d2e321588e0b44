import SchedulerHost.Proofs.Json.Entries

/-!
# What is written is well formed

The compact text of a value is one of the texts of values, so whatever holds of all of them holds of
what is written.

* `Spells.flatMap_escape`: what is written of a text stands for it. `numberText_decimal`: integers.
* **Values** (`Value.valueText`): by induction on the value.
* `ObjectText.ofMembers`: an object that is written, as an object whose keys are texts.
-/

namespace SchedulerHost.Json

open Numeric (decimal digits isDigit_of_mem_digits)

/-! ### Scalars -/

/-- What is written of a character stands for it. -/
theorem Spells.escape_append (c : Char) {cs s : List Char} (rest : Spells cs s) :
    Spells (escape c ++ cs) (c :: s) := by
  rcases escape_cases c with ⟨letter, written, stands⟩ | ⟨control, written⟩ |
    ⟨written, quote, backslash, plain⟩
  · rw [written]
    exact .letter stands rest
  · obtain ⟨digits, high, low⟩ := fourHex?_control control []
    have spelled := rest.number digits high low
    rw [Char.ofNat_toNat] at spelled
    rw [written]
    exact spelled
  · rw [written]
    exact .plain quote backslash plain rest

/-- What is written of a text stands for it. -/
theorem Spells.flatMap_escape (s : List Char) : Spells (s.flatMap escape) s := by
  induction s with
  | nil => exact .nil
  | cons c s ih =>
    rw [List.flatMap_cons]
    exact ih.escape_append c

theorem wholeText_digits (n : Nat) : WholeText (digits n) := by
  rcases Nat.eq_zero_or_pos n with rfl | positive
  · exact .zero
  · have nonzero := head?_digits positive
    have all : ∀ c ∈ digits n, c.isDigit = true := fun c => isDigit_of_mem_digits
    cases written : digits n with
    | nil => exact absurd written Nat.toDigits_ne_nil
    | cons c cs =>
      rw [written] at nonzero all
      exact .digits (by simpa using nonzero) ⟨List.cons_ne_nil c cs, all⟩

theorem magnitudeText_digits (n : Nat) : MagnitudeText (digits n) := by
  have parts := MagnitudeText.parts (wholeText_digits n) .none .none
  rwa [List.append_nil, List.append_nil] at parts

/-- An integer is written as a number. -/
theorem numberText_decimal (n : Int) : NumberText (decimal n) := by
  cases n with
  | ofNat n => exact .positive (magnitudeText_digits n)
  | negSucc n => exact .negative (magnitudeText_digits (n + 1))

/-! ### Values -/

def Item.compact (v : Value) : Item := ⟨[], v.chars, []⟩

def Member.compact (m : String × Value) : Member :=
  ⟨[], m.1.toList.flatMap escape, [], [], m.2.chars, []⟩

theorem Item.framed_compact (v : Value) : (Item.compact v).Framed :=
  ⟨blanks_nil, blanks_nil⟩

theorem Member.framed_compact (m : String × Value) : (Member.compact m).Framed :=
  ⟨blanks_nil, blanks_nil, blanks_nil, blanks_nil⟩

/-- What is written of a list is a list without blanks. -/
theorem itemChars_eq (first : Bool) (vs : List Value) :
    itemChars first vs = itemTexts ']' first (vs.map Item.compact) := by
  induction vs generalizing first with
  | nil => rfl
  | cons v vs ih => simp [itemChars, itemTexts, Item.compact, ih]

theorem memberChars_eq (first : Bool) (ms : List (String × Value)) :
    memberChars first ms =
      itemTexts '\x7d' first ((ms.map Member.compact).map Member.item) := by
  induction ms generalizing first with
  | nil => rfl
  | cons m ms ih => simp [memberChars, itemTexts, Member.compact, Member.item, quote, ih]

mutual

/-- **Values.** What is written of a value is the text of a value. -/
theorem Value.valueText (v : Value) : ValueText v.chars := by
  cases v with
  | null => exact .null
  | bool b =>
    cases b with
    | true => exact .yes
    | false => exact .no
  | int n => exact .number (numberText_decimal n)
  | str s => exact .string (Spells.flatMap_escape s.toList).stringText
  | arr items =>
    rw [Value.chars, itemChars_eq]
    refine .list blanks_nil ?_ ?_
    · exact List.forall_mem_map.2 fun v _ => Item.framed_compact v
    · exact List.forall_mem_map.2 (valueText_items items)
  | obj members =>
    rw [Value.chars, memberChars_eq]
    refine .object blanks_nil ?_ ?_ ?_
    · exact List.forall_mem_map.2 fun m _ => Member.framed_compact m
    · exact List.forall_mem_map.2 fun m _ => (Spells.flatMap_escape m.1.toList).stringText
    · exact List.forall_mem_map.2 (valueText_members members)

theorem valueText_items (vs : List Value) : ∀ v ∈ vs, ValueText v.chars := by
  cases vs with
  | nil => exact List.forall_mem_nil _
  | cons v vs => exact List.forall_mem_cons.2 ⟨v.valueText, valueText_items vs⟩

theorem valueText_members (ms : List (String × Value)) : ∀ m ∈ ms, ValueText m.2.chars := by
  cases ms with
  | nil => exact List.forall_mem_nil _
  | cons m ms =>
    obtain ⟨k, v⟩ := m
    exact List.forall_mem_cons.2 ⟨v.valueText, valueText_members ms⟩

end

/-! ### Objects -/

def Entry.ofMember (m : String × Value) : Entry where
  member := Member.compact m
  name := m.1
  framed := Member.framed_compact m
  spells := Spells.flatMap_escape m.1.toList
  value := m.2.valueText

namespace ObjectText

def ofMembers (ms : List (String × Value)) : ObjectText where
  before := []
  lead := []
  entries := ms.map Entry.ofMember
  after := []
  blank_before := blanks_nil
  blank_lead := blanks_nil
  blank_after := blanks_nil

/-- What is written of an object is one of its texts. -/
theorem text_ofMembers (ms : List (String × Value)) :
    (ofMembers ms).text = (Value.obj ms).render := by
  have members : (ofMembers ms).members = ms.map Member.compact := by
    simp [members, ofMembers, Entry.ofMember, Function.comp_def]
  rw [text, object, members, ← memberChars_eq, Value.render, Value.chars]
  simp [ofMembers]

theorem pairs_ofMembers (ms : List (String × Value)) :
    (ofMembers ms).pairs = ms.map fun m => (m.1, m.2.chars) := by
  simp [pairs, ofMembers, Entry.ofMember, Entry.pair, Member.compact, Function.comp_def]

end ObjectText

end SchedulerHost.Json
