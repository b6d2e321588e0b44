import SchedulerHost.Json.Text
import SchedulerHost.Proofs.Json.Reading

/-!
# The texts of values

Which texts are values of the language, in whatever way they are spelled: with blanks wherever they
may stand, with numbers in any notation, and with strings that escape what they like.

* `Blanks`, `StringText`, `NumberText`, `ValueText`: the grammar. Lists and objects are spelled by
  their items and members, each with the blanks around it (`Item`, `Member`).
* `Spells`: which text a string stands for; it stands for none if it has half of a surrogate pair
  alone.
* `ValueText.exists_cons`: how a value begins. `ends_blanks`, `ends_itemTexts`: what may follow one.
-/

namespace SchedulerHost.Json

/-! ### Blanks -/

def Blanks (cs : List Char) : Prop := ∀ c ∈ cs, isSpace c = true

theorem blanks_nil : Blanks [] := by
  simp [Blanks]

/-- Blanks are passed over. -/
theorem skipSpace_blanks {b : List Char} (blank : Blanks b) (cs : List Char) :
    skipSpace (b ++ cs) = skipSpace cs := by
  rw [skipSpace, List.dropWhile_append_of_pos blank]
  rfl

/-- No number goes on with a blank. -/
theorem ends_blanks {b cs : List Char} (blank : Blanks b) (ends : Ends cs) : Ends (b ++ cs) := by
  cases b with
  | nil => exact ends
  | cons c b =>
    have space := blank c List.mem_cons_self
    simp only [isSpace, Bool.or_eq_true, decide_eq_true_eq] at space
    rcases space with ((rfl | rfl) | rfl) | rfl <;> simp [Ends]

/-! ### Strings -/

/-- What may stand between the quotes of a string. -/
inductive StringText : List Char → Prop
  | nil : StringText []
  | plain {c : Char} {cs : List Char} (quote : c ≠ '"') (backslash : c ≠ '\\')
    (control : ¬c.toNat < 0x20) (rest : StringText cs) : StringText (c :: cs)
  | letter {c : Char} {cs : List Char} (known : c ∈ ['"', '\\', '/', 'b', 'f', 'n', 'r', 't'])
    (rest : StringText cs) : StringText ('\\' :: c :: cs)
  | number {w x y z : Char} {cs : List Char}
    (digits : ∀ c ∈ [w, x, y, z], (hexValue? c).isSome) (rest : StringText cs) :
    StringText ('\\' :: 'u' :: w :: x :: y :: z :: cs)

/-- What stands between the quotes of a string stands for a text. -/
inductive Spells : List Char → List Char → Prop
  | nil : Spells [] []
  | plain {c : Char} {cs s : List Char} (quote : c ≠ '"') (backslash : c ≠ '\\')
    (control : ¬c.toNat < 0x20) (rest : Spells cs s) : Spells (c :: cs) (c :: s)
  | letter {c stands : Char} {cs s : List Char} (known : simpleEscape? c = some stands)
    (rest : Spells cs s) : Spells ('\\' :: c :: cs) (stands :: s)
  | number {w x y z : Char} {n : Nat} {cs s : List Char} (digits : fourHex? [w, x, y, z] = some n)
    (high : isHighSurrogate n = false) (low : isLowSurrogate n = false) (rest : Spells cs s) :
    Spells ('\\' :: 'u' :: w :: x :: y :: z :: cs) (Char.ofNat n :: s)
  | pair {w x y z w' x' y' z' : Char} {n m : Nat} {cs s : List Char}
    (digits : fourHex? [w, x, y, z] = some n) (high : isHighSurrogate n = true)
    (digits' : fourHex? [w', x', y', z'] = some m) (low : isLowSurrogate m = true)
    (rest : Spells cs s) :
    Spells ('\\' :: 'u' :: w :: x :: y :: z :: '\\' :: 'u' :: w' :: x' :: y' :: z' :: cs)
      (pairedChar n m :: s)

/-! ### Numbers -/

def Digits (cs : List Char) : Prop := cs ≠ [] ∧ ∀ c ∈ cs, c.isDigit = true

/-- The integer part of a number: no zero stands before another digit. -/
inductive WholeText : List Char → Prop
  | zero : WholeText ['0']
  | digits {c : Char} {cs : List Char} (nonzero : c ≠ '0') (all : Digits (c :: cs)) :
    WholeText (c :: cs)

/-- The fraction of a number, or nothing. -/
inductive FractionText : List Char → Prop
  | none : FractionText []
  | digits {cs : List Char} (all : Digits cs) : FractionText ('.' :: cs)

/-- The exponent of a number, or nothing. -/
inductive ExponentText : List Char → Prop
  | none : ExponentText []
  | digits {mark : Char} {sign cs : List Char} (marked : mark = 'e' ∨ mark = 'E')
    (signed : sign = [] ∨ sign = ['+'] ∨ sign = ['-']) (all : Digits cs) :
    ExponentText (mark :: (sign ++ cs))

inductive MagnitudeText : List Char → Prop
  | parts {whole fraction exponent : List Char} (w : WholeText whole) (f : FractionText fraction)
    (e : ExponentText exponent) : MagnitudeText (whole ++ (fraction ++ exponent))

inductive NumberText : List Char → Prop
  | positive {cs : List Char} (magnitude : MagnitudeText cs) : NumberText cs
  | negative {cs : List Char} (magnitude : MagnitudeText cs) : NumberText ('-' :: cs)

/-! ### Lists and objects -/

/-- An item of a list, with the blanks around it. -/
structure Item where
  before : List Char
  value : List Char
  after : List Char

structure Item.Framed (i : Item) : Prop where
  before : Blanks i.before
  after : Blanks i.after

/-- The items that remain inside a bracket, with the bracket that closes it. -/
def itemTexts (closing : Char) : Bool → List Item → List Char
  | _, [] => [closing]
  | first, i :: rest =>
    comma first ++ (i.before ++ (i.value ++ (i.after ++ itemTexts closing false rest)))

/-- A member of an object: what stands between the quotes of its key, its value, and the blanks
around both. -/
structure Member where
  before : List Char
  key : List Char
  afterKey : List Char
  afterColon : List Char
  value : List Char
  after : List Char

namespace Member

structure Framed (m : Member) : Prop where
  before : Blanks m.before
  afterKey : Blanks m.afterKey
  afterColon : Blanks m.afterColon
  after : Blanks m.after

/-- A member as an item of its object. -/
def item (m : Member) : Item where
  before := m.before
  value := '"' :: (m.key ++ '"' :: (m.afterKey ++ ':' :: (m.afterColon ++ m.value)))
  after := m.after

theorem Framed.item {m : Member} (framed : m.Framed) : m.item.Framed :=
  ⟨framed.before, framed.after⟩

end Member

inductive ValueText : List Char → Prop
  | null : ValueText "null".toList
  | yes : ValueText "true".toList
  | no : ValueText "false".toList
  | number {cs : List Char} (number : NumberText cs) : ValueText cs
  | string {cs : List Char} (string : StringText cs) : ValueText ('"' :: (cs ++ ['"']))
  | list {lead : List Char} {items : List Item} (blank : Blanks lead)
    (framed : ∀ i ∈ items, i.Framed) (values : ∀ i ∈ items, ValueText i.value) :
    ValueText ('[' :: (lead ++ itemTexts ']' true items))
  | object {lead : List Char} {members : List Member} (blank : Blanks lead)
    (framed : ∀ m ∈ members, m.Framed) (keys : ∀ m ∈ members, StringText m.key)
    (values : ∀ m ∈ members, ValueText m.value) :
    ValueText ('\x7b' :: (lead ++ itemTexts '\x7d' true (members.map Member.item)))

/-! ### How values begin and what follows them -/

theorem WholeText.exists_cons {cs : List Char} (h : WholeText cs) :
    ∃ c rest, cs = c :: rest ∧ c.isDigit = true := by
  cases h with
  | zero => exact ⟨'0', [], rfl, rfl⟩
  | digits nonzero all => exact ⟨_, _, rfl, all.2 _ List.mem_cons_self⟩

theorem MagnitudeText.exists_cons {cs : List Char} (h : MagnitudeText cs) :
    ∃ c rest, cs = c :: rest ∧ c.isDigit = true := by
  obtain ⟨w, _, _⟩ := h
  obtain ⟨c, rest, rfl, digit⟩ := w.exists_cons
  exact ⟨c, _, rfl, digit⟩

theorem NumberText.exists_cons {cs : List Char} (h : NumberText cs) :
    ∃ c rest, cs = c :: rest ∧ (c = '-' ∨ c.isDigit = true) := by
  cases h with
  | positive magnitude =>
    obtain ⟨c, rest, rfl, digit⟩ := magnitude.exists_cons
    exact ⟨c, rest, rfl, .inr digit⟩
  | negative magnitude => exact ⟨'-', _, rfl, .inl rfl⟩

/-- How a value begins: with a character of its own,
which is no blank and no mark between values. -/
theorem ValueText.exists_cons {v : List Char} (h : ValueText v) :
    ∃ c rest, v = c :: rest ∧ isSpace c = false ∧ c ≠ ']' ∧ c ≠ '\x7d' ∧ c ≠ ',' := by
  cases h with
  | null => exact ⟨'n', _, rfl, by decide⟩
  | yes => exact ⟨'t', _, rfl, by decide⟩
  | no => exact ⟨'f', _, rfl, by decide⟩
  | number number =>
    obtain ⟨c, rest, rfl, first⟩ := number.exists_cons
    refine ⟨c, rest, rfl, ?_, ?_⟩
    · cases space : isSpace c with
      | false => rfl
      | true =>
        obtain ⟨unsigned, digit⟩ := not_isDigit_of_isSpace space
        simp [unsigned, digit] at first
    · refine ⟨?_, ?_, ?_⟩ <;> rintro rfl <;> simp at first
  | string string => exact ⟨'"', _, rfl, by decide⟩
  | list blank framed values => exact ⟨'[', _, rfl, by decide⟩
  | object blank framed keys values => exact ⟨'\x7b', _, rfl, by decide⟩

/-- What follows an item that is in a list or an object. -/
theorem ends_itemTexts {closing : Char} (bracket : closing = ']' ∨ closing = '\x7d')
    (items : List Item) (rest : List Char) : Ends (itemTexts closing false items ++ rest) := by
  cases items with
  | nil =>
    rcases bracket with rfl | rfl
    · exact ends_bracket rest
    · exact ends_brace rest
  | cons i items => exact ends_comma _

end SchedulerHost.Json
