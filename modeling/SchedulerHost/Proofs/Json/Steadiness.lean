import SchedulerHost.Proofs.Json.Definite

/-!
# Readers that do not look ahead

What a reader makes of a value is settled by the value alone: by no blank before it and by nothing
that follows it. So a value inside a list or an object is read as it would be read for itself, and
if it is refused there, it is refused wherever it stands.

* `ValueText.cases_head`: what a value is, by its first character.
* `Steady`: a reader that is definite at every value, and passes over blanks before it. What it
  makes of a value is `decoded`, inside a text (`Steady.toOption_append`) and for itself
  (`Steady.toOption_document`).
* **Steady readers**: texts, Booleans, integers, optional values and lists (`Steady.list`).
-/

namespace SchedulerHost.Json

variable {α β : Type} {read : Reader α}

/-! ### Values by their first character -/

theorem NumberText.starts {c : Char} {cs : List Char} (h : NumberText (c :: cs)) :
    startsNumber c = true := by
  obtain ⟨_, _, same, first⟩ := h.exists_cons
  cases same
  simpa [startsNumber] using first

namespace ValueText

variable {c : Char} {cs : List Char}

/-- What a value is: a word, a string, a number, a list or an object, as it begins. -/
theorem cases_head (h : ValueText (c :: cs)) :
    (c = 'n' ∧ cs = "ull".toList) ∨ (c = 't' ∧ cs = "rue".toList) ∨
      (c = 'f' ∧ cs = "alse".toList) ∨
      (c = '"' ∧ ∃ body, StringText body ∧ cs = body ++ ['"']) ∨
      (startsNumber c = true ∧ NumberText (c :: cs)) ∨
      (c = '[' ∧ ∃ (lead : List Char) (items : List Item), Blanks lead ∧ (∀ i ∈ items, i.Framed) ∧
        (∀ i ∈ items, ValueText i.value) ∧ cs = lead ++ itemTexts ']' true items) ∨
      (c = '\x7b' ∧ ∃ (lead : List Char) (members : List Member), Blanks lead ∧
        (∀ m ∈ members, m.Framed) ∧ (∀ m ∈ members, StringText m.key) ∧
        (∀ m ∈ members, ValueText m.value) ∧
        cs = lead ++ itemTexts '\x7d' true (members.map Member.item)) := by
  generalize text : c :: cs = v at h
  cases h with
  | null => exact .inl (List.cons.inj text)
  | yes => exact .inr (.inl (List.cons.inj text))
  | no => exact .inr (.inr (.inl (List.cons.inj text)))
  | string string =>
    obtain ⟨first, rest⟩ := List.cons.inj text
    exact .inr (.inr (.inr (.inl ⟨first, _, string, rest⟩)))
  | number number =>
    subst text
    exact .inr (.inr (.inr (.inr (.inl ⟨number.starts, number⟩))))
  | list blank framed values =>
    obtain ⟨first, rest⟩ := List.cons.inj text
    exact .inr (.inr (.inr (.inr (.inr (.inl ⟨first, _, _, blank, framed, values, rest⟩)))))
  | object blank framed keys values =>
    obtain ⟨first, rest⟩ := List.cons.inj text
    exact .inr (.inr (.inr (.inr (.inr (.inr ⟨first, _, _, blank, framed, keys, values, rest⟩)))))

theorem of_null (h : ValueText ('n' :: cs)) : cs = "ull".toList := by
  simpa [startsNumber] using h.cases_head

theorem of_true (h : ValueText ('t' :: cs)) : cs = "rue".toList := by
  simpa [startsNumber] using h.cases_head

theorem of_false (h : ValueText ('f' :: cs)) : cs = "alse".toList := by
  simpa [startsNumber] using h.cases_head

theorem of_quote (h : ValueText ('"' :: cs)) : ∃ body, StringText body ∧ cs = body ++ ['"'] := by
  simpa [startsNumber] using h.cases_head

theorem of_starts (h : ValueText (c :: cs)) (starts : startsNumber c = true) :
    NumberText (c :: cs) := by
  rcases h.cases_head with ⟨rfl, -⟩ | ⟨rfl, -⟩ | ⟨rfl, -⟩ | ⟨rfl, -⟩ | ⟨-, number⟩ | ⟨rfl, -⟩ |
    ⟨rfl, -⟩
  case inr.inr.inr.inr.inl => exact number
  all_goals exact absurd starts (by decide)

theorem of_bracket (h : ValueText ('[' :: cs)) :
    ∃ (lead : List Char) (items : List Item), Blanks lead ∧ (∀ i ∈ items, i.Framed) ∧
      (∀ i ∈ items, ValueText i.value) ∧ cs = lead ++ itemTexts ']' true items := by
  simpa [startsNumber] using h.cases_head

theorem of_brace (h : ValueText ('\x7b' :: cs)) :
    ∃ (lead : List Char) (members : List Member), Blanks lead ∧ (∀ m ∈ members, m.Framed) ∧
      (∀ m ∈ members, StringText m.key) ∧ (∀ m ∈ members, ValueText m.value) ∧
      cs = lead ++ itemTexts '\x7d' true (members.map Member.item) := by
  simpa [startsNumber] using h.cases_head

end ValueText

/-! ### Steady readers -/

/-- A reader makes the same of a value wherever it stands. -/
structure Steady (read : Reader α) : Prop where
  blanks : ∀ b cs, Blanks b → read (b ++ cs) = read cs
  value : ∀ v, ValueText v → Definite fun rest => read (v ++ rest)

/-- What a reader makes of a value that stands for itself. -/
def decoded (read : Reader α) (v : List Char) : Option α := (read v).toOption.map (·.1)

/-- A value is read as it would be for itself. -/
theorem Steady.toOption_append (steady : Steady read) {v rest : List Char} (h : ValueText v)
    (ends : Ends rest) : (read (v ++ rest)).toOption = (decoded read v).map (·, rest) := by
  obtain ⟨o, reads⟩ := steady.value v h
  have alone : (read v).toOption = o.map (·, []) := by simpa using reads [] ends_nil
  rw [reads rest ends, decoded, alone]
  cases o <;> rfl

/-- A text that is a value among blanks is read as the value. -/
theorem Steady.toOption_document (steady : Steady read) {b v b' : List Char} (blank : Blanks b)
    (h : ValueText v) (blank' : Blanks b') :
    (read.document (String.ofList (b ++ (v ++ b')))).toOption = decoded read v := by
  have ends : Ends b' := by simpa using ends_blanks blank' ends_nil
  have taken := steady.toOption_append h ends
  have ended : skipSpace b' = [] := by simpa using skipSpace_blanks blank' []
  unfold Reader.document
  rw [String.toList_ofList, steady.blanks b _ blank]
  cases value : decoded read v with
  | none =>
    rw [value] at taken
    obtain ⟨fault, failed⟩ := toOption_eq_none_iff.1 taken
    simp [failed, Except.toOption]
  | some a =>
    rw [value] at taken
    simp [toOption_eq_some_iff.1 taken, ended, Except.toOption]

theorem toOption_document_map (read : Reader α) (f : α → β) (text : String) :
    ((read.map f).document text).toOption = (read.document text).toOption.map f := by
  unfold Reader.document Reader.map
  cases read text.toList with
  | error fault => rfl
  | ok p =>
    obtain ⟨a, rest⟩ := p
    cases ended : skipSpace rest <;> simp [ended, Except.toOption]

theorem Steady.map (steady : Steady read) (f : α → β) : Steady (read.map f) where
  blanks b cs blank := by simp only [Reader.map, steady.blanks b cs blank]
  value v h := (steady.value v h).map f fun rest _ => by
    rw [Reader.map]
    cases read (v ++ rest) <;> rfl

/-- A value that is a word is read from its second letter on. -/
theorem Definite.word (a : α) {c : Char} {letters : List Char}
    (h : ∀ cs, read (c :: cs) = do return (a, ← word letters cs)) :
    Definite fun rest => read (c :: letters ++ rest) :=
  .ok a fun rest _ => by
    rw [List.cons_append, h, word_append]
    rfl

section Scalars

variable (expected : String) (decode : String → Except Cause α)

theorem definite_text {body : List Char} (s : StringText body) :
    Definite fun rest => Reader.text expected decode ('"' :: (body ++ '"' :: rest)) := by
  rcases (definite_stringBody s).cases with ⟨s, reads⟩ | refused
  · cases made : decode s with
    | error cause =>
      refine .error fun rest ends => ?_
      simp (disch := decide) [Reader.text, skipSpace_of_not_space, reads rest ends, made,
        Except.toOption]
    | ok a =>
      refine .ok a fun rest ends => ?_
      simp (disch := decide) only [Reader.text, skipSpace_of_not_space, reads rest ends, made]
  · refine .error fun rest ends => ?_
    obtain ⟨fault, failed⟩ := refused rest ends
    simp (disch := decide) [Reader.text, skipSpace_of_not_space, failed, Except.toOption]

theorem steady_text : Steady (Reader.text expected decode) where
  blanks b cs blank := by simp only [Reader.text, skipSpace_blanks blank]
  value v h := by
    obtain ⟨c, cs, rfl, plain, -⟩ := h.exists_cons
    by_cases quote : c = '"'
    · subst quote
      obtain ⟨body, string, rfl⟩ := h.of_quote
      refine (definite_text expected decode string).congr fun rest _ => ?_
      simp
    · refine .error fun rest _ => ?_
      simp only [Reader.text, List.cons_append, skipSpace_of_not_space plain]
      split <;> simp_all [Except.toOption]

theorem steady_string : Steady Reader.string := steady_text _ _

theorem steady_bool : Steady Reader.bool where
  blanks b cs blank := by simp only [Reader.bool, skipSpace_blanks blank]
  value v h := by
    obtain ⟨c, cs, rfl, plain, -⟩ := h.exists_cons
    by_cases yes : c = 't'
    · subst yes
      rw [h.of_true]
      exact .word true fun _ => rfl
    by_cases no : c = 'f'
    · subst no
      rw [h.of_false]
      exact .word false fun _ => rfl
    refine .error fun rest _ => ?_
    simp only [Reader.bool, List.cons_append, skipSpace_of_not_space plain]
    split <;> simp_all [Except.toOption]

theorem steady_integer (range : Numeric.IntRange) : Steady (Reader.integer range expected) where
  blanks b cs blank := by simp only [Reader.integer, skipSpace_blanks blank]
  value v h := by
    obtain ⟨c, cs, rfl, plain, -⟩ := h.exists_cons
    cases starts : startsNumber c with
    | true =>
      have number := definite_number (h.of_starts starts)
      simp only [List.cons_append] at number
      rcases number.cases with ⟨n, reads⟩ | refused
      · cases n with
        | fraction negative x =>
          refine .error fun rest ends => ?_
          simp [Reader.integer, skipSpace_of_not_space plain, starts, reads rest ends,
            Except.toOption]
        | integer n =>
          by_cases holds : range.holds n = true
          · refine .ok n fun rest ends => ?_
            simp [Reader.integer, skipSpace_of_not_space plain, starts, reads rest ends, holds]
          · refine .error fun rest ends => ?_
            simp [Reader.integer, skipSpace_of_not_space plain, starts, reads rest ends, holds,
              Except.toOption]
      · refine .error fun rest ends => ?_
        obtain ⟨fault, failed⟩ := refused rest ends
        simp [Reader.integer, skipSpace_of_not_space plain, starts, failed, Except.toOption]
    | false =>
      refine .error fun rest _ => ?_
      simp [Reader.integer, skipSpace_of_not_space plain, starts, Except.toOption]

theorem steady_uint32 : Steady Reader.uint32 := (steady_integer _ _).map _

theorem steady_uint64 : Steady Reader.uint64 := (steady_integer _ _).map _

theorem steady_int64 : Steady Reader.int64 := (steady_integer _ _).map _

theorem Steady.optional (steady : Steady read) : Steady read.optional where
  blanks b cs blank := by simp only [Reader.optional, skipSpace_blanks blank]
  value v h := by
    obtain ⟨c, cs, rfl, plain, -⟩ := h.exists_cons
    by_cases null : c = 'n'
    · subst null
      rw [h.of_null]
      exact .word none fun _ => rfl
    refine ((steady.map some).value _ h).congr fun rest _ => ?_
    simp only [Reader.optional, List.cons_append, skipSpace_of_not_space plain]
    split <;> simp_all

end Scalars

/-! ### Lists -/

/-- What is enclosed is read when the inside is and when it can be closed. -/
theorem toOption_enclosed {inside : Reader α} {close : List Char → Except Fault Unit × List Char}
    (cs : List Char) :
    (Reader.enclosed inside close cs).toOption = (inside cs).toOption.bind fun p =>
      (close p.2).1.toOption.map fun _ => (p.1, (close p.2).2) := by
  unfold Reader.enclosed
  split
  · next a rest taken =>
    rw [taken]
    show _ = (close rest).1.toOption.map fun _ => (a, (close rest).2)
    split
    · next closed => rw [closed]; rfl
    · next closed => rw [closed]; rfl
  · next failed => rw [failed]; rfl
  · next failed => rw [failed]; rfl

/-- What is made of what is enclosed may be made inside. -/
theorem toOption_enclosed_bind {inside : Reader α} {other : Reader β}
    {close : List Char → Except Fault Unit × List Char} {cs cs' : List Char} {f : α → β}
    (h : other cs' = (inside cs).bind fun p => .ok (f p.1, p.2)) :
    (Reader.enclosed other close cs').toOption =
      (Reader.enclosed inside close cs).toOption.map fun p => (f p.1, p.2) := by
  rw [toOption_enclosed, toOption_enclosed, h, toOption_bind]
  cases inside cs with
  | error fault => rfl
  | ok p =>
    show ((close p.2).1.toOption.map fun _ => (f p.1, (close p.2).2)) =
      ((close p.2).1.toOption.map fun _ => (p.1, (close p.2).2)).map fun p => (f p.1, p.2)
    cases (close p.2).1 <;> rfl

section Items

variable {b rest : List Char} {i : Item} {items : List Item}

/-- No item remains. -/
theorem nextItem_end (blank : Blanks b) (first : Bool) (rest : List Char) :
    Reader.nextItem first (b ++ ']' :: rest) = .ok (false, ']' :: rest) := by
  simp (disch := decide) only [Reader.nextItem, skipSpace_blanks blank, skipSpace_of_not_space,
    if_true]

/-- An item remains: what is left begins with its value. -/
theorem nextItem_cons (blank : Blanks b) (framed : i.Framed) (value : ValueText i.value)
    (items : List Item) (first : Bool) (rest : List Char) :
    Reader.nextItem first (b ++ (itemTexts ']' first (i :: items) ++ rest)) =
      .ok (true, i.value ++ (i.after ++ (itemTexts ']' false items ++ rest))) := by
  obtain ⟨c, cs, written, plain, inside, -⟩ := value.exists_cons
  have start (tail : List Char) : skipSpace (c :: tail) = c :: tail := skipSpace_of_not_space plain
  have separator (tail : List Char) : skipSpace (',' :: tail) = ',' :: tail :=
    skipSpace_of_not_space (by decide)
  cases first with
  | true =>
    simp [itemTexts, comma, Reader.nextItem, skipSpace_blanks blank, skipSpace_blanks framed.before,
      written, start, inside]
  | false =>
    simp [itemTexts, comma, Reader.nextItem, skipSpace_blanks blank, separator,
      skipSpace_blanks framed.before, written, start, inside]

/-- A list is closed after its last item. -/
theorem closeList_end (blank : Blanks b) (rest : List Char) :
    Reader.closeList (b ++ ']' :: rest) = (.ok (), rest) := by
  simp (disch := decide) only [Reader.closeList, skipSpace_blanks blank, skipSpace_of_not_space]

/-- A list is not closed before its last item. -/
theorem closeList_cons (blank : Blanks b) (framed : i.Framed) (value : ValueText i.value)
    (items : List Item) (first : Bool) (rest : List Char) :
    (Reader.closeList (b ++ (itemTexts ']' first (i :: items) ++ rest))).1.toOption = none := by
  obtain ⟨c, cs, written, plain, inside, -, other⟩ := value.exists_cons
  have start (tail : List Char) : skipSpace (c :: tail) = c :: tail := skipSpace_of_not_space plain
  have separator (tail : List Char) : skipSpace (',' :: tail) = ',' :: tail :=
    skipSpace_of_not_space (by decide)
  cases first with
  | true =>
    simp [itemTexts, comma, Reader.closeList, skipSpace_blanks blank,
      skipSpace_blanks framed.before, written, start, inside, other, Except.toOption]
  | false =>
    simp [itemTexts, comma, Reader.closeList, skipSpace_blanks blank, separator,
      skipSpace_blanks framed.before, written, start, inside, Except.toOption]

/-- The items of a list are read up to its end, or one of them is refused. -/
theorem Steady.exists_items (steady : Steady read) (framed : ∀ i ∈ items, i.Framed)
    (values : ∀ i ∈ items, ValueText i.value) :
    ∃ o : Option (List α), ∀ fuel first b rest, items.length < fuel → Blanks b →
      (Reader.items read fuel first (b ++ (itemTexts ']' first items ++ rest))).toOption =
        o.map (·, ']' :: rest) := by
  induction items with
  | nil =>
    refine ⟨some [], fun fuel first b rest enough blank => ?_⟩
    obtain ⟨fuel, rfl⟩ := Nat.exists_eq_add_of_lt enough
    have ended := nextItem_end blank first rest
    simp only [itemTexts, List.cons_append, List.nil_append, Reader.items, ended]
    rfl
  | cons i items ih =>
    obtain ⟨later, reads⟩ := ih (fun j there => framed j (List.mem_cons_of_mem _ there))
      fun j there => values j (List.mem_cons_of_mem _ there)
    have here := framed i List.mem_cons_self
    obtain ⟨value, taken⟩ := steady.value i.value (values i List.mem_cons_self)
    refine ⟨value.bind fun a => later.map (a :: ·), fun fuel first b rest enough blank => ?_⟩
    obtain ⟨fuel, rfl⟩ : ∃ n, fuel = n + 1 := ⟨fuel - 1, by omega⟩
    have more := nextItem_cons blank here (values i List.mem_cons_self) items first rest
    have taken := taken _ (ends_blanks here.after (ends_itemTexts (.inl rfl) items rest))
    have reads := reads fuel false i.after rest (by simpa using enough) here.after
    have step : Reader.items read (fuel + 1) first
        (b ++ (itemTexts ']' first (i :: items) ++ rest)) =
          (read (i.value ++ (i.after ++ (itemTexts ']' false items ++ rest)))).bind fun p =>
            (Reader.items read fuel false p.2).bind fun q => .ok (p.1 :: q.1, q.2) := by
      simp only [Reader.items, more]
      rfl
    rw [step, toOption_bind, taken]
    cases value with
    | none => rfl
    | some a =>
      simp only [Option.map_some, Option.bind_some, toOption_bind, reads]
      cases later <;> rfl

/-- Every item but the first has a comma, and there is a bracket at the end. -/
theorem length_le_itemTexts (closing : Char) (first : Bool) (items : List Item) :
    items.length ≤ (itemTexts closing first items).length := by
  have commas (items : List Item) : items.length < (itemTexts closing false items).length := by
    induction items with
    | nil => exact Nat.one_pos
    | cons i items ih =>
      simp only [itemTexts, comma, Bool.false_eq_true, if_false, List.length_append,
        List.length_cons, List.length_nil]
      omega
  cases first with
  | false => exact Nat.le_of_lt (commas items)
  | true =>
    cases items with
    | nil => exact Nat.zero_le _
    | cons i items =>
      have := commas items
      simp only [itemTexts, List.length_append, List.length_cons]
      omega

/-- **Lists.** A list is read for itself if its items are. -/
theorem Steady.list (steady : Steady read) : Steady read.list where
  blanks b cs blank := by simp only [Reader.list, skipSpace_blanks blank]
  value v h := by
    obtain ⟨c, cs, rfl, plain, -⟩ := h.exists_cons
    by_cases bracket : c = '['
    · subst bracket
      obtain ⟨lead, items, blank, framed, values, rfl⟩ := h.of_bracket
      obtain ⟨o, reads⟩ := steady.exists_items framed values
      refine ⟨o, fun rest _ => ?_⟩
      have text : '[' :: (lead ++ itemTexts ']' true items) ++ rest =
          '[' :: (lead ++ (itemTexts ']' true items ++ rest)) := by simp
      have enough : items.length < (lead ++ (itemTexts ']' true items ++ rest)).length + 1 := by
        have := length_le_itemTexts ']' true items
        simp only [List.length_append]
        omega
      have inside := reads _ true lead rest enough blank
      simp only [text, Reader.list, skipSpace_of_not_space plain, toOption_enclosed, inside]
      cases o <;> rfl
    · refine .error fun rest _ => ?_
      simp only [Reader.list, List.cons_append, skipSpace_of_not_space plain]
      split <;> simp_all [Except.toOption]

end Items

end SchedulerHost.Json
