import SchedulerHost.Json.Record
import SchedulerHost.Json.Variant
import SchedulerHost.Proofs.Json.Steadiness

/-!
# Records and variants are read for themselves

A record is read from the members of an object in any order, or from the items of a list. Either
way what is made of it is settled by its text, if that is so for its fields.

* `Schema.give`, `Schema.fill`: what becomes of a draft when members are given; `toOption_members`:
  that is what reading them does to it.
* **Records** (`Schema.steady_record`): from an object (`toOption_object`) and from a list
  (`exists_fromItems`).
* **Variants** (`Variant.steady_variant`).
-/

namespace SchedulerHost.Json

namespace Member

/-- The text that the key of a member stands for, if it stands for one. -/
def name? (m : Member) : Option String := (stringBody (m.key ++ ['"'])).toOption.map (·.1)

/-- The key of a member is read off its text. -/
theorem toOption_key {m : Member} (key : StringText m.key) {rest : List Char} (ends : Ends rest) :
    (stringBody (m.key ++ '"' :: rest)).toOption = m.name?.map (·, rest) := by
  obtain ⟨o, reads⟩ := definite_stringBody key
  have alone := reads [] ends_nil
  rw [name?, alone, reads rest ends]
  cases o <;> rfl

end Member

namespace Schema

/-! ### Members -/

/-- What is made of a draft when a member is given: a field that was given before is refused, and
so is one whose value is not decoded. -/
def give (name : String) (v : List Char) : (s : Schema) → Draft s → Option (Draft s)
  | [], () => some ()
  | f :: fs, (slot, draft) =>
    if f.name = name then
      match slot with
      | some _ => none
      | none => (decoded f.read v).map fun a => (some a, draft)
    else (give name v fs draft).map (slot, ·)

def fill (s : Schema) : Draft s → List Member → Option (Draft s)
  | draft, [] => some draft
  | draft, m :: ms =>
    m.name?.bind fun name => (give name m.value s draft).bind fun draft => fill s draft ms

variable {s : Schema} {b rest : List Char} {m : Member} {ms : List Member}

/-- A member is read into the draft, or passed over, after its key. -/
theorem toOption_member (steady : ∀ f ∈ s, Steady f.read) (framed : m.Framed)
    (value : ValueText m.value) (name : String) (draft : Draft s) (ends : Ends rest) :
    (member name s draft (m.afterKey ++ ':' :: (m.afterColon ++ (m.value ++ rest)))).toOption =
      (give name m.value s draft).map (·, rest) := by
  have after : colon (m.afterKey ++ ':' :: (m.afterColon ++ (m.value ++ rest))) =
      .ok (m.afterColon ++ (m.value ++ rest)) := by
    simp (disch := decide) only [colon, skipSpace_blanks framed.afterKey, skipSpace_of_not_space]
  induction s with
  | nil =>
    obtain ⟨⟩ := draft
    simp only [member, after, bind, Except.bind, skipValue_append value framed.afterColon ends]
    rfl
  | cons f s ih =>
    obtain ⟨slot, draft⟩ := draft
    by_cases own : f.name = name
    · cases slot with
      | some a => simp [member, give, own, Except.toOption]
      | none =>
        have taken := (steady f List.mem_cons_self).toOption_append value ends
        have same := (steady f List.mem_cons_self).blanks _ (m.value ++ rest) framed.afterColon
        have step : member name (f :: s) (none, draft)
            (m.afterKey ++ ':' :: (m.afterColon ++ (m.value ++ rest))) =
              (f.read (m.value ++ rest)).bind fun p =>
                (.ok ((some p.1, draft), p.2) : Except Fault (Draft (f :: s) × List Char)) := by
          simp only [member, own, if_true, after, bind, Except.bind, same]
          rfl
        rw [step, toOption_bind, taken]
        simp only [give, own, if_true]
        cases decoded f.read m.value <;> rfl
    · have step : member name (f :: s) (slot, draft)
          (m.afterKey ++ ':' :: (m.afterColon ++ (m.value ++ rest))) =
            (member name s draft (m.afterKey ++ ':' :: (m.afterColon ++ (m.value ++ rest)))).bind
              fun p => (.ok ((slot, p.1), p.2) : Except Fault (Draft (f :: s) × List Char)) := by
        simp only [member, own, if_false]
        rfl
      rw [step, toOption_bind, ih (fun g there => steady g (List.mem_cons_of_mem _ there))]
      simp only [give, own, if_false]
      cases give name m.value s draft <;> rfl

/-- No member remains. -/
theorem nextKey_end (blank : Blanks b) (first : Bool) (rest : List Char) :
    nextKey first (b ++ '\x7d' :: rest) = .ok (false, '\x7d' :: rest) := by
  simp (disch := decide) only [nextKey, skipSpace_blanks blank, skipSpace_of_not_space, if_true]

/-- A member remains: what is left begins after the opening quote of its key. -/
theorem nextKey_cons (blank : Blanks b) (framed : m.Framed) (items : List Item) (first : Bool)
    (rest : List Char) :
    nextKey first (b ++ (itemTexts '\x7d' first (m.item :: items) ++ rest)) =
      .ok (true, m.key ++ '"' :: (m.afterKey ++ ':' :: (m.afterColon ++ (m.value ++
        (m.after ++ (itemTexts '\x7d' false items ++ rest)))))) := by
  cases first with
  | true =>
    simp (disch := decide) [itemTexts, comma, nextKey, skipSpace_blanks blank, Member.item,
      skipSpace_blanks framed.before, skipSpace_of_not_space]
  | false =>
    simp (disch := decide) [itemTexts, comma, nextKey, skipSpace_blanks blank, Member.item,
      skipSpace_blanks framed.before, skipSpace_of_not_space]

/-- The members of an object are read into the draft up to its end, or one of them is refused. -/
theorem toOption_members (steady : ∀ f ∈ s, Steady f.read) (framed : ∀ m ∈ ms, m.Framed)
    (keys : ∀ m ∈ ms, StringText m.key) (values : ∀ m ∈ ms, ValueText m.value) {fuel : Nat}
    (enough : ms.length < fuel) (first : Bool) (draft : Draft s) (blank : Blanks b)
    (rest : List Char) :
    (members s fuel first draft
      (b ++ (itemTexts '\x7d' first (ms.map Member.item) ++ rest))).toOption =
        (fill s draft ms).map (·, '\x7d' :: rest) := by
  induction ms generalizing fuel first draft b with
  | nil =>
    obtain ⟨fuel, rfl⟩ := Nat.exists_eq_add_of_lt enough
    have ended := nextKey_end blank first rest
    simp only [List.map_nil, itemTexts, List.cons_append, List.nil_append, members, ended]
    rfl
  | cons m ms ih =>
    obtain ⟨fuel, rfl⟩ : ∃ n, fuel = n + 1 := ⟨fuel - 1, by omega⟩
    have here := framed m List.mem_cons_self
    have more := nextKey_cons blank here (ms.map Member.item) first rest
    have ends := ends_blanks here.after (ends_itemTexts (.inr rfl) (ms.map Member.item) rest)
    have colon (tail : List Char) : Ends (m.afterKey ++ ':' :: tail) :=
      ends_blanks here.afterKey (by simp [Ends])
    have step : members s (fuel + 1) first draft
        (b ++ (itemTexts '\x7d' first ((m :: ms).map Member.item) ++ rest)) =
          (stringBody (m.key ++ '"' :: (m.afterKey ++ ':' :: (m.afterColon ++ (m.value ++
            (m.after ++ (itemTexts '\x7d' false (ms.map Member.item) ++ rest))))))).bind fun p =>
              (member p.1 s draft p.2).bind fun q => members s fuel false q.1 q.2 := by
      simp only [List.map_cons, members, more]
      rfl
    rw [step, toOption_bind, Member.toOption_key (keys m List.mem_cons_self) (colon _), fill]
    cases m.name? with
    | none => rfl
    | some name =>
      simp only [Option.map_some, Option.bind_some, toOption_bind]
      rw [toOption_member steady here (values m List.mem_cons_self) name draft ends]
      cases give name m.value s draft with
      | none => rfl
      | some next =>
        exact ih (fun n there => framed n (List.mem_cons_of_mem _ there))
          (fun n there => keys n (List.mem_cons_of_mem _ there))
          (fun n there => values n (List.mem_cons_of_mem _ there)) (by simpa using enough) false
          next here.after

/-! ### Records -/

def Values.cons {f : Field} {s : Schema} (a : f.type) (values : Values s) : Values (f :: s) :=
  (a, values)

def ofMembers (s : Schema) (ms : List Member) : Option (Values s) :=
  (fill s (blank s) ms).bind fun draft => (complete s draft).toOption

/-- A record is made of an object when its members fill a draft. -/
theorem toOption_fromMembers (cs : List Char) :
    (fromMembers s cs).toOption =
      (members s (cs.length + 1) true (blank s) cs).toOption.bind fun p =>
        (complete s p.1).toOption.map (·, p.2) := by
  unfold fromMembers
  split
  · next failed => rw [failed]; rfl
  · next draft rest read =>
    rw [read]
    show _ = (complete s draft).toOption.map (·, rest)
    cases complete s draft <;> rfl

/-- A record is read from an object as its members give it. -/
theorem toOption_object (steady : ∀ f ∈ s, Steady f.read) (framed : ∀ m ∈ ms, m.Framed)
    (keys : ∀ m ∈ ms, StringText m.key) (values : ∀ m ∈ ms, ValueText m.value) (blank : Blanks b)
    (name : String) (rest : List Char) :
    (Reader.record name s
      ('\x7b' :: (b ++ itemTexts '\x7d' true (ms.map Member.item)) ++ rest)).toOption =
        (ofMembers s ms).map (·, rest) := by
  have text : '\x7b' :: (b ++ itemTexts '\x7d' true (ms.map Member.item)) ++ rest =
      '\x7b' :: (b ++ (itemTexts '\x7d' true (ms.map Member.item) ++ rest)) := by simp
  have enough : ms.length <
      (b ++ (itemTexts '\x7d' true (ms.map Member.item) ++ rest)).length + 1 := by
    have := length_le_itemTexts '\x7d' true (ms.map Member.item)
    simp only [List.length_append, List.length_map] at this ⊢
    omega
  have read := toOption_members steady framed keys values enough true (Schema.blank s) blank rest
  have inside : (fromMembers s
      (b ++ (itemTexts '\x7d' true (ms.map Member.item) ++ rest))).toOption =
        (ofMembers s ms).map (·, '\x7d' :: rest) := by
    rw [toOption_fromMembers, read, ofMembers]
    cases fill s (Schema.blank s) ms with
    | none => rfl
    | some draft => rfl
  simp (disch := decide) only [text, Reader.record, skipSpace_of_not_space, toOption_enclosed,
    inside]
  cases ofMembers s ms <;> rfl

variable {f : Field} {a : f.type} {i : Item} {items : List Item}

/-- No items are read if there are no fields. -/
theorem toOption_fromItems_nil (expected : String) (index : Nat) (first : Bool) (cs : List Char) :
    (Reader.enclosed (fromItems expected [] index first) Reader.closeList cs).toOption =
      (Reader.closeList cs).1.toOption.map fun _ => ((), (Reader.closeList cs).2) :=
  toOption_enclosed cs

/-- A field for which no item remains is missing, if it has no value for that case. -/
theorem toOption_fromItems_missing (absent : f.absent = none) (blank : Blanks b) (expected : String)
    (index : Nat) (first : Bool) (rest : List Char) :
    (fromItems expected (f :: s) index first (b ++ ']' :: rest)).toOption = none := by
  simp only [fromItems, nextItem_end blank, absent]
  rfl

/-- A field for which no item remains has its value for that case. -/
theorem fromItems_absent (absent : f.absent = some a) (blank : Blanks b) (expected : String)
    (index : Nat) (first : Bool) (rest : List Char) :
    fromItems expected (f :: s) index first (b ++ ']' :: rest) =
      (fromItems expected s (index + 1) first (']' :: rest)).bind fun p =>
        .ok (.cons a p.1, p.2) := by
  simp only [fromItems, nextItem_end blank, absent]
  rfl

/-- A field is read from the first item that remains, and the others from those after it. -/
theorem fromItems_item (blank : Blanks b) (framed : i.Framed) (value : ValueText i.value)
    (items : List Item) (expected : String) (index : Nat) (first : Bool) (rest : List Char) :
    fromItems expected (f :: s) index first (b ++ (itemTexts ']' first (i :: items) ++ rest)) =
      (f.read (i.value ++ (i.after ++ (itemTexts ']' false items ++ rest)))).bind fun p =>
        (fromItems expected s (index + 1) false p.2).bind fun q => .ok (.cons p.1 q.1, q.2) := by
  simp only [fromItems, nextItem_cons blank framed value]
  rfl

/-- The fields of a record are read from the items of a list, all of which have to be taken. -/
theorem exists_fromItems (steady : ∀ f ∈ s, Steady f.read) (framed : ∀ i ∈ items, i.Framed)
    (values : ∀ i ∈ items, ValueText i.value) (expected : String) (index : Nat) (first : Bool) :
    ∃ o : Option (Values s), ∀ b rest, Blanks b →
      (Reader.enclosed (fromItems expected s index first) Reader.closeList
        (b ++ (itemTexts ']' first items ++ rest))).toOption = o.map (·, rest) := by
  induction s generalizing items index first with
  | nil =>
    cases items with
    | nil =>
      refine ⟨some (), fun b rest blank => ?_⟩
      rw [toOption_fromItems_nil, itemTexts, List.cons_append, List.nil_append, closeList_end blank]
      rfl
    | cons i items =>
      refine ⟨none, fun b rest blank => ?_⟩
      rw [toOption_fromItems_nil, closeList_cons blank (framed i List.mem_cons_self)
        (values i List.mem_cons_self)]
      rfl
  | cons f s ih =>
    have later (g : Field) (there : g ∈ s) := steady g (List.mem_cons_of_mem _ there)
    cases items with
    | nil =>
      cases absent : f.absent with
      | none =>
        refine ⟨none, fun b rest blank => ?_⟩
        rw [toOption_enclosed, itemTexts, List.cons_append, List.nil_append,
          toOption_fromItems_missing absent blank]
        rfl
      | some a =>
        obtain ⟨o, reads⟩ := ih later framed values (index + 1) first
        refine ⟨o.map (.cons a), fun b rest blank => ?_⟩
        have step := fromItems_absent (s := s) absent blank expected index first rest
        have reads := reads [] rest blanks_nil
        simp only [itemTexts, List.cons_append, List.nil_append] at reads ⊢
        rw [toOption_enclosed_bind step, reads]
        cases o <;> rfl
    | cons i items =>
      have here := framed i List.mem_cons_self
      have value := values i List.mem_cons_self
      obtain ⟨o, reads⟩ := ih later (fun j there => framed j (List.mem_cons_of_mem _ there))
        (fun j there => values j (List.mem_cons_of_mem _ there)) (index + 1) false
      refine ⟨(decoded f.read i.value).bind fun a => o.map (.cons a), fun b rest blank => ?_⟩
      have taken := (steady f List.mem_cons_self).toOption_append value
        (ends_blanks here.after (ends_itemTexts (.inl rfl) items rest))
      have step := fromItems_item (f := f) (s := s) blank here value items expected index first rest
      cases one : decoded f.read i.value with
      | none =>
        rw [one] at taken
        obtain ⟨fault, failed⟩ := toOption_eq_none_iff.1 taken
        rw [toOption_enclosed, step, failed]
        rfl
      | some a =>
        rw [one] at taken
        rw [toOption_eq_some_iff.1 taken] at step
        rw [toOption_enclosed_bind (f := .cons a) step, reads i.after rest here.after]
        cases o <;> rfl

/-- **Records.** A record is read for itself if its fields are. -/
theorem steady_record (steady : ∀ f ∈ s, Steady f.read) (name : String) :
    Steady (Reader.record name s) where
  blanks b cs blank := by simp only [Reader.record, skipSpace_blanks blank]
  value v h := by
    obtain ⟨c, cs, rfl, plain, -⟩ := h.exists_cons
    by_cases brace : c = '\x7b'
    · subst brace
      obtain ⟨lead, ms, blank, framed, keys, values, rfl⟩ := h.of_brace
      exact ⟨ofMembers s ms,
        fun rest _ => toOption_object steady framed keys values blank name rest⟩
    by_cases bracket : c = '['
    · subst bracket
      obtain ⟨lead, items, blank, framed, values, rfl⟩ := h.of_bracket
      obtain ⟨o, reads⟩ := exists_fromItems steady framed values (sizedName name s) 0 true
      refine ⟨o, fun rest _ => ?_⟩
      have text : '[' :: (lead ++ itemTexts ']' true items) ++ rest =
          '[' :: (lead ++ (itemTexts ']' true items ++ rest)) := by simp
      simp only [text, Reader.record, skipSpace_of_not_space plain]
      exact reads lead rest blank
    refine .error fun rest _ => ?_
    simp only [Reader.record, List.cons_append, skipSpace_of_not_space plain]
    split <;> simp_all [Except.toOption]

end Schema

/-! ### Variants -/

namespace Variant

variable {α : Type} {variants : List (Variant α)} {v : Variant α}

/-- Only the variants there are have a name. -/
theorem mem_of_tag {cs rest : List Char} (h : tag variants cs = .ok (v, rest)) : v ∈ variants := by
  unfold tag Reader.text at h
  split at h
  · cases h
  · split at h
    · cases h
    · next s rest read =>
      cases found : variants.find? (·.name = s) with
      | none => simp [found] at h
      | some w =>
        simp only [found, Except.ok.injEq, Prod.mk.injEq] at h
        exact h.1 ▸ List.mem_of_find?_eq_some found
  · cases h

theorem definite_tag (variants : List (Variant α)) {body : List Char} (string : StringText body) :
    Definite fun rest => tag variants ('"' :: (body ++ '"' :: rest)) :=
  definite_text _ _ string

theorem definite_alone (v : Variant α) : Definite v.alone := by
  unfold alone
  cases v.shape with
  | bare a => exact .ok a fun _ _ => rfl
  | wrapped read => exact .error fun _ _ => rfl
  | fields read => exact .error fun _ _ => rfl

/-- The first member of an object is found behind the blanks before it. -/
theorem onlyKey_member {b : List Char} {m : Member} (blank : Blanks b) (framed : m.Framed)
    (items : List Item) (rest : List Char) :
    onlyKey (b ++ (itemTexts '\x7d' true (m.item :: items) ++ rest)) =
      .ok ('"' :: (m.key ++ '"' :: (m.afterKey ++ ':' :: (m.afterColon ++ (m.value ++
        (m.after ++ (itemTexts '\x7d' false items ++ rest))))))) := by
  simp (disch := decide) only [itemTexts, comma, if_true, List.nil_append, List.cons_append,
    List.append_assoc, Member.item, onlyKey, skipSpace_blanks blank,
    skipSpace_blanks framed.before, skipSpace_of_not_space]

/-- What is made of the first member of an object, which has to be the last. -/
theorem definite_tagged (steady : ∀ v ∈ variants, Steady v.content) {b : List Char} {m : Member}
    (blank : Blanks b) (framed : m.Framed) (key : StringText m.key) (value : ValueText m.value)
    (items : List Item) :
    Definite fun rest => Reader.variant variants
      ('\x7b' :: (b ++ itemTexts '\x7d' true (m.item :: items)) ++ rest) := by
  have ends (tail : List Char) : Ends (m.afterKey ++ ':' :: tail) :=
    ends_blanks framed.afterKey (by simp [Ends])
  have opened := onlyKey_member blank framed items
  rcases (definite_tag variants key).cases with ⟨v, reads⟩ | refused
  · have known : v ∈ variants := mem_of_tag (reads [] ends_nil)
    refine ⟨if items = [] then decoded v.content m.value else none, fun rest _ => ?_⟩
    have taken := (steady v known).toOption_append value
      (ends_blanks framed.after (ends_itemTexts (.inr rfl) items rest))
    simp (disch := decide) only [Reader.variant, List.cons_append, List.append_assoc,
      skipSpace_of_not_space, opened, reads _ (ends _), bind, Except.bind, colon,
      skipSpace_blanks framed.afterKey, (steady v known).blanks _ _ framed.afterColon]
    cases content : decoded v.content m.value with
    | none =>
      rw [content] at taken
      obtain ⟨fault, failed⟩ := toOption_eq_none_iff.1 taken
      simp [failed, Except.toOption]
    | some a =>
      rw [content] at taken
      rw [toOption_eq_some_iff.1 taken]
      cases items with
      | nil =>
        simp (disch := decide) [itemTexts, skipSpace_blanks framed.after, skipSpace_of_not_space,
          Except.toOption]
      | cons i items =>
        simp (disch := decide) only [itemTexts, comma, Bool.false_eq_true, if_false,
          List.cons_append, List.nil_append, List.append_assoc, skipSpace_blanks framed.after,
          skipSpace_of_not_space]
        rfl
  · refine .error fun rest _ => ?_
    obtain ⟨fault, failed⟩ := refused _ (ends (m.afterColon ++ (m.value ++
      (m.after ++ (itemTexts '\x7d' false items ++ rest)))))
    simp (disch := decide) only [Reader.variant, List.cons_append, List.append_assoc,
      skipSpace_of_not_space, opened, failed, bind, Except.bind]
    rfl

/-- **Variants.** A value of one of several named shapes is read for itself if the contents are. -/
theorem steady_variant (steady : ∀ v ∈ variants, Steady v.content) :
    Steady (Reader.variant variants) where
  blanks b cs blank := by simp only [Reader.variant, skipSpace_blanks blank]
  value text h := by
    obtain ⟨c, cs, rfl, plain, -⟩ := h.exists_cons
    by_cases named : c = '"'
    · subst named
      obtain ⟨body, string, rfl⟩ := h.of_quote
      refine (definite_tag variants string).bind alone definite_alone fun rest _ => ?_
      simp (disch := decide) only [List.cons_append, List.append_assoc, List.nil_append,
        Reader.variant, skipSpace_of_not_space]
      rfl
    by_cases brace : c = '\x7b'
    · subst brace
      obtain ⟨lead, ms, blank, framed, keys, values, rfl⟩ := h.of_brace
      cases ms with
      | nil =>
        refine .error fun rest _ => ?_
        simp (disch := decide) [Reader.variant, skipSpace_of_not_space, itemTexts, onlyKey,
          skipSpace_blanks blank, bind, Except.bind, Except.toOption]
      | cons m ms =>
        exact definite_tagged steady blank (framed m List.mem_cons_self) (keys m List.mem_cons_self)
          (values m List.mem_cons_self) (ms.map Member.item)
    refine .error fun rest _ => ?_
    simp only [Reader.variant, List.cons_append, skipSpace_of_not_space plain]
    split <;> simp_all [Except.toOption]

end Variant

end SchedulerHost.Json
