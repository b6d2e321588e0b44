import SchedulerHost.Json.Skip
import SchedulerHost.Proofs.Json.Grammar

/-!
# Passing over values

A value that nobody asked for is passed over up to its end, whatever it is and whatever follows it.

* `skipString_stringText`, `skipNumber_numberText`: scalars.
* `Skips`: how many steps it takes to pass over a value while brackets are open.
* **Values passed over** (`skipValue_append`).
-/

namespace SchedulerHost.Json

/-! ### Strings -/

theorem fourHex?_append (w x y z : Char) (cs : List Char) :
    fourHex? (w :: x :: y :: z :: cs) = fourHex? [w, x, y, z] := rfl

/-- Four hexadecimal digits are a number. -/
theorem exists_fourHex {w x y z : Char} (digits : ∀ c ∈ [w, x, y, z], (hexValue? c).isSome) :
    ∃ n, fourHex? [w, x, y, z] = some n := by
  obtain ⟨a, first⟩ := Option.isSome_iff_exists.1 (digits w (by simp))
  obtain ⟨b, second⟩ := Option.isSome_iff_exists.1 (digits x (by simp))
  obtain ⟨c, third⟩ := Option.isSome_iff_exists.1 (digits y (by simp))
  obtain ⟨d, fourth⟩ := Option.isSome_iff_exists.1 (digits z (by simp))
  exact ⟨((a * 16 + b) * 16 + c) * 16 + d, by simp [fourHex?, first, second, third, fourth]⟩

theorem fourHex_append {w x y z : Char} {n : Nat} (digits : fourHex? [w, x, y, z] = some n)
    (cs : List Char) : fourHex (w :: x :: y :: z :: cs) = .ok n := by
  rw [fourHex, fourHex?_append, digits]

theorem isSome_simpleEscape? {c : Char}
    (known : c ∈ ['"', '\\', '/', 'b', 'f', 'n', 'r', 't']) : (simpleEscape? c).isSome := by
  simp only [List.mem_cons, List.not_mem_nil, or_false] at known
  rcases known with rfl | rfl | rfl | rfl | rfl | rfl | rfl | rfl <;> decide

/-- A string is passed over up to its closing quote. -/
theorem skipString_stringText {cs : List Char} (h : StringText cs) (rest : List Char) :
    skipString 0 (cs ++ '"' :: rest) = .ok rest := by
  induction h with
  | nil => simp [skipString]
  | plain quote backslash control _ ih => simp [skipString, quote, backslash, control, ih]
  | letter known _ ih =>
    simp [skipString, skippedEscape, isSome_simpleEscape? known, ih, bind, Except.bind]
  | number digits _ ih =>
    obtain ⟨n, hex⟩ := exists_fourHex digits
    have unknown : simpleEscape? 'u' = none := by decide
    simp [skipString, skippedEscape, unknown, fourHex_append hex, ih, bind, Except.bind, pure,
      Except.pure]

/-! ### Numbers -/

theorem halts_exponent {cs rest : List Char} (h : ExponentText cs) (ends : Ends rest) :
    Halts (cs ++ rest) := by
  cases h with
  | none => exact ends.halts
  | digits marked signed all => rcases marked with rfl | rfl <;> simp [Halts]

theorem halts_fraction {cs tail : List Char} (h : FractionText cs) (halts : Halts tail) :
    Halts (cs ++ tail) := by
  cases h with
  | none => exact halts
  | digits all => simp [Halts]

/-- The sign of an exponent is taken off its digits. -/
theorem exists_exponentSign {sign ds : List Char}
    (signed : sign = [] ∨ sign = ['+'] ∨ sign = ['-']) (all : Digits ds) :
    ∃ positive, ∀ rest, exponentSign (sign ++ ds ++ rest) = (positive, ds ++ rest) := by
  obtain ⟨some, digits⟩ := all
  rcases signed with rfl | rfl | rfl
  · obtain ⟨d, ds, rfl⟩ := List.exists_cons_of_ne_nil some
    have digit := digits d List.mem_cons_self
    refine ⟨true, fun rest => ?_⟩
    show exponentSign (d :: (ds ++ rest)) = _
    unfold exponentSign
    split
    · simp_all
    · simp_all
    · rfl
  · exact ⟨true, fun rest => rfl⟩
  · exact ⟨false, fun rest => rfl⟩

theorem skipExponent_append {sign ds rest : List Char}
    (signed : sign = [] ∨ sign = ['+'] ∨ sign = ['-']) (all : Digits ds) (ends : Ends rest) :
    skipExponent (sign ++ ds ++ rest) = .ok rest := by
  obtain ⟨positive, taken⟩ := exists_exponentSign signed all
  obtain ⟨some, digits⟩ := all
  obtain ⟨d, ds, rfl⟩ := List.exists_cons_of_ne_nil some
  have others (c : Char) (there : c ∈ ds) : c.isDigit = true :=
    digits c (List.mem_cons_of_mem _ there)
  rw [skipExponent, taken]
  simp only [List.cons_append, digits d List.mem_cons_self, if_true,
    ends.halts.dropWhile_digits others]

/-- What follows the digits of a number is passed over. -/
theorem skipAfterInteger_append {fraction exponent rest : List Char} (f : FractionText fraction)
    (e : ExponentText exponent) (ends : Ends rest) :
    skipAfterInteger (fraction ++ (exponent ++ rest)) = .ok rest := by
  cases f with
  | none =>
    cases e with
    | none =>
      show skipAfterInteger rest = _
      unfold skipAfterInteger
      split
      · exact absurd rfl (ends '.' (by simp)).2.1
      · exact absurd rfl (ends 'e' (by simp)).2.2.1
      · exact absurd rfl (ends 'E' (by simp)).2.2.2
      · rfl
    | digits marked signed all =>
      have passed := skipExponent_append signed all ends
      rcases marked with rfl | rfl <;> exact passed
  | @digits ds all =>
    have taken := (halts_exponent e ends).takeWhile_digits all.2
    have left := (halts_exponent e ends).dropWhile_digits all.2
    show skipFraction (ds ++ (exponent ++ rest)) = _
    rw [skipFraction, taken, left, List.isEmpty_eq_false_iff.2 all.1]
    cases e with
    | none =>
      simp only [List.nil_append, Bool.false_eq_true, if_false]
      split
      · exact absurd rfl (ends 'e' (by simp)).2.2.1
      · exact absurd rfl (ends 'E' (by simp)).2.2.2
      · rfl
    | digits marked signed all =>
      have passed := skipExponent_append signed all ends
      rcases marked with rfl | rfl <;> exact passed

theorem skipUnsigned_append {cs rest : List Char} (h : MagnitudeText cs) (ends : Ends rest) :
    skipUnsigned (cs ++ rest) = .ok rest := by
  obtain @⟨whole, fraction, exponent, w, f, e⟩ := h
  have passed := skipAfterInteger_append f e ends
  have halts := halts_fraction f (halts_exponent e ends)
  rw [List.append_assoc, List.append_assoc]
  cases w with
  | zero =>
    revert passed halts
    generalize fraction ++ (exponent ++ rest) = tail
    intro passed halts
    cases tail with
    | nil => simpa [skipUnsigned, skipAfterInteger] using passed
    | cons d tail =>
      simp only [List.cons_append, List.nil_append, skipUnsigned, if_true, halts d (by simp),
        Bool.false_eq_true, if_false, passed]
  | @digits c cs nonzero all =>
    have others (d : Char) (there : d ∈ cs) : d.isDigit = true :=
      all.2 d (List.mem_cons_of_mem _ there)
    simp only [List.cons_append, skipUnsigned, nonzero, if_false, all.2 c List.mem_cons_self,
      if_true, halts.dropWhile_digits others, passed]

/-- A number is passed over, in whatever notation it is. -/
theorem skipNumber_numberText {cs rest : List Char} (h : NumberText cs) (ends : Ends rest) :
    skipNumber (cs ++ rest) = .ok rest := by
  cases h with
  | positive magnitude =>
    obtain ⟨c, cs', rfl, digit⟩ := magnitude.exists_cons
    have passed := skipUnsigned_append magnitude ends
    unfold skipNumber
    split
    · simp_all
    · exact passed
  | negative magnitude => exact skipUnsigned_append magnitude ends

/-! ### Scalars -/

/-- While brackets are open, it takes one step more than `steps` to pass over a value. -/
def Skips (v : List Char) (steps : Nat) : Prop :=
  ∀ fuel stack rest, Ends rest →
    skipFrom (fuel + (steps + 1)) .value stack (v ++ rest) = skipFrom fuel .separator stack rest

/-- A value that opens no bracket is passed over in one step. -/
theorem skips_scalar {c : Char} {cs : List Char} (plain : isSpace c = false)
    (flat : c ≠ '[' ∧ c ≠ '\x7b')
    (passed : ∀ rest, Ends rest → skipScalar (c :: cs ++ rest) = .ok rest) :
    Skips (c :: cs) 0 := by
  intro fuel stack rest ends
  have taken := passed rest ends
  rw [List.cons_append] at taken ⊢
  rw [skipFrom, skipSpace_of_not_space plain]
  split
  · simp_all
  · simp_all
  · simp only [taken]

/-! ### Lists and objects -/

def Bracket.opening : Bracket → Char
  | .list => '['
  | .object => '\x7b'

/-- It takes one step more than `steps` to pass over an item inside a bracket. -/
def Enters (bracket : Bracket) (item : List Char) (steps : Nat) : Prop :=
  ∀ fuel stack rest, Ends rest →
    skipFrom (fuel + (steps + 1)) bracket.item (bracket :: stack) (item ++ rest) =
      skipFrom fuel .separator (bracket :: stack) rest

/-- It takes one step more than `steps` to pass over what remains inside a bracket,
and over the bracket. -/
def Closes (bracket : Bracket) (cs : List Char) (steps : Nat) : Prop :=
  ∀ fuel stack b rest, Blanks b →
    skipFrom (fuel + (steps + 1)) .separator (bracket :: stack) (b ++ (cs ++ rest)) =
      skipFrom fuel .separator stack rest

theorem Bracket.closing_cases (bracket : Bracket) :
    bracket.closing = ']' ∨ bracket.closing = '\x7d' := by
  cases bracket <;> simp [Bracket.closing]

theorem Bracket.closing_ne_comma (bracket : Bracket) : ',' ≠ bracket.closing := by
  cases bracket <;> decide

theorem Bracket.skipSpace_closing (bracket : Bracket) (rest : List Char) :
    skipSpace (bracket.closing :: rest) = bracket.closing :: rest := by
  apply skipSpace_of_not_space
  cases bracket <;> decide

/-- The blanks before an item are passed over with it. -/
theorem skipFrom_item_blanks {b : List Char} (blank : Blanks b) (bracket : Bracket) (fuel : Nat)
    (stack : List Bracket) (cs : List Char) :
    skipFrom (fuel + 1) bracket.item stack (b ++ cs) =
      skipFrom (fuel + 1) bracket.item stack cs := by
  cases bracket with
  | list => simp only [Bracket.item, skipFrom, skipSpace_blanks blank]
  | object => simp only [Bracket.item, skipFrom, skipKey, skipSpace_blanks blank]

/-- The comma before a further item is passed over in one step. -/
theorem skipFrom_comma {b : List Char} (blank : Blanks b) (bracket : Bracket) (fuel : Nat)
    (stack : List Bracket) (cs : List Char) :
    skipFrom (fuel + 1) .separator (bracket :: stack) (b ++ ',' :: cs) =
      skipFrom fuel bracket.item (bracket :: stack) cs := by
  simp (disch := decide) only [skipFrom, skipSpace_blanks blank, skipSpace_of_not_space,
    bracket.closing_ne_comma, if_false, if_true]

/-- Nothing remains inside a bracket. -/
theorem closes_closing (bracket : Bracket) : Closes bracket [bracket.closing] 0 := by
  intro fuel stack b rest blank
  simp only [skipFrom, skipSpace_blanks blank, List.cons_append, List.nil_append,
    bracket.skipSpace_closing, if_true]

variable {bracket : Bracket} {items : List Item}

/-- The items that remain inside a bracket are passed over one after the other. -/
theorem exists_closes (framed : ∀ i ∈ items, i.Framed)
    (enters : ∀ i ∈ items, ∃ n, n + 2 ≤ 2 * i.value.length ∧ Enters bracket i.value n) :
    ∃ n, n + 2 ≤ 2 * (itemTexts bracket.closing false items).length ∧
      Closes bracket (itemTexts bracket.closing false items) n := by
  induction items with
  | nil => exact ⟨0, Nat.le_refl _, closes_closing bracket⟩
  | cons i items ih =>
    obtain ⟨n, short, enters_i⟩ := enters i List.mem_cons_self
    obtain ⟨m, short', closes⟩ := ih (fun j there => framed j (List.mem_cons_of_mem _ there))
      fun j there => enters j (List.mem_cons_of_mem _ there)
    obtain ⟨before, after⟩ := framed i List.mem_cons_self
    refine ⟨n + m + 2, ?_, ?_⟩
    · simp only [itemTexts, comma, Bool.false_eq_true, if_false, List.length_append,
        List.length_cons, List.length_nil]
      omega
    · intro fuel stack b rest blank
      have ends := ends_blanks after (ends_itemTexts bracket.closing_cases items rest)
      have text : b ++ (itemTexts bracket.closing false (i :: items) ++ rest) =
          b ++ ',' :: (i.before ++ (i.value ++
            (i.after ++ (itemTexts bracket.closing false items ++ rest)))) := by
        simp [itemTexts, comma]
      rw [text, show fuel + (n + m + 2 + 1) = fuel + (m + 1) + (n + 1) + 1 by omega,
        skipFrom_comma blank, ← Nat.add_assoc _ n, skipFrom_item_blanks before, Nat.add_assoc _ n,
        enters_i _ _ _ ends]
      exact closes fuel stack i.after rest after

/-- A list or an object is passed over if its items are. -/
theorem exists_skips_enclosed (bracket : Bracket) {lead : List Char} (blank : Blanks lead)
    (framed : ∀ i ∈ items, i.Framed)
    (begun : ∀ i ∈ items, ∃ c cs, i.value = c :: cs ∧ isSpace c = false ∧ c ≠ bracket.closing)
    (enters : ∀ i ∈ items, ∃ n, n + 2 ≤ 2 * i.value.length ∧ Enters bracket i.value n) :
    ∃ n, n + 2 ≤ 2 * (bracket.opening :: (lead ++ itemTexts bracket.closing true items)).length ∧
      Skips (bracket.opening :: (lead ++ itemTexts bracket.closing true items)) n := by
  have opened (fuel : Nat) (stack : List Bracket) (cs : List Char) :
      skipFrom (fuel + 1) .value stack (bracket.opening :: cs) =
        skipFrom fuel .firstItem (bracket :: stack) cs := by
    cases bracket <;> simp [skipFrom, Bracket.opening, skipSpace, isSpace]
  cases items with
  | nil =>
    refine ⟨1, ?_, ?_⟩
    · simp only [itemTexts, List.length_cons, List.length_append, List.length_nil]
      omega
    · intro fuel stack rest _
      rw [List.cons_append, ← Nat.add_assoc fuel, opened]
      simp only [itemTexts, List.append_assoc, List.cons_append, List.nil_append, skipFrom,
        skipSpace_blanks blank, bracket.skipSpace_closing, if_true]
  | cons i items =>
    obtain ⟨n, short, enters_i⟩ := enters i List.mem_cons_self
    obtain ⟨m, short', closes⟩ := exists_closes
      (fun j there => framed j (List.mem_cons_of_mem _ there))
      fun j there => enters j (List.mem_cons_of_mem _ there)
    obtain ⟨before, after⟩ := framed i List.mem_cons_self
    obtain ⟨c, cs, written, plain, inside⟩ := begun i List.mem_cons_self
    refine ⟨n + m + 3, ?_, ?_⟩
    · simp only [itemTexts, comma, if_true, List.length_append, List.length_cons, List.length_nil]
      omega
    · intro fuel stack rest _
      have ends := ends_blanks after (ends_itemTexts bracket.closing_cases items rest)
      have entered := enters_i (fuel + (m + 1)) stack _ ends
      have start (tail : List Char) : skipSpace (c :: tail) = c :: tail :=
        skipSpace_of_not_space plain
      rw [written] at entered
      rw [List.cons_append, show fuel + (n + m + 3 + 1) = fuel + (m + 1) + (n + 1) + 1 + 1 by omega,
        opened, skipFrom]
      simp only [itemTexts, comma, if_true, List.nil_append, List.append_assoc,
        skipSpace_blanks blank, skipSpace_blanks before, written, List.cons_append, start, inside,
        if_false]
      simp only [List.cons_append] at entered
      rw [entered]
      exact closes fuel stack i.after rest after

/-! ### Values -/

/-- A member is passed over if its value is. -/
theorem Member.Framed.enters {m : Member} (framed : m.Framed) (key : StringText m.key) {n : Nat}
    (skips : Skips m.value n) : Enters .object m.item.value (n + 1) := by
  intro fuel stack rest ends
  have passed : skipKey (m.item.value ++ rest) = .ok (m.afterColon ++ (m.value ++ rest)) := by
    simp (disch := decide) only [Member.item, List.cons_append, List.append_assoc, skipKey,
      skipSpace_of_not_space, skipString_stringText key, colon, skipSpace_blanks framed.afterKey]
  rw [← Nat.add_assoc, Bracket.item, skipFrom, passed]
  show skipFrom (fuel + n + 1) Bracket.list.item (.object :: stack) _ = _
  rw [skipFrom_item_blanks framed.afterColon]
  exact skips fuel (.object :: stack) rest ends

theorem skipScalar_number {cs rest : List Char} (h : NumberText cs) (ends : Ends rest) :
    skipScalar (cs ++ rest) = .ok rest := by
  have passed := skipNumber_numberText h ends
  obtain ⟨c, cs, rfl, first⟩ := h.exists_cons
  have starts : startsNumber c = true := by simpa [startsNumber] using first
  have others : c ≠ 'n' ∧ c ≠ 't' ∧ c ≠ 'f' ∧ c ≠ '"' := by
    refine ⟨?_, ?_, ?_, ?_⟩ <;> rintro rfl <;> simp at first
  rw [List.cons_append] at passed ⊢
  simp only [skipScalar, others, starts, passed, if_false, if_true]

/-- A value is passed over in less than two steps for each of its characters. -/
theorem exists_skips {v : List Char} (h : ValueText v) :
    ∃ n, n + 2 ≤ 2 * v.length ∧ Skips v n := by
  induction h with
  | null =>
    exact ⟨0, by decide, skips_scalar rfl (by decide) fun rest _ => word_append "ull".toList rest⟩
  | yes =>
    exact ⟨0, by decide, skips_scalar rfl (by decide) fun rest _ => word_append "rue".toList rest⟩
  | no =>
    exact ⟨0, by decide, skips_scalar rfl (by decide) fun rest _ => word_append "alse".toList rest⟩
  | number number =>
    have passed (rest : List Char) (ends : Ends rest) := skipScalar_number number ends
    obtain ⟨c, cs, rfl, plain, -⟩ := (ValueText.number number).exists_cons
    obtain ⟨_, _, same, first⟩ := number.exists_cons
    cases same
    refine ⟨0, ?_, skips_scalar plain ?_ passed⟩
    · rw [List.length_cons]
      omega
    · constructor <;> rintro rfl <;> simp at first
  | @string cs string =>
    refine ⟨0, ?_, skips_scalar rfl (by decide) fun rest _ => ?_⟩
    · rw [List.length_cons]
      omega
    · show skipString 0 (cs ++ ['"'] ++ rest) = .ok rest
      rw [List.append_assoc]
      exact skipString_stringText string rest
  | @list lead items blank framed values ih =>
    refine exists_skips_enclosed .list blank framed ?_ ?_
    · intro i there
      obtain ⟨c, cs, written, plain, inside, -⟩ := (values i there).exists_cons
      exact ⟨c, cs, written, plain, inside⟩
    · intro i there
      obtain ⟨n, short, skips⟩ := ih i there
      exact ⟨n, short, fun fuel stack => skips fuel (.list :: stack)⟩
  | @object lead members blank framed keys values ih =>
    refine exists_skips_enclosed .object blank ?_ ?_ ?_
    · exact List.forall_mem_map.2 fun m there => (framed m there).item
    · exact List.forall_mem_map.2 fun m _ => ⟨'"', _, rfl, rfl, by decide⟩
    · refine List.forall_mem_map.2 fun m there => ?_
      obtain ⟨n, short, skips⟩ := ih m there
      refine ⟨n + 1, ?_, (framed m there).enters (keys m there) skips⟩
      simp only [Member.item, List.length_cons, List.length_append]
      omega

/-- **Values passed over.** A value of any form is passed over, with the blanks before it and up to
what follows it. -/
theorem skipValue_append {v : List Char} (h : ValueText v) {b rest : List Char} (blank : Blanks b)
    (ends : Ends rest) : skipValue (b ++ (v ++ rest)) = .ok rest := by
  obtain ⟨n, short, skips⟩ := exists_skips h
  -- The steps beyond those for the value are at least one, to see that no bracket is open.
  obtain ⟨fuel, enough⟩ : ∃ k, 2 * (b ++ (v ++ rest)).length + 2 = k + 1 + (n + 1) := by
    refine ⟨2 * (b ++ (v ++ rest)).length - n, ?_⟩
    simp only [List.length_append]
    omega
  rw [skipValue, enough, ← Nat.add_assoc]
  show skipFrom _ Bracket.list.item [] _ = _
  rw [skipFrom_item_blanks blank, Nat.add_assoc]
  show skipFrom (fuel + 1 + (n + 1)) .value [] (v ++ rest) = _
  rw [skips _ _ _ ends]
  rfl

end SchedulerHost.Json
