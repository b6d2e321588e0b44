import Mathlib.Data.List.TakeWhile
import SchedulerHost.Text.Blank

/-!
# Trimming

What is left of a text without the white space at its ends, given by what it is and not by how it is
found.

* `Trimmed`: one text is what is left of another. **Trimming** (`trim_eq_iff`): there is always one
  such text, and only one, which is what trimming gives.
* `not_isBlank_of_isDigit`: white space is no digit.
-/

namespace SchedulerHost.Text

variable {raw text rest : List Char}

/-! ### White space and digits -/

/-- White space is no visible ASCII character. -/
theorem toNat_of_isBlank {c : Char} (blank : isBlank c = true) :
    c.toNat ≤ 0x20 ∨ 0x7F ≤ c.toNat := by
  simp only [isBlank, inRanges, blankTable, List.any_cons, List.any_nil, Bool.or_false,
    Bool.or_eq_true, CodeRange.holds, Bool.and_eq_true, decide_eq_true_eq] at blank
  omega

/-- No white space is a digit. -/
theorem not_isDigit_of_isBlank {c : Char} (blank : isBlank c = true) : c.isDigit = false := by
  have invisible := toNat_of_isBlank blank
  simp only [Char.isDigit, Bool.and_eq_false_iff, decide_eq_false_iff_not, ge_iff_le,
    UInt32.le_iff_toNat_le]
  change ¬48 ≤ c.toNat ∨ ¬c.toNat ≤ 57
  omega

theorem not_isBlank_of_isDigit {c : Char} (digit : c.isDigit = true) : isBlank c = false := by
  cases blank : isBlank c with
  | false => rfl
  | true => simp [not_isDigit_of_isBlank blank] at digit

/-! ### The ends of a text -/

/-- White space is taken up to the first character that is none. -/
theorem trimStart_append (blanks : ∀ c ∈ text, isBlank c = true)
    (stop : ∀ c ∈ rest.head?, isBlank c = false) : trimStart (text ++ rest) = rest := by
  rw [trimStart, List.dropWhile_append_of_pos blanks]
  cases rest with
  | nil => rfl
  | cons c rest => simp [stop c (by simp)]

/-- The end of a text is the beginning of it read backwards. -/
theorem trimEnd_eq (cs : List Char) : trimEnd cs = (trimStart cs.reverse).reverse := rfl

/-- White space is dropped back to the last character that is none. -/
theorem trimEnd_append (blanks : ∀ c ∈ rest, isBlank c = true)
    (stop : ∀ c ∈ text.getLast?, isBlank c = false) : trimEnd (text ++ rest) = text := by
  rw [trimEnd_eq, List.reverse_append, trimStart_append, List.reverse_reverse]
  · intro c there
    exact blanks c (List.mem_reverse.1 there)
  · rw [List.head?_reverse]
    exact stop

/-- What is taken away at the beginning of a text is white space. -/
theorem exists_blanks (cs : List Char) :
    ∃ blanks, (∀ c ∈ blanks, isBlank c = true) ∧ cs = blanks ++ trimStart cs :=
  ⟨cs.takeWhile isBlank, fun _ => List.mem_takeWhile_imp, List.takeWhile_append_dropWhile.symm⟩

/-- What is left begins with none. -/
theorem not_isBlank_of_head?_trimStart {cs : List Char} {c : Char}
    (first : c ∈ (trimStart cs).head?) : isBlank c = false := by
  have stop := List.head?_dropWhile_not isBlank cs
  rwa [show (cs.dropWhile isBlank).head? = some c from first] at stop

/-! ### Trimming -/

/-- One text is what is left of another without the white space at its ends. -/
structure Trimmed (raw text : List Char) : Prop where
  around : ∃ before after, raw = before ++ text ++ after ∧ (∀ c ∈ before, isBlank c = true) ∧
    ∀ c ∈ after, isBlank c = true
  first : ∀ c ∈ text.head?, isBlank c = false
  last : ∀ c ∈ text.getLast?, isBlank c = false

theorem trimmed_trim (raw : List Char) : Trimmed raw (trim raw) := by
  obtain ⟨before, blankBefore, split⟩ := exists_blanks raw
  obtain ⟨after, blankAfter, split'⟩ := exists_blanks (trimStart raw).reverse
  have rest : trimStart raw = trim raw ++ after.reverse := by
    have same := congrArg List.reverse split'
    rwa [List.reverse_reverse, List.reverse_append] at same
  refine ⟨⟨before, after.reverse, ?_, blankBefore, ?_⟩, ?_, ?_⟩
  · rw [List.append_assoc, ← rest]
    exact split
  · intro c there
    exact blankAfter c (List.mem_reverse.1 there)
  · intro c there
    have first : c ∈ (trimStart raw).head? := by
      rw [rest, List.head?_append, there]
      rfl
    exact not_isBlank_of_head?_trimStart first
  · intro c there
    rw [trim, trimEnd_eq, List.getLast?_reverse] at there
    exact not_isBlank_of_head?_trimStart there

theorem Trimmed.trim_eq (h : Trimmed raw text) : trim raw = text := by
  obtain ⟨before, after, rfl, blankBefore, blankAfter⟩ := h.around
  rw [trim, List.append_assoc]
  cases text with
  | nil =>
    -- There is white space only, and all of it is at the beginning.
    have blanks : ∀ c ∈ before ++ after, isBlank c = true := fun c there =>
      (List.mem_append.1 there).elim (blankBefore c) (blankAfter c)
    have nothing : trimStart (before ++ after) = [] := List.dropWhile_eq_nil_iff.2 blanks
    rw [List.nil_append, nothing]
    rfl
  | cons c text =>
    rw [trimStart_append blankBefore (by simpa using h.first), trimEnd_append blankAfter h.last]

/-- **Trimming.** One text is left of another without the white space at its ends, and it is what
trimming gives. -/
theorem trim_eq_iff : trim raw = text ↔ Trimmed raw text :=
  ⟨fun same => same ▸ trimmed_trim raw, Trimmed.trim_eq⟩

end SchedulerHost.Text
