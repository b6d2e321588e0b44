import Mathlib.Algebra.Ring.Int.Defs
import SchedulerHost.Json.Typed
import SchedulerHost.Json.Value
import SchedulerHost.Proofs.Numeric.Numerals

/-!
# Reading what is written

The readers take a value off the front of a text; the compact text of a value is what they take.

* `Ends`: what may follow a value. A number goes on with digits, a point or an exponent, so these
  may not.
* `Decodes`: a reader takes the compact text of a value, and gives what was written.
* **Strings** (`stringBody_quote`): every text comes back, whatever of it was escaped.
* **Numbers** (`number_decimal`): every integer of 64 bits comes back.
* **Values** (`decodes_string`, `decodes_integer`, `decodes_some`, `decodes_list`).
-/

namespace SchedulerHost.Json

open Numeric (IntRange decimal digits exists_digits isDigit_of_mem_digits le_ofDigitChars)

/-- What may follow a value: nothing, or a character with which no number goes on. -/
def Ends (rest : List Char) : Prop :=
  ∀ c ∈ rest.head?, c.isDigit = false ∧ c ≠ '.' ∧ c ≠ 'e' ∧ c ≠ 'E'

/-- A reader takes the compact text of a value, and gives what was written. -/
def Decodes {α : Type} (read : Reader α) (v : Value) (a : α) : Prop :=
  ∀ rest, Ends rest → read (v.chars ++ rest) = .ok (a, rest)

theorem ends_nil : Ends [] := by
  simp [Ends]

theorem ends_comma (rest : List Char) : Ends (',' :: rest) := by
  simp [Ends]

theorem ends_bracket (rest : List Char) : Ends (']' :: rest) := by
  simp [Ends]

theorem ends_brace (rest : List Char) : Ends ('\x7d' :: rest) := by
  simp [Ends]

theorem Decodes.map {α β : Type} {read : Reader α} {v : Value} {a : α} (h : Decodes read v a)
    (f : α → β) : Decodes (read.map f) v (f a) :=
  fun rest ends => Reader.map_ok f read _ rest a (h rest ends)

/-! ### Strings -/

theorem hexValue?_hexDigit : ∀ n < 16, hexValue? (hexDigit n) = some n := by
  decide

/-- The number of a control character is written with two digits, and is no half of a pair. -/
theorem fourHex?_control {c : Char} (control : c.toNat < 0x20) (rest : List Char) :
    fourHex? ('0' :: '0' :: hexDigit (c.toNat / 16) :: hexDigit (c.toNat % 16) :: rest) =
      some c.toNat ∧ isHighSurrogate c.toNat = false ∧ isLowSurrogate c.toNat = false := by
  have high := hexValue?_hexDigit (c.toNat / 16) (by omega)
  have low := hexValue?_hexDigit (c.toNat % 16) (by omega)
  have zero : hexValue? '0' = some 0 := by decide
  have number : c.toNat / 16 * 16 + c.toNat % 16 = c.toNat := by omega
  refine ⟨by simp [fourHex?, zero, high, low, number], ?_⟩
  simp only [isLowSurrogate, isHighSurrogate, Bool.and_eq_false_iff, decide_eq_false_iff_not]
  omega

/-- A control character is written by its number. -/
theorem escapeSequence_control {c : Char} (control : c.toNat < 0x20) (rest : List Char) :
    escapeSequence
        ('u' :: '0' :: '0' :: hexDigit (c.toNat / 16) :: hexDigit (c.toNat % 16) :: rest) =
      .ok (c, 5) := by
  obtain ⟨digits, high, low⟩ := fourHex?_control control rest
  simp [escapeSequence, simpleEscape?, fourHex, digits, high, low, Char.ofNat_toNat, bind,
    Except.bind]

/-- The three ways to write a character: by a letter that stands for it, by its number, as it is. -/
theorem escape_cases (c : Char) :
    (∃ letter, escape c = ['\\', letter] ∧ simpleEscape? letter = some c) ∨
      (c.toNat < 0x20 ∧ escape c =
        ['\\', 'u', '0', '0', hexDigit (c.toNat / 16), hexDigit (c.toNat % 16)]) ∨
      (escape c = [c] ∧ c ≠ '"' ∧ c ≠ '\\' ∧ ¬c.toNat < 0x20) := by
  unfold escape
  iterate 7
    split
    · next same => exact .inl ⟨_, rfl, by rw [same]; rfl⟩
  split
  · next control => exact .inr (.inl ⟨control, rfl⟩)
  · next quote backslash _ _ _ _ _ plain => exact .inr (.inr ⟨rfl, quote, backslash, plain⟩)

/-- One character is read as it was written. -/
theorem stringChars_escape (c : Char) {rest tail chars : List Char}
    (h : stringChars 0 rest = .ok (chars, tail)) :
    stringChars 0 (escape c ++ rest) = .ok (c :: chars, tail) := by
  rcases escape_cases c with ⟨letter, written, stands⟩ | ⟨control, written⟩ |
    ⟨written, quote, backslash, plain⟩
  · simp [written, stringChars, escapeSequence, stands, h, bind, Except.bind, pure, Except.pure]
  · simp [written, stringChars, escapeSequence_control control, h, bind, Except.bind, pure,
      Except.pure]
  · simp [written, stringChars, quote, backslash, plain, h, bind, Except.bind, pure, Except.pure]

theorem stringChars_escaped (cs rest : List Char) :
    stringChars 0 (cs.flatMap escape ++ '"' :: rest) = .ok (cs, rest) := by
  induction cs with
  | nil => simp [stringChars]
  | cons c cs ih =>
    rw [List.flatMap_cons, List.append_assoc]
    exact stringChars_escape c ih

/-- **Strings.** A string that was written between quotes is read as it was,
after its opening quote. -/
theorem stringBody_quote (s : String) (rest : List Char) :
    stringBody (s.toList.flatMap escape ++ '"' :: rest) = .ok (s, rest) := by
  simp [stringBody, stringChars_escaped]

theorem quote_append (s : String) (rest : List Char) :
    quote s ++ rest = '"' :: (s.toList.flatMap escape ++ '"' :: rest) := by
  simp [quote]

/-- A string of which something is made is read as what it was made for. -/
theorem decodes_text {α : Type} {decode : String → Except Cause α} (expected : String) {s : String}
    {a : α} (h : decode s = .ok a) : Decodes (Reader.text expected decode) (.str s) a := by
  intro rest _
  simp (disch := decide) only [Value.chars, quote_append, Reader.text, skipSpace_of_not_space,
    stringBody_quote, h]

/-- Every text is read as it is written. -/
theorem decodes_string (s : String) : Decodes Reader.string (.str s) s :=
  decodes_text _ rfl

/-! ### Numbers -/

theorem digitValue_eq (c : Char) : digitValue c = c.toNat - '0'.toNat := rfl

/-- Digits that fit are all taken up. -/
theorem absorb_of_fits {ds : List Char} {n : Nat}
    (fits : Nat.ofDigitChars 10 ds n ≤ maxSignificand) :
    absorb n ds = (Nat.ofDigitChars 10 ds n, ds.length) := by
  induction ds generalizing n with
  | nil => rfl
  | cons c ds ih =>
    rw [Nat.ofDigitChars_cons, Nat.mul_comm 10 n] at fits ⊢
    have step : n * 10 + digitValue c ≤ maxSignificand :=
      Nat.le_trans (le_ofDigitChars ds _) fits
    rw [absorb, if_pos step, digitValue_eq, ih fits]
    rfl

/-- What may follow a run of digits: nothing, or a character that is no digit. -/
def Halts (rest : List Char) : Prop := ∀ c ∈ rest.head?, c.isDigit = false

/-- Where a value may end, a run of digits ends. -/
theorem Ends.halts {rest : List Char} (ends : Ends rest) : Halts rest :=
  fun c first => (ends c first).1

/-- A run of digits is taken as a whole. -/
theorem Halts.takeWhile_digits {rest ds : List Char} (halts : Halts rest)
    (all : ∀ c ∈ ds, c.isDigit = true) : (ds ++ rest).takeWhile Char.isDigit = ds := by
  rw [List.takeWhile_append_of_pos all]
  cases rest with
  | nil => simp
  | cons c rest => simp [halts c (by simp)]

theorem Halts.dropWhile_digits {rest ds : List Char} (halts : Halts rest)
    (all : ∀ c ∈ ds, c.isDigit = true) : (ds ++ rest).dropWhile Char.isDigit = rest := by
  rw [List.dropWhile_append_of_pos all]
  cases rest with
  | nil => simp
  | cons c rest => simp [halts c (by simp)]

/-- A number that does not go on is an integer. -/
theorem afterInteger_of_ends {rest : List Char} (ends : Ends rest) (negative : Bool)
    (significand : Nat) :
    afterInteger negative significand 0 rest = wholeNumber negative significand rest := by
  unfold afterInteger
  split
  · exact absurd rfl (ends '.' (by simp)).2.1
  · exact absurd rfl (ends 'e' (by simp)).2.2.1
  · exact absurd rfl (ends 'E' (by simp)).2.2.2
  · simp

/-- Only zero begins with the digit zero. -/
theorem head?_digits {n : Nat} (positive : 0 < n) : (digits n).head? ≠ some '0' := by
  induction n using Nat.strongRecOn with
  | ind n ih =>
    rw [digits, Nat.toDigits_eq_if (by decide)]
    split
    · simp only [List.head?_cons, ne_eq, Option.some.injEq, Nat.digitChar_eq_zero]
      omega
    · have shorter := ih (n / 10) (by omega) (by omega)
      rw [List.head?_append]
      cases first : (Nat.toDigits 10 (n / 10)).head? with
      | none => exact absurd (List.head?_eq_none_iff.1 first) Nat.toDigits_ne_nil
      | some c =>
        rw [digits, first] at shorter
        exact shorter

/-- The digits of a natural number that fits 64 bits are read as the number. -/
theorem unsignedNumber_digits {n : Nat} (fits : n ≤ maxSignificand) (negative : Bool)
    {rest : List Char} (ends : Ends rest) :
    unsignedNumber negative (digits n ++ rest) = wholeNumber negative n rest := by
  rcases Nat.eq_zero_or_pos n with rfl | positive
  · have zero : digits 0 = ['0'] := rfl
    rw [zero, List.singleton_append]
    cases rest with
    | nil => exact afterInteger_of_ends ends negative 0
    | cons c rest =>
      simp only [unsignedNumber, if_true, (ends c (by simp)).1, Bool.false_eq_true, if_false]
      exact afterInteger_of_ends ends negative 0
  · have all : ∀ c ∈ digits n, c.isDigit = true := fun c => isDigit_of_mem_digits
    have value : Nat.ofDigitChars 10 (digits n) 0 = n := Nat.ofDigitChars_ten_toDigits
    have taken : absorb 0 (digits n) = (n, (digits n).length) := by
      rw [absorb_of_fits (by omega), value]
    have run := ends.halts.takeWhile_digits all
    have left := ends.halts.dropWhile_digits all
    have nonzero := head?_digits positive
    cases written : digits n with
    | nil => exact absurd written Nat.toDigits_ne_nil
    | cons c cs =>
      rw [written] at all taken run left nonzero
      have digit := all c List.mem_cons_self
      have other : c ≠ '0' := by simpa using nonzero
      rw [List.cons_append] at run left ⊢
      simp only [unsignedNumber, other, digit, if_false, if_true, run, left, taken, Nat.sub_self]
      exact afterInteger_of_ends ends negative n

/-- **Numbers.** Every integer that fits 64 bits, with a sign or without,
is read as it was written. -/
theorem number_decimal {n : Int} (low : -(2 ^ 63) ≤ n) (high : n ≤ maxSignificand)
    {rest : List Char} (ends : Ends rest) :
    number (decimal n ++ rest) = .ok (.integer n, rest) := by
  cases n with
  | ofNat n =>
    obtain ⟨c, cs, written, digit⟩ := exists_digits n
    have sign : number (c :: (cs ++ rest)) = unsignedNumber false (c :: (cs ++ rest)) := by
      unfold number
      split
      · simp_all
      · rfl
    have read := unsignedNumber_digits (n := n) (by simpa using high) false ends
    rw [written, List.cons_append] at read
    rw [decimal, written, List.cons_append, sign, read]
    simp [wholeNumber]
  | negSucc n =>
    have fits : n + 1 ≤ Nat.pow 2 63 := by
      change n + 1 ≤ 2 ^ 63
      omega
    have wide : Nat.pow 2 63 ≤ maxSignificand := by decide
    rw [decimal, List.cons_append, number, unsignedNumber_digits (by omega) true ends]
    simp only [wholeNumber, if_true, Nat.succ_pos, fits, and_self, Int.negSucc_eq]
    simp

/-! ### How values begin -/

theorem exists_decimal (n : Int) :
    ∃ c cs, decimal n = c :: cs ∧ (c = '-' ∨ c.isDigit = true) := by
  cases n with
  | ofNat n =>
    obtain ⟨c, cs, written, digit⟩ := exists_digits n
    exact ⟨c, cs, written, .inr digit⟩
  | negSucc n => exact ⟨'-', digits (n + 1), rfl, .inl rfl⟩

theorem not_isDigit_of_isSpace {c : Char} (space : isSpace c = true) :
    c ≠ '-' ∧ c.isDigit = false := by
  simp only [isSpace, Bool.or_eq_true, decide_eq_true_eq] at space
  rcases space with ((rfl | rfl) | rfl) | rfl <;> decide

/-- A value begins with a character of its own: no blank, and no closing bracket. -/
theorem Value.exists_chars (v : Value) :
    ∃ c cs, v.chars = c :: cs ∧ isSpace c = false ∧ c ≠ ']' := by
  cases v with
  | null => exact ⟨'n', "ull".toList, rfl, rfl, by decide⟩
  | bool b =>
    cases b with
    | true => exact ⟨'t', "rue".toList, rfl, rfl, by decide⟩
    | false => exact ⟨'f', "alse".toList, rfl, rfl, by decide⟩
  | int n =>
    obtain ⟨c, cs, written, first⟩ := exists_decimal n
    refine ⟨c, cs, by rw [Value.chars, written], ?_, ?_⟩
    · cases space : isSpace c with
      | false => rfl
      | true =>
        obtain ⟨unsigned, digit⟩ := not_isDigit_of_isSpace space
        simp [unsigned, digit] at first
    · rintro rfl
      simp at first
  | str s =>
    exact ⟨'"', s.toList.flatMap escape ++ ['"'], by simp [Value.chars, quote], rfl, by decide⟩
  | arr items => exact ⟨'[', itemChars true items, by rw [Value.chars], rfl, by decide⟩
  | obj members => exact ⟨'\x7b', memberChars true members, by rw [Value.chars], rfl, by decide⟩

/-! ### Values -/

theorem decodes_bool (b : Bool) : Decodes Reader.bool (.bool b) b := by
  intro rest _
  cases b with
  | true =>
    show Reader.bool ('t' :: ("rue".toList ++ rest)) = _
    simp (disch := decide) only [Reader.bool, skipSpace_of_not_space, word_append]
    rfl
  | false =>
    show Reader.bool ('f' :: ("alse".toList ++ rest)) = _
    simp (disch := decide) only [Reader.bool, skipSpace_of_not_space, word_append]
    rfl

/-- An integer of the range is read, if it fits 64 bits. -/
theorem decodes_integer {range : IntRange} {n : Int} (holds : range.holds n = true)
    (low : -(2 ^ 63) ≤ n) (high : n ≤ maxSignificand) (expected : String) :
    Decodes (Reader.integer range expected) (.int n) n := by
  intro rest ends
  have read := number_decimal low high ends
  obtain ⟨c, cs, written, first⟩ := exists_decimal n
  have starts : startsNumber c = true := by simpa [startsNumber] using first
  have start : skipSpace (c :: (cs ++ rest)) = c :: (cs ++ rest) := by
    apply skipSpace_of_not_space
    cases space : isSpace c with
    | false => rfl
    | true =>
      obtain ⟨unsigned, digit⟩ := not_isDigit_of_isSpace space
      simp [unsigned, digit] at first
  rw [written, List.cons_append] at read
  rw [Value.chars, written, List.cons_append]
  simp only [Reader.integer, start, starts, if_true, read, holds]

theorem decodes_uint32 (n : UInt32) : Decodes Reader.uint32 (.int n.toNat) n := by
  have bound : n.toNat < 4294967296 := n.toNat_lt
  have bounds : (0 : Int) ≤ n.toNat ∧ (n.toNat : Int) ≤ 4294967295 := by omega
  have holds : (IntRange.unsigned 32).holds n.toNat = true := IntRange.holds_iff.2 bounds
  have low : (-9223372036854775808 : Int) ≤ n.toNat := by omega
  have high : (n.toNat : Int) ≤ 18446744073709551615 := by omega
  have read := (decodes_integer holds low high "u32").map
    (UInt32.ofNat ·.toNat)
  rw [Int.toNat_natCast, UInt32.ofNat_toNat] at read
  exact read

theorem decodes_uint64 (n : UInt64) : Decodes Reader.uint64 (.int n.toNat) n := by
  have bound : n.toNat < 18446744073709551616 := n.toNat_lt
  have bounds : (0 : Int) ≤ n.toNat ∧ (n.toNat : Int) ≤ 18446744073709551615 := by omega
  have holds : (IntRange.unsigned 64).holds n.toNat = true := IntRange.holds_iff.2 bounds
  have low : (-9223372036854775808 : Int) ≤ n.toNat := by omega
  have read := (decodes_integer holds low bounds.2 "u64").map
    (UInt64.ofNat ·.toNat)
  rw [Int.toNat_natCast, UInt64.ofNat_toNat] at read
  exact read

theorem decodes_int64 (n : Int64) : Decodes Reader.int64 (.int n.toInt) n := by
  have low : -9223372036854775808 ≤ n.toInt := n.le_toInt
  have bound : n.toInt < 9223372036854775808 := n.toInt_lt
  have bounds : -9223372036854775808 ≤ n.toInt ∧ n.toInt ≤ 9223372036854775807 := by omega
  have holds : (IntRange.signed 64).holds n.toInt = true := IntRange.holds_iff.2 bounds
  have high : n.toInt ≤ 18446744073709551615 := by omega
  have read := (decodes_integer holds low high "i64").map
    Int64.ofInt
  rw [Int64.ofInt_toInt] at read
  exact read

/-- An optional value is written as null if there is none. -/
theorem decodes_none {α : Type} (read : Reader α) : Decodes read.optional .null none := by
  intro rest _
  show read.optional ('n' :: ("ull".toList ++ rest)) = _
  simp (disch := decide) only [Reader.optional, skipSpace_of_not_space, word_append]
  rfl

/-- A value that does not begin as null does may be optional. -/
theorem decodes_some {α : Type} {read : Reader α} {v : Value} {a : α} (h : Decodes read v a)
    (other : v.chars.head? ≠ some 'n') : Decodes read.optional v (some a) := by
  intro rest ends
  obtain ⟨c, cs, written, plain, -⟩ := v.exists_chars
  have start : skipSpace (c :: (cs ++ rest)) = c :: (cs ++ rest) := skipSpace_of_not_space plain
  have first : c ≠ 'n' := by simpa [written] using other
  have read' := h.map some rest ends
  rw [written, List.cons_append] at read' ⊢
  unfold Reader.optional
  rw [start]
  split
  · simp_all
  · exact read'

/-! ### Lists -/

/-- The items of a list are read up to the closing bracket. -/
theorem items_itemChars {α : Type} {read : Reader α} {encode : α → Value} {as : List α}
    (all : ∀ a ∈ as, Decodes read (encode a) a) {fuel : Nat} (enough : as.length < fuel)
    (first : Bool) (rest : List Char) :
    Reader.items read fuel first (itemChars first (as.map encode) ++ rest) =
      .ok (as, ']' :: rest) := by
  induction as generalizing fuel first with
  | nil =>
    obtain ⟨fuel, rfl⟩ := Nat.exists_eq_add_of_lt enough
    simp (disch := decide) [Reader.items, itemChars, Reader.nextItem, skipSpace_of_not_space, bind,
      Except.bind, pure, Except.pure]
  | cons a as ih =>
    obtain ⟨fuel, rfl⟩ : ∃ n, fuel = n + 1 := ⟨fuel - 1, by omega⟩
    obtain ⟨c, cs, written, plain, inside⟩ := (encode a).exists_chars
    have later := ih (fun b there => all b (List.mem_cons_of_mem _ there))
      (by simpa using enough) false
    have ends : Ends (itemChars false (as.map encode) ++ rest) := by
      cases as with
      | nil => exact ends_bracket rest
      | cons b as =>
        rw [List.map_cons, itemChars]
        exact ends_comma _
    have here := all a List.mem_cons_self _ ends
    rw [written] at here
    have more : Reader.nextItem first
        (itemChars first ((a :: as).map encode) ++ rest) =
          .ok (true, c :: cs ++ (itemChars false (as.map encode) ++ rest)) := by
      have start (tail : List Char) : skipSpace (c :: tail) = c :: tail :=
        skipSpace_of_not_space plain
      have separator (tail : List Char) : skipSpace (',' :: tail) = ',' :: tail :=
        skipSpace_of_not_space (by decide)
      rw [List.map_cons, itemChars, written, List.append_assoc, List.append_assoc]
      cases first with
      | true => simp [comma, Reader.nextItem, start, inside]
      | false => simp [comma, Reader.nextItem, separator, start, inside]
    simp only [Reader.items, more, bind, Except.bind, if_true, here, later, pure, Except.pure]

/-- Every item takes a character, so there is fuel for all. -/
theorem length_le_itemChars (first : Bool) (vs : List Value) :
    vs.length ≤ (itemChars first vs).length := by
  induction vs generalizing first with
  | nil => exact Nat.zero_le _
  | cons v vs ih =>
    obtain ⟨c, cs, written, -⟩ := v.exists_chars
    have later := ih false
    simp only [itemChars, written, List.length_append, List.length_cons]
    omega

/-- **Lists.** A list is read if its items are. -/
theorem decodes_list {α : Type} {read : Reader α} {encode : α → Value} {as : List α}
    (all : ∀ a ∈ as, Decodes read (encode a) a) :
    Decodes read.list (.arr (as.map encode)) as := by
  intro rest _
  have enough : as.length < (itemChars true (as.map encode) ++ rest).length + 1 := by
    have := length_le_itemChars true (as.map encode)
    simp only [List.length_append, List.length_map] at this ⊢
    omega
  have inside := items_itemChars all enough true rest
  simp (disch := decide) only [Value.chars, List.cons_append, Reader.list, skipSpace_of_not_space,
    Reader.enclosed, inside, Reader.closeList]

end SchedulerHost.Json
