import SchedulerHost.Proofs.Json.Skipping

/-!
# Reading that does not depend on what follows

What is made of a string or a number is settled by its text, whatever stands behind it: if it is
read, what follows is left, and if it is refused, it is refused everywhere.

* `Definite`: what is read off a text is the same whatever follows; one thing may be read after
  the other (`Definite.bind`).
* **Strings** (`definite_stringBody`): half of a surrogate pair that stays alone is refused; what
  stands for a text is read as the text (`Spells.stringBody`).
* **Numbers** (`definite_number`), in whatever notation, in range or beyond.
-/

namespace SchedulerHost.Json

variable {α β : Type}

/-! ### Definite reading -/

/-- What is read, if anything is, is the same whatever follows, and leaves what follows. -/
def Definite (read : List Char → Except Fault (α × List Char)) : Prop :=
  ∃ o : Option α, ∀ rest, Ends rest → (read rest).toOption = o.map (·, rest)

theorem toOption_bind {ε : Type} (x : Except ε α) (f : α → Except ε β) :
    (x.bind f).toOption = x.toOption.bind fun a => (f a).toOption := by
  cases x <;> rfl

theorem toOption_eq_some_iff {ε : Type} {x : Except ε α} {a : α} :
    x.toOption = some a ↔ x = .ok a := by
  cases x <;> simp [Except.toOption]

theorem toOption_eq_none_iff {ε : Type} {x : Except ε α} :
    x.toOption = none ↔ ∃ fault, x = .error fault := by
  cases x <;> simp [Except.toOption]

namespace Definite

variable {read : List Char → Except Fault (α × List Char)}
  {other : List Char → Except Fault (β × List Char)}

theorem ok (a : α) (h : ∀ rest, Ends rest → read rest = .ok (a, rest)) : Definite read :=
  ⟨some a, fun rest ends => by simp [h rest ends, Except.toOption]⟩

theorem error (h : ∀ rest, Ends rest → (read rest).toOption = none) : Definite read :=
  ⟨none, h⟩

/-- Either it is read, and what follows is left, or it is refused. -/
theorem cases (definite : Definite read) :
    (∃ a, ∀ rest, Ends rest → read rest = .ok (a, rest)) ∨
      ∀ rest, Ends rest → ∃ fault, read rest = .error fault := by
  obtain ⟨o, reads⟩ := definite
  cases o with
  | none => exact .inr fun rest ends => toOption_eq_none_iff.1 (reads rest ends)
  | some a => exact .inl ⟨a, fun rest ends => toOption_eq_some_iff.1 (reads rest ends)⟩

theorem congr (definite : Definite read) {same : List Char → Except Fault (α × List Char)}
    (h : ∀ rest, Ends rest → same rest = read rest) : Definite same := by
  obtain ⟨o, reads⟩ := definite
  exact ⟨o, fun rest ends => by rw [h rest ends, reads rest ends]⟩

/-- One thing is read after the other. -/
theorem bind (definite : Definite read) (next : α → List Char → Except Fault (β × List Char))
    (others : ∀ a, Definite (next a))
    (h : ∀ rest, Ends rest → other rest = (read rest).bind fun p => next p.1 p.2) :
    Definite other := by
  obtain ⟨o, reads⟩ := definite
  cases o with
  | none => exact .error fun rest ends => by rw [h rest ends, toOption_bind, reads rest ends]; rfl
  | some a =>
    obtain ⟨o, reads'⟩ := others a
    refine ⟨o, fun rest ends => ?_⟩
    rw [h rest ends, toOption_bind, reads rest ends]
    exact reads' rest ends

/-- Something is made of what is read. -/
theorem map (definite : Definite read) (f : α → β)
    (h : ∀ rest, Ends rest → other rest = (read rest).bind fun p => .ok (f p.1, p.2)) :
    Definite other :=
  definite.bind (fun a rest => .ok (f a, rest)) (fun a => .ok (f a) fun _ _ => rfl) h

end Definite

/-! ### Strings -/

theorem stringChars_plain {c : Char} (quote : c ≠ '"') (backslash : c ≠ '\\')
    (control : ¬c.toNat < 0x20) (tail : List Char) :
    stringChars 0 (c :: tail) = (stringChars 0 tail).bind fun p => .ok (c :: p.1, p.2) := by
  rw [stringChars, if_neg quote, if_neg backslash, if_neg control]
  rfl

theorem stringChars_letter {c stands : Char} (known : simpleEscape? c = some stands)
    (tail : List Char) :
    stringChars 0 ('\\' :: c :: tail) =
      (stringChars 0 tail).bind fun p => .ok (stands :: p.1, p.2) := by
  simp [stringChars, escapeSequence, known, bind, Except.bind, pure, Except.pure]

section Numbered

variable {w x y z w' x' y' z' : Char} {n m : Nat}

/-- An escape by number is read as the sequence it begins. -/
theorem stringChars_numbered (tail : List Char) :
    stringChars 0 ('\\' :: 'u' :: w :: x :: y :: z :: tail) =
      (escapeSequence ('u' :: w :: x :: y :: z :: tail)).bind fun p =>
        (stringChars p.2 ('u' :: w :: x :: y :: z :: tail)).bind fun q =>
          .ok (p.1 :: q.1, q.2) := by
  rw [stringChars, if_neg (by decide), if_pos rfl]
  rfl

theorem escapeSequence_numbered (digits : fourHex? [w, x, y, z] = some n) (tail : List Char) :
    escapeSequence ('u' :: w :: x :: y :: z :: tail) =
      if isLowSurrogate n then
        .error (faultAfterFour .loneSurrogate (w :: x :: y :: z :: tail))
      else if isHighSurrogate n then lowHalf n tail else .ok (Char.ofNat n, 5) := by
  have unknown : simpleEscape? 'u' = none := by decide
  simp [escapeSequence, unknown, fourHex_append digits, bind, Except.bind]

theorem stringChars_number (digits : fourHex? [w, x, y, z] = some n)
    (high : isHighSurrogate n = false) (low : isLowSurrogate n = false) (tail : List Char) :
    stringChars 0 ('\\' :: 'u' :: w :: x :: y :: z :: tail) =
      (stringChars 0 tail).bind fun p => .ok (Char.ofNat n :: p.1, p.2) := by
  simp only [stringChars_numbered, escapeSequence_numbered digits, high, low, Bool.false_eq_true,
    if_false]
  rfl

theorem isLowSurrogate_of_high (high : isHighSurrogate n = true) : isLowSurrogate n = false := by
  simp only [isHighSurrogate, isLowSurrogate, Bool.and_eq_true, decide_eq_true_eq,
    Bool.and_eq_false_iff, decide_eq_false_iff_not] at high ⊢
  omega

theorem stringChars_pair (digits : fourHex? [w, x, y, z] = some n)
    (high : isHighSurrogate n = true) (digits' : fourHex? [w', x', y', z'] = some m)
    (low : isLowSurrogate m = true) (tail : List Char) :
    stringChars 0 ('\\' :: 'u' :: w :: x :: y :: z :: '\\' :: 'u' :: w' :: x' :: y' :: z' :: tail) =
      (stringChars 0 tail).bind fun p => .ok (pairedChar n m :: p.1, p.2) := by
  have paired : lowHalf n ('\\' :: 'u' :: w' :: x' :: y' :: z' :: tail) =
      .ok (pairedChar n m, 11) := by
    simp [lowHalf, fourHex_append digits', low, bind, Except.bind]
  simp only [stringChars_numbered, escapeSequence_numbered digits, high,
    isLowSurrogate_of_high high, Bool.false_eq_true, if_false, if_true, paired]
  simp only [Except.bind, stringChars]

/-- The first half of a pair wants the second. -/
theorem stringChars_lone (digits : fourHex? [w, x, y, z] = some n)
    (high : isHighSurrogate n = true) {tail : List Char}
    (alone : (lowHalf n tail).toOption = none) :
    (stringChars 0 ('\\' :: 'u' :: w :: x :: y :: z :: tail)).toOption = none := by
  simp [stringChars_numbered, escapeSequence_numbered digits, high, isLowSurrogate_of_high high,
    toOption_bind, alone]

/-- An escape by number is definite if what follows is, unless it wants its other half. -/
theorem definite_numbered {cs : List Char}
    (plain : Definite fun rest => stringChars 0 (cs ++ '"' :: rest))
    (hex : ∀ c ∈ [w, x, y, z], (hexValue? c).isSome)
    (paired : ∀ n, isHighSurrogate n = true → fourHex? [w, x, y, z] = some n → Definite fun rest =>
      stringChars 0 ('\\' :: 'u' :: w :: x :: y :: z :: (cs ++ '"' :: rest))) :
    Definite fun rest =>
      stringChars 0 ('\\' :: 'u' :: w :: x :: y :: z :: (cs ++ '"' :: rest)) := by
  obtain ⟨n, digits⟩ := exists_fourHex hex
  cases low : isLowSurrogate n with
  | true =>
    refine .error fun rest _ => ?_
    rw [stringChars_numbered, escapeSequence_numbered digits, low]
    rfl
  | false =>
    cases high : isHighSurrogate n with
    | true => exact paired n high digits
    | false =>
      exact plain.map (Char.ofNat n :: ·) fun rest _ => stringChars_number digits high low _

end Numbered

/-- What stands between quotes is read as the text it spells. -/
theorem Spells.stringChars {cs s : List Char} (h : Spells cs s) (rest : List Char) :
    stringChars 0 (cs ++ '"' :: rest) = .ok (s, rest) := by
  induction h with
  | nil => simp [Json.stringChars]
  | plain quote backslash control _ ih =>
    rw [List.cons_append, stringChars_plain quote backslash control, ih]
    rfl
  | letter known _ ih =>
    rw [List.cons_append, List.cons_append, stringChars_letter known, ih]
    rfl
  | number digits high low _ ih =>
    simp only [List.cons_append, stringChars_number digits high low, ih]
    rfl
  | pair digits high digits' low _ ih =>
    simp only [List.cons_append, stringChars_pair digits high digits' low, ih]
    rfl

/-- What stands for a text is read as the text. -/
theorem Spells.stringBody {cs : List Char} {s : String} (h : Spells cs s.toList)
    (rest : List Char) :
    stringBody (cs ++ '"' :: rest) = .ok (s, rest) := by
  simp [Json.stringBody, h.stringChars rest]

/-- What stands between quotes is one text, or none, and so it is after an escape by number, which
may want its other half. -/
theorem definite_stringChars {cs : List Char} (h : StringText cs) :
    (Definite fun rest => stringChars 0 (cs ++ '"' :: rest)) ∧
      ∀ w x y z, (∀ c ∈ [w, x, y, z], (hexValue? c).isSome) → Definite fun rest =>
        stringChars 0 ('\\' :: 'u' :: w :: x :: y :: z :: (cs ++ '"' :: rest)) := by
  induction h with
  | nil =>
    have ended : Definite fun rest => stringChars 0 ([] ++ '"' :: rest) :=
      .ok [] fun rest _ => by simp [stringChars]
    refine ⟨ended, fun w x y z hex => definite_numbered ended hex fun n high digits => ?_⟩
    exact .error fun rest _ => stringChars_lone digits high rfl
  | @plain c cs quote backslash control _ ih =>
    have read : Definite fun rest => stringChars 0 (c :: cs ++ '"' :: rest) :=
      ih.1.map (c :: ·) fun rest _ => stringChars_plain quote backslash control _
    refine ⟨read, fun w x y z hex => definite_numbered read hex fun n high digits => ?_⟩
    refine .error fun rest _ => stringChars_lone digits high ?_
    simp [lowHalf, backslash, Except.toOption]
  | @letter c cs known _ ih =>
    obtain ⟨stands, stood⟩ := Option.isSome_iff_exists.1 (isSome_simpleEscape? known)
    have read : Definite fun rest => stringChars 0 ('\\' :: c :: cs ++ '"' :: rest) :=
      ih.1.map (stands :: ·) fun rest _ => stringChars_letter stood _
    refine ⟨read, fun w x y z hex => definite_numbered read hex fun n high digits => ?_⟩
    have other : c ≠ 'u' := by
      rintro rfl
      exact absurd known (by decide)
    refine .error fun rest _ => stringChars_lone digits high ?_
    simp [lowHalf, other, Except.toOption]
  | @number w' x' y' z' cs hex' _ ih =>
    have read := ih.2 w' x' y' z' hex'
    refine ⟨read, fun w x y z hex => definite_numbered read hex fun n high digits => ?_⟩
    obtain ⟨m, digits'⟩ := exists_fourHex hex'
    cases low : isLowSurrogate m with
    | true =>
      exact ih.1.map (pairedChar n m :: ·) fun rest _ => stringChars_pair digits high digits' low _
    | false =>
      refine .error fun rest _ => stringChars_lone digits high ?_
      simp [lowHalf, fourHex_append digits', low, bind, Except.bind, Except.toOption]

/-- What may stand between quotes is read in one way, or refused, whatever follows. -/
theorem definite_stringBody {cs : List Char} (h : StringText cs) :
    Definite fun rest => stringBody (cs ++ '"' :: rest) := by
  refine (definite_stringChars h).1.map String.ofList fun rest _ => ?_
  rw [stringBody]
  cases stringChars 0 (cs ++ '"' :: rest) <;> rfl

/-! ### Numbers -/

theorem definite_scaled (negative : Bool) (significand : Nat) (e : Int) :
    Definite (scaled negative significand e) := by
  unfold scaled
  cases (Numeric.Binary64.ofNat? significand).bind (scale (e.natAbs / 308 + 1) · e) with
  | none => exact .error fun _ _ => rfl
  | some x => exact .ok _ fun _ _ => rfl

/-- The digits of an exponent are counted to their end, or up to the one at which
they are too many. -/
theorem exponentDigits_append {ds : List Char} (all : ∀ c ∈ ds, c.isDigit = true) (e : Nat) :
    (∃ e', ∀ rest, Halts rest → exponentDigits e (ds ++ rest) = .ok (e', rest)) ∨
      ∃ ds', (∀ c ∈ ds', c.isDigit = true) ∧
        ∀ rest, exponentDigits e (ds ++ rest) = .error (ds' ++ rest) := by
  induction ds generalizing e with
  | nil =>
    refine .inl ⟨e, fun rest halts => ?_⟩
    cases rest with
    | nil => rfl
    | cons c rest => simp [exponentDigits, halts c (by simp)]
  | cons c ds ih =>
    have digit := all c List.mem_cons_self
    have later (d : Char) (there : d ∈ ds) := all d (List.mem_cons_of_mem _ there)
    by_cases fits : e * 10 + digitValue c ≤ maxExponent
    · simpa only [List.cons_append, exponentDigits, digit, fits, if_true] using
        ih later (e * 10 + digitValue c)
    · exact .inr ⟨ds, later, fun rest => by simp [exponentDigits, digit, fits]⟩

theorem definite_exponentPart (negative : Bool) (significand : Nat) (places : Int)
    {sign ds : List Char} (signed : sign = [] ∨ sign = ['+'] ∨ sign = ['-']) (all : Digits ds) :
    Definite fun rest => exponentPart negative significand places (sign ++ ds ++ rest) := by
  obtain ⟨positive, taken⟩ := exists_exponentSign signed all
  obtain ⟨some, digits⟩ := all
  obtain ⟨d, ds, rfl⟩ := List.exists_cons_of_ne_nil some
  have digit := digits d List.mem_cons_self
  simp only [exponentPart, taken, List.cons_append, digit, if_true]
  rcases exponentDigits_append (fun c there => digits c (List.mem_cons_of_mem _ there))
    (digitValue d) with ⟨e, counted⟩ | ⟨ds', more, counted⟩
  · refine (definite_scaled negative significand
      (if positive then places + e else places - e)).congr fun rest ends => ?_
    rw [counted rest ends.halts]
  · simp only [counted]
    by_cases beyond : significand ≠ 0 ∧ positive = true
    · exact .error fun rest _ => by rw [if_pos beyond]; rfl
    · refine .ok (.fraction negative .zero) fun rest ends => ?_
      rw [if_neg beyond, ends.halts.dropWhile_digits more]

theorem definite_afterDigits (negative : Bool) (significand : Nat) (places : Int)
    {exponent : List Char} (e : ExponentText exponent) :
    Definite fun rest => afterDigits negative significand places (exponent ++ rest) := by
  cases e with
  | none =>
    refine (definite_scaled negative significand places).congr fun rest ends => ?_
    show afterDigits negative significand places rest = _
    unfold afterDigits
    split
    · exact absurd rfl (ends 'e' (by simp)).2.2.1
    · exact absurd rfl (ends 'E' (by simp)).2.2.2
    · rfl
  | digits marked signed all =>
    rcases marked with rfl | rfl <;>
      exact definite_exponentPart negative significand places signed all

theorem definite_wholeNumber (negative : Bool) (significand : Nat) :
    Definite (wholeNumber negative significand) := by
  unfold wholeNumber
  split
  · split
    · exact .ok _ fun _ _ => rfl
    · exact definite_scaled _ _ _
  · exact .ok _ fun _ _ => rfl

theorem definite_afterInteger (negative : Bool) (significand places : Nat)
    {fraction exponent : List Char} (f : FractionText fraction) (e : ExponentText exponent) :
    Definite fun rest =>
      afterInteger negative significand places (fraction ++ (exponent ++ rest)) := by
  cases f with
  | none =>
    cases e with
    | none =>
      have integer : Definite fun rest => if places = 0 then
          wholeNumber negative significand rest else scaled negative significand places rest := by
        split
        · exact definite_wholeNumber _ _
        · exact definite_scaled _ _ _
      refine integer.congr fun rest ends => ?_
      show afterInteger negative significand places rest = _
      unfold afterInteger
      split
      · exact absurd rfl (ends '.' (by simp)).2.1
      · exact absurd rfl (ends 'e' (by simp)).2.2.1
      · exact absurd rfl (ends 'E' (by simp)).2.2.2
      · rfl
    | digits marked signed all =>
      rcases marked with rfl | rfl <;>
        exact definite_exponentPart negative significand places signed all
  | @digits ds all =>
    obtain ⟨some, digits⟩ := all
    refine (definite_afterDigits negative (absorb significand ds).1
      (places - (absorb significand ds).2) e).congr fun rest ends => ?_
    have halts := halts_exponent e ends
    show fractionPart negative significand places (ds ++ (exponent ++ rest)) = _
    unfold fractionPart
    rw [halts.takeWhile_digits digits, halts.dropWhile_digits digits]
    obtain ⟨d, ds, rfl⟩ := List.exists_cons_of_ne_nil some
    rfl

theorem definite_unsignedNumber (negative : Bool) {cs : List Char} (h : MagnitudeText cs) :
    Definite fun rest => unsignedNumber negative (cs ++ rest) := by
  obtain @⟨whole, fraction, exponent, w, f, e⟩ := h
  cases w with
  | zero =>
    refine (definite_afterInteger negative 0 0 f e).congr fun rest ends => ?_
    have halts := halts_fraction f (halts_exponent e ends)
    rw [List.append_assoc, List.append_assoc]
    revert halts
    generalize fraction ++ (exponent ++ rest) = tail
    intro halts
    cases tail with
    | nil => rfl
    | cons d tail =>
      simp only [List.cons_append, List.nil_append, unsignedNumber, if_true, halts d (by simp),
        Bool.false_eq_true, if_false]
  | @digits c cs nonzero all =>
    refine (definite_afterInteger negative (absorb 0 (c :: cs)).1
      ((c :: cs).length - (absorb 0 (c :: cs)).2) f e).congr fun rest ends => ?_
    have halts := halts_fraction f (halts_exponent e ends)
    have taken := halts.takeWhile_digits all.2
    have left := halts.dropWhile_digits all.2
    rw [List.cons_append] at taken left
    simp only [List.cons_append, List.append_assoc, unsignedNumber, nonzero, if_false,
      all.2 c List.mem_cons_self, if_true, taken, left]

/-- What is read of a number does not hang on what follows it. -/
theorem definite_number {cs : List Char} (h : NumberText cs) :
    Definite fun rest => number (cs ++ rest) := by
  cases h with
  | positive magnitude =>
    refine (definite_unsignedNumber false magnitude).congr fun rest _ => ?_
    obtain ⟨c, cs, rfl, digit⟩ := magnitude.exists_cons
    unfold number
    split
    · simp_all
    · rfl
  | negative magnitude => exact definite_unsignedNumber true magnitude

end SchedulerHost.Json
