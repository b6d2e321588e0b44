import SchedulerHost.Proofs.Time.Calendar
import SchedulerHost.Proofs.Time.Scanning

/-!
# What a text says about time

A text says a date and a time of day, and how far they are from universal time.

* `Spelling`, `Spells`: what a text says, and which texts say it.
* **Reading** (`parse_of_spells`, `spells_of_parse`): a text is read as what it says, and a text
  that is read says something.
* **Meaning** (`moment_of_instant`): what is read is the moment that the text denotes, without what
  is finer than a nanosecond.
* **Writing** (`parse_chars`): what is written of an instant is read as the instant.
-/

namespace SchedulerHost.Time

open Text (exists_blanks isBlank trimStart)

/-! ### Texts -/

/-- What a text says: a date and a time of day, and how far they are from universal time. -/
structure Spelling where
  date : Date
  hour : Nat
  minute : Nat
  second : Nat
  fraction : List Char
  offset : Int
  digits : ∀ c ∈ fraction, c.isDigit = true

open Instant in
/-- A text says something part by part. -/
inductive Spells : List Char → Spelling → Prop
  | intro {sp : Spelling} {yearText dash₁ monthText dash₂ dayText hourText colon₁ minuteText colon₂
      secondText fractionText blanks offsetText last : List Char} {mark : Char}
    (year : YearText yearText sp.date.year) (yearEnd : MarkText '-' dash₁)
    (month : PartText 1 12 monthText sp.date.month) (monthEnd : MarkText '-' dash₂)
    (day : PartText 1 31 dayText sp.date.day) (dayEnd : IsTimeMark mark)
    (hour : PartText 0 23 hourText sp.hour) (hourEnd : MarkText ':' colon₁)
    (minute : PartText 0 59 minuteText sp.minute) (minuteEnd : MarkText ':' colon₂)
    (second : PartText 0 60 secondText sp.second) (fraction : FractionText fractionText sp.fraction)
    (gap : Blanks blanks) (offset : OffsetText offsetText sp.offset) (rest : Blanks last) :
    Spells (yearText ++ (dash₁ ++ (monthText ++ (dash₂ ++ (dayText ++ mark :: (hourText ++
      (colon₁ ++ (minuteText ++ (colon₂ ++ (secondText ++ (fractionText ++ (blanks ++
        (offsetText ++ last))))))))))))) sp

namespace Spelling

/-- The instant of what a text says, if there is one. -/
def instant (sp : Spelling) : Except TimeFault Instant :=
  if Instant.inYears sp.date then
    Instant.ofLocal sp.date sp.hour sp.minute sp.second (Instant.nanos sp.fraction) sp.offset
  else .error .outOfRange

/-- The point of time that a text denotes, to the last digit. -/
def moment (sp : Spelling) : Moment where
  minute := sp.date.number * 1440 + sp.hour * 60 + sp.minute - sp.offset
  second := sp.second + Instant.digitsValue sp.fraction / 10 ^ sp.fraction.length

end Spelling

namespace Instant

variable {cs : List Char} {sp : Spelling} {t : Instant}

theorem of?_date (d : Date) : Date.of? d.year d.month d.day = some d := by
  rw [Date.of?, dif_pos ⟨d.month_range, d.day_range⟩]

/-- **Reading.** A text is read as what it says. -/
theorem parse_of_spells (spells : Spells cs sp) : parse cs = sp.instant := by
  obtain ⟨year, yearEnd, month, monthEnd, day, dayEnd, hour, hourEnd, minute, minuteEnd, second,
    fraction, gap, offset, rest⟩ := spells
  have afterFraction (tail : List Char) := stops_fraction gap offset tail
  have afterSecond (tail : List Char) :=
    fraction.stops fun c first => (afterFraction tail c first).1
  simp only [parse, bind, Except.bind,
    scanYear_of_yearText year (yearEnd.stops rfl), scanMark_of_markText yearEnd rfl,
    scanPart_of_partText month (monthEnd.stops rfl), scanMark_of_markText monthEnd rfl,
    scanPart_of_partText day dayEnd.stops, scanTimeMark_of_isTimeMark dayEnd,
    scanPart_of_partText hour (hourEnd.stops rfl), scanMark_of_markText hourEnd rfl,
    scanPart_of_partText minute (minuteEnd.stops rfl), scanMark_of_markText minuteEnd rfl,
    scanPart_of_partText second (afterSecond _),
    scanFraction_of_fractionText fraction (afterFraction _),
    trimStart_of_offsetText gap offset, scanOffset_of_offsetText offset, trimStart_blanks rest,
    of?_date]
  rfl

/-- A text that is read as an instant says something. -/
theorem spells_of_parse (h : parse cs = .ok t) : ∃ sp, Spells cs sp ∧ sp.instant = .ok t := by
  unfold parse at h
  obtain ⟨⟨year, cs₁⟩, read, h₁⟩ := exists_of_bind h
  obtain ⟨yearText, split₁, yearPart⟩ := yearText_of_scanYear read
  obtain ⟨cs₂, read, h₂⟩ := exists_of_bind h₁
  obtain ⟨dash₁, split₂, yearEnd⟩ := markText_of_scanMark read
  obtain ⟨⟨month, cs₃⟩, read, h₃⟩ := exists_of_bind h₂
  obtain ⟨monthText, split₃, monthPart⟩ := partText_of_scanPart read
  obtain ⟨cs₄, read, h₄⟩ := exists_of_bind h₃
  obtain ⟨dash₂, split₄, monthEnd⟩ := markText_of_scanMark read
  obtain ⟨⟨day, cs₅⟩, read, h₅⟩ := exists_of_bind h₄
  obtain ⟨dayText, split₅, dayPart⟩ := partText_of_scanPart read
  obtain ⟨cs₆, read, h₆⟩ := exists_of_bind h₅
  obtain ⟨mark, split₆, dayEnd⟩ := isTimeMark_of_scanTimeMark read
  obtain ⟨⟨hour, cs₇⟩, read, h₇⟩ := exists_of_bind h₆
  obtain ⟨hourText, split₇, hourPart⟩ := partText_of_scanPart read
  obtain ⟨cs₈, read, h₈⟩ := exists_of_bind h₇
  obtain ⟨colon₁, split₈, hourEnd⟩ := markText_of_scanMark read
  obtain ⟨⟨minute, cs₉⟩, read, h₉⟩ := exists_of_bind h₈
  obtain ⟨minuteText, split₉, minutePart⟩ := partText_of_scanPart read
  obtain ⟨cs₁₀, read, h₁₀⟩ := exists_of_bind h₉
  obtain ⟨colon₂, split₁₀, minuteEnd⟩ := markText_of_scanMark read
  obtain ⟨⟨second, cs₁₁⟩, read, h₁₁⟩ := exists_of_bind h₁₀
  obtain ⟨secondText, split₁₁, secondPart⟩ := partText_of_scanPart read
  obtain ⟨⟨nano, cs₁₂⟩, read, h₁₂⟩ := exists_of_bind h₁₁
  obtain ⟨fractionText, fraction, split₁₂, fractionPart, counted⟩ :=
    fractionText_of_scanFraction read
  obtain ⟨blanks, gap, split₁₃⟩ := exists_blanks cs₁₂
  obtain ⟨⟨offset, cs₁₄⟩, read, h₁₃⟩ := exists_of_bind h₁₂
  obtain ⟨offsetText, split₁₄, offsetPart⟩ := offsetText_of_scanOffset read
  dsimp only at split₁ split₃ split₅ split₇ split₉ split₁₁ split₁₂ split₁₄ h₁₃
  split_ifs at h₁₃ with left
  split at h₁₃
  · cases h₁₃
  · next d found =>
    obtain ⟨rfl, rfl, rfl⟩ : d.year = year ∧ d.month = month ∧ d.day = day := by
      unfold Date.of? at found
      split_ifs at found
      cases found
      exact ⟨rfl, rfl, rfl⟩
    let sp : Spelling := ⟨d, hour, minute, second, fraction, offset, fractionPart.digits⟩
    refine ⟨sp, ?_, ?_⟩
    · rw [split₁, split₂, split₃, split₄, split₅, split₆, split₇, split₈, split₉, split₁₀, split₁₁,
        split₁₂, split₁₃, split₁₄]
      exact .intro yearPart yearEnd monthPart monthEnd dayPart dayEnd hourPart hourEnd minutePart
        minuteEnd secondPart fractionPart gap offsetPart (blanks_of_trimStart left)
    · rw [← counted] at h₁₃
      exact h₁₃

/-! ### Meaning -/

/-- The first nine digits of a fraction are its nanoseconds. -/
theorem nanos_eq {ds : List Char} (digits : ∀ c ∈ ds, c.isDigit = true) :
    digitsValue ds * 10 ^ 9 / 10 ^ ds.length = nanos ds := by
  rcases Nat.le_total ds.length 9 with short | long
  · have power : 10 ^ 9 = 10 ^ (9 - ds.length) * 10 ^ ds.length := by
      rw [← Nat.pow_add, Nat.sub_add_cancel short]
    rw [nanos, List.take_of_length_le short, power, ← Nat.mul_assoc,
      Nat.mul_div_cancel _ (Nat.pow_pos (by decide))]
  · have count : (ds.take 9).length = 9 := List.length_take_of_le long
    have power : 10 ^ ds.length = 10 ^ (ds.drop 9).length * 10 ^ 9 := by
      rw [← Nat.pow_add, List.length_drop, Nat.sub_add_cancel long]
    have parts := digitsValue_append (ds.take 9) (ds.drop 9)
    have beyond : digitsValue (ds.drop 9) < 10 ^ (ds.drop 9).length :=
      digitsValue_lt fun c there => digits c (List.mem_of_mem_drop there)
    rw [List.take_append_drop] at parts
    rw [power, Nat.mul_div_mul_right _ _ (by decide), parts,
      Nat.mul_add_div (Nat.pow_pos (by decide)), Nat.div_eq_of_lt beyond, nanos, count]
    exact (Nat.mul_one _).symm

/-- The nanoseconds of a fraction are the whole nanoseconds in it. -/
theorem floor_fraction {ds : List Char} (digits : ∀ c ∈ ds, c.isDigit = true) :
    ⌊(digitsValue ds / 10 ^ ds.length : Rat) * 1000000000⌋ = nanos ds := by
  have scaled : (digitsValue ds / 10 ^ ds.length : Rat) * 1000000000 =
      ((digitsValue ds * 10 ^ 9 : Nat) : Rat) / ((10 ^ ds.length : Nat) : Rat) := by
    push_cast
    ring
  rw [scaled, Rat.floor_natCast_div_natCast, ← nanos_eq digits]
  rfl

/-- What is finer than a nanosecond is finer than a second. -/
theorem cut_moment_eq (sp : Spelling) :
    sp.moment.cut = ⟨sp.moment.minute, sp.second + nanos sp.fraction / 1000000000⟩ := by
  have whole : sp.moment.second * 1000000000 = ((sp.second * 1000000000 : Nat) : Rat) +
      (digitsValue sp.fraction / 10 ^ sp.fraction.length : Rat) * 1000000000 := by
    push_cast
    rw [Spelling.moment, add_mul]
  rw [Moment.cut, whole, Int.floor_natCast_add, floor_fraction sp.digits]
  push_cast
  rw [add_div, mul_div_cancel_right₀ _ (by norm_num)]

/-- Nine digits are whole nanoseconds. -/
theorem cut_moment_of_short (short : sp.fraction.length ≤ 9) : sp.moment.cut = sp.moment := by
  have power : (1000000000 : Rat) = 10 ^ (9 - sp.fraction.length) * 10 ^ sp.fraction.length := by
    rw [← pow_add, Nat.sub_add_cancel short]
    norm_num
  have count : (nanos sp.fraction : Rat) =
      digitsValue sp.fraction * 10 ^ (9 - sp.fraction.length) := by
    rw [nanos, List.take_of_length_le short]
    simp
  rw [cut_moment_eq, count, power]
  simp only [Spelling.moment, Moment.mk.injEq, true_and, add_right_inj]
  field_simp

section LocalTime

variable {hour minute second nano : Nat}
  (fits : hour < 24 ∧ minute < 60 ∧ second ≤ 60 ∧ nano < 1000000000)

include fits

theorem minute_lt_of_fits : hour * 60 + minute < 1440 := by omega

theorem second_lt_of_fits : (if second = 60 then 59 else second) < 60 := by split <;> omega

theorem nano_lt_of_fits : (if second = 60 then nano + 1000000000 else nano) < 2000000000 := by
  split <;> omega

theorem leap_of_fits (late : 1000000000 ≤ if second = 60 then nano + 1000000000 else nano) :
    (if second = 60 then 59 else second) = 59 := by
  split
  · rfl
  · next ordinary =>
    rw [if_neg ordinary] at late
    omega

end LocalTime

/-- A local time as if it were universal time. A second of 60 is a leap second. -/
def localTime (d : Date) (hour minute second nano : Nat)
    (fits : hour < 24 ∧ minute < 60 ∧ second ≤ 60 ∧ nano < 1000000000) : Instant :=
  ⟨d, hour * 60 + minute, if second = 60 then 59 else second,
    if second = 60 then nano + 1000000000 else nano, minute_lt_of_fits fits,
    second_lt_of_fits fits, nano_lt_of_fits fits, leap_of_fits fits⟩

/-- The instant of a local time, its offset taken off. -/
def fromLocal (t : Instant) (offset : Int) (less : offset.natAbs < 1440) : Instant :=
  if 0 ≤ offset then t.earlier offset.natAbs less else t.later offset.natAbs less

/-- A local time is an instant when its parts fit and the year is within bounds. -/
theorem ofLocal_eq (d : Date) {hour minute second nano : Nat} {offset : Int}
    (fits : hour < 24 ∧ minute < 60 ∧ second ≤ 60 ∧ nano < 1000000000)
    (less : offset.natAbs < 1440) :
    ofLocal d hour minute second nano offset =
      if inYears (fromLocal (localTime d hour minute second nano fits) offset less).date then
        .ok (fromLocal (localTime d hour minute second nano fits) offset less)
      else .error .impossible := by
  simp only [ofLocal, dif_pos fits, dif_pos less]
  rfl

/-- What a local time can come to. -/
theorem exists_of_ofLocal {d : Date} {hour minute second nano : Nat} {offset : Int}
    (h : ofLocal d hour minute second nano offset = .ok t) :
    ∃ fits less, t = fromLocal (localTime d hour minute second nano fits) offset less ∧
      inYears t.date = true := by
  by_cases fits : hour < 24 ∧ minute < 60 ∧ second ≤ 60 ∧ nano < 1000000000
  · by_cases less : offset.natAbs < 1440
    · rw [ofLocal_eq d fits less] at h
      split_ifs at h with years
      cases h
      exact ⟨fits, less, rfl, years⟩
    · simp only [ofLocal, dif_pos fits, dif_neg less] at h
      cases h
  · simp only [ofLocal, dif_neg fits] at h
    cases h

/-- A local time denotes what its parts say. -/
theorem moment_localTime (d : Date) {hour minute second nano : Nat}
    (fits : hour < 24 ∧ minute < 60 ∧ second ≤ 60 ∧ nano < 1000000000) :
    (localTime d hour minute second nano fits).moment =
      ⟨d.number * 1440 + (hour * 60 + minute), second + nano / 1000000000⟩ := by
  simp only [moment, localTime, Moment.mk.injEq]
  refine ⟨by push_cast; ring, ?_⟩
  split
  · next leap =>
    subst leap
    push_cast
    ring
  · rfl

/-- To take an offset off leads back by as many minutes. -/
theorem moment_fromLocal (t : Instant) {offset : Int} (less : offset.natAbs < 1440) :
    (fromLocal t offset less).moment = { t.moment with minute := t.moment.minute - offset } := by
  unfold fromLocal
  split
  · next east =>
    rw [moment_earlier, Int.natAbs_of_nonneg east]
  · next west =>
    rw [moment_later, Int.ofNat_natAbs_of_nonpos (by omega), sub_eq_add_neg]

/-- **Meaning.** What is read is the moment that the text denotes,
without what is finer than a nanosecond. -/
theorem moment_of_instant (h : sp.instant = .ok t) : t.moment = sp.moment.cut := by
  unfold Spelling.instant at h
  split_ifs at h
  obtain ⟨fits, less, rfl, -⟩ := exists_of_ofLocal h
  rw [moment_fromLocal, moment_localTime, cut_moment_eq]
  simp only [Spelling.moment, Moment.mk.injEq, and_true]
  ring

/-! ### Writing -/

theorem numeral_padded (width n : Nat) : Numeral (padded width n) n where
  ne_nil := by
    have some : Numeric.digits n ≠ [] := Nat.toDigits_ne_nil
    simp [padded, some]
  digits := by
    intro c there
    rcases List.mem_append.1 there with zero | digit
    · rw [List.eq_of_mem_replicate zero]
      rfl
    · exact Nat.isDigit_of_mem_toDigits (by decide) (by decide) digit
  value := by
    rw [digitsValue_eq, padded, Nat.ofDigitChars_append, Nat.ofDigitChars_replicate_zero,
      Nat.mul_zero]
    exact Nat.ofDigitChars_ten_toDigits

/-- A number that fits is written in as many digits as there are places. -/
theorem length_padded {width n : Nat} (positive : 0 < width) (fits : n < 10 ^ width) :
    (padded width n).length = width := by
  have short : (Numeric.digits n).length ≤ width :=
    (Nat.length_toDigits_le_iff (by decide) positive).2 fits
  simp only [padded, List.length_append, List.length_replicate]
  omega

theorem blanks_nil : Blanks [] := by
  simp [Blanks]

theorem partText_padded {low high n : Nat} (least : low ≤ n) (most : n ≤ high)
    (fits : n < 10 ^ 2) : PartText low high (padded 2 n) n := by
  have short := (length_padded (by decide) fits).le
  have text := PartText.intro blanks_nil (numeral_padded 2 n) short least most
  rwa [List.nil_append] at text

theorem markText_singleton (mark : Char) : MarkText mark [mark] :=
  .intro blanks_nil

theorem inYears_iff {d : Date} : inYears d = true ↔ -262143 ≤ d.year ∧ d.year ≤ 262142 := by
  simp only [inYears, Bool.and_eq_true, decide_eq_true_eq]
  rfl

/-- What is written of a year spells it. -/
theorem yearText_yearChars {d : Date} (years : inYears d = true) :
    YearText (yearChars d.year) d.year := by
  have wide : (262143 : Int) < 2 ^ 31 := by decide
  obtain ⟨first, last⟩ := inYears_iff.1 years
  unfold yearChars
  split
  · next plain =>
    have numeral := numeral_padded 4 d.year.toNat
    have short : (padded 4 d.year.toNat).length = 4 := length_padded (by decide) (by omega)
    have text := YearText.plain blanks_nil numeral short.le
    rwa [Int.toNat_of_nonneg plain.1] at text
  · next signed =>
    have numeral := numeral_padded 4 d.year.natAbs
    split
    · next before =>
      have text := YearText.before blanks_nil numeral (by omega)
      rwa [Int.ofNat_natAbs_of_nonpos before.le, neg_neg] at text
    · next after =>
      have text := YearText.after blanks_nil numeral (by omega)
      rwa [Int.natAbs_of_nonneg (by omega)] at text

/-- A fraction is written with all its digits. -/
theorem exists_fraction {nano : Nat} (fits : nano < 1000000000) :
    ∃ ds, FractionText (fractionChars nano) ds ∧ nanos ds = nano ∧ ds.length ≤ 9 := by
  have written (width n : Nat) (positive : 0 < width) (short : width ≤ 9) (fits : n < 10 ^ width) :
      FractionText ('.' :: padded width n) (padded width n) ∧
        nanos (padded width n) = n * 10 ^ (9 - width) ∧ (padded width n).length ≤ 9 := by
    have numeral := numeral_padded width n
    have length := length_padded positive fits
    refine ⟨.some numeral.ne_nil numeral.digits, ?_, by omega⟩
    rw [nanos, List.take_of_length_le (by omega), numeral.value, length]
  unfold fractionChars
  split_ifs with none millis micros
  · exact ⟨[], .none, by rw [none]; rfl, by decide⟩
  · obtain ⟨text, value, short⟩ := written 3 (nano / 1000000) (by decide) (by decide) (by omega)
    exact ⟨_, text, by omega, short⟩
  · obtain ⟨text, value, short⟩ := written 6 (nano / 1000) (by decide) (by decide) (by omega)
    exact ⟨_, text, by omega, short⟩
  · obtain ⟨text, value, short⟩ := written 9 nano (by decide) (by decide) (by omega)
    exact ⟨_, text, by omega, short⟩

/-- The second as it is written: a leap second is the second 60. -/
def shownSecond (t : Instant) : Nat := if 1000000000 ≤ t.nano then 60 else t.second

def shownNano (t : Instant) : Nat := if 1000000000 ≤ t.nano then t.nano - 1000000000 else t.nano

theorem shownNano_lt (t : Instant) : t.shownNano < 1000000000 := by
  have := t.nano_lt
  unfold shownNano
  split <;> omega

theorem shownSecond_le (t : Instant) : t.shownSecond ≤ 60 := by
  have := t.second_lt
  unfold shownSecond
  split <;> omega

/-- What is shown of an instant is all of it. -/
theorem localTime_shown (t : Instant)
    (fits : t.minute / 60 < 24 ∧ t.minute % 60 < 60 ∧ t.shownSecond ≤ 60 ∧
      t.shownNano < 1000000000) :
    localTime t.date (t.minute / 60) (t.minute % 60) t.shownSecond t.shownNano fits = t := by
  obtain ⟨date, minute, second, nano, minute_lt, second_lt, nano_lt, leap⟩ := t
  have whole : minute / 60 * 60 + minute % 60 = minute := by omega
  by_cases late : 1000000000 ≤ nano
  · have last : 59 = second := (leap late).symm
    have back : nano - 1000000000 + 1000000000 = nano := by omega
    simp [localTime, shownSecond, shownNano, late, whole, last, back]
  · have early : second ≠ 60 := by omega
    simp [localTime, shownSecond, shownNano, late, whole, early]

/-- An instant is written by its parts in universal time. -/
theorem exists_spelling (t : Instant) (years : inYears t.date = true) :
    ∃ sp, Spells t.chars sp ∧ sp.instant = .ok t ∧ sp.fraction.length ≤ 9 := by
  have bound := t.minute_lt
  have monthText : PartText 1 12 (padded 2 t.date.month) t.date.month := by
    have := t.date.month_range
    apply partText_padded <;> omega
  have dayText : PartText 1 31 (padded 2 t.date.day) t.date.day := by
    have := t.date.day_range
    have := daysIn_le t.date.year t.date.month
    apply partText_padded <;> omega
  have hourText : PartText 0 23 (padded 2 (t.minute / 60)) (t.minute / 60) := by
    apply partText_padded <;> omega
  have minuteText : PartText 0 59 (padded 2 (t.minute % 60)) (t.minute % 60) := by
    apply partText_padded <;> omega
  have secondText : PartText 0 60 (padded 2 t.shownSecond) t.shownSecond := by
    have := t.shownSecond_le
    apply partText_padded <;> omega
  obtain ⟨ds, fraction, value, short⟩ := exists_fraction t.shownNano_lt
  have fits : t.minute / 60 < 24 ∧ t.minute % 60 < 60 ∧ t.shownSecond ≤ 60 ∧
      t.shownNano < 1000000000 :=
    ⟨by omega, by omega, t.shownSecond_le, t.shownNano_lt⟩
  let sp : Spelling :=
    ⟨t.date, t.minute / 60, t.minute % 60, t.shownSecond, ds, 0, fraction.digits⟩
  refine ⟨sp, ?_, ?_, short⟩
  · have whole : Spells _ sp :=
      .intro (yearText_yearChars years) (markText_singleton '-') monthText (markText_singleton '-')
        dayText (.inr (.inl rfl)) hourText (markText_singleton ':') minuteText
        (markText_singleton ':') secondText fraction blanks_nil (.zero (.inl rfl)) blanks_nil
    have written : t.chars = yearChars t.date.year ++ (['-'] ++ (padded 2 t.date.month ++ (['-'] ++
        (padded 2 t.date.day ++ 'T' :: (padded 2 (t.minute / 60) ++ ([':'] ++
          (padded 2 (t.minute % 60) ++ ([':'] ++ (padded 2 t.shownSecond ++
            (fractionChars t.shownNano ++ ([] ++ (['Z'] ++ []))))))))))))  := by
      simp only [chars, List.append_assoc, List.cons_append, List.nil_append, List.append_nil]
      rfl
    rw [written]
    exact whole
  · have less : (0 : Int).natAbs < 1440 := by decide
    have same : fromLocal t 0 less = t := by
      simp [fromLocal, earlier]
    have local_ := ofLocal_eq t.date fits less
    rw [localTime_shown, same, if_pos years] at local_
    simp only [Spelling.instant, sp, if_pos years, value, local_]

/-- **Writing.** What is written of an instant is read as the instant. -/
theorem parse_chars (t : Instant) (years : inYears t.date = true) : parse t.chars = .ok t := by
  obtain ⟨sp, spells, instant, -⟩ := exists_spelling t years
  rw [parse_of_spells spells, instant]

/-! ### Denoting -/

def Denotes (cs : List Char) (m : Moment) : Prop := ∃ sp, Spells cs sp ∧ sp.moment = m

/-- A text that is read denotes a moment, and is read as that, cut to whole nanoseconds. -/
theorem denotes_of_parse (h : parse cs = .ok t) :
    (∃ m, Denotes cs m) ∧ ∀ m, Denotes cs m → t.moment = m.cut := by
  obtain ⟨sp, spells, -⟩ := spells_of_parse h
  refine ⟨⟨sp.moment, sp, spells, rfl⟩, ?_⟩
  rintro m ⟨sp, spells, rfl⟩
  rw [parse_of_spells spells] at h
  exact moment_of_instant h

/-- What is written of an instant denotes its moment. -/
theorem denotes_chars (t : Instant) (years : inYears t.date = true) : Denotes t.chars t.moment := by
  obtain ⟨sp, spells, instant, short⟩ := exists_spelling t years
  refine ⟨sp, spells, ?_⟩
  rw [moment_of_instant instant, cut_moment_of_short short]

/-- What is read is in the years that instants may have. -/
theorem inYears_of_parse (h : parse cs = .ok t) : inYears t.date = true := by
  obtain ⟨sp, -, instant⟩ := spells_of_parse h
  unfold Spelling.instant at instant
  split_ifs at instant
  obtain ⟨-, -, -, years⟩ := exists_of_ofLocal instant
  exact years

end Instant

end SchedulerHost.Time
