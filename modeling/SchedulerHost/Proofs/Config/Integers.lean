import SchedulerHost.Config.Settings
import SchedulerHost.Error
import SchedulerHost.Proofs.Numeric.Numerals
import SchedulerHost.Proofs.Text.Trimming

/-!
# Integers among the settings

A setting that is to be an integer is read whole, without the white space around it, and is never
cut down to fit.

* `IntegerType`: the integers that a setting may be; `IntegerType.holds_iff_exists`: the range of
  each is that of its values.
* **Integers in range** (`Settings.parse_integer`): which texts give an integer, and what is wrong
  with the others.
-/

namespace SchedulerHost.Config

open Numeric (IntRange padded)

/-- A type of integers that a setting may be. -/
inductive IntegerType where
  | uint8
  | uint32
  | uint64
  | int64

namespace IntegerType

abbrev Value : IntegerType → Type
  | uint8 => UInt8
  | uint32 => UInt32
  | uint64 => UInt64
  | int64 => Int64

def decoder : (t : IntegerType) → Decoder t.Value
  | uint8 => .uint8
  | uint32 => .uint32
  | uint64 => .uint64
  | int64 => .int64

def range : IntegerType → IntRange
  | uint8 => .unsigned 8
  | uint32 => .unsigned 32
  | uint64 => .unsigned 64
  | int64 => .signed 64

/-- The integer that a value stands for. -/
def toInt : (t : IntegerType) → t.Value → Int
  | uint8, n => n.toNat
  | uint32, n => n.toNat
  | uint64, n => n.toNat
  | int64, n => Int64.toInt n

/-- The value that stands for an integer of the range. -/
def ofInt : (t : IntegerType) → Int → t.Value
  | uint8, n => .ofNat n.toNat
  | uint32, n => .ofNat n.toNat
  | uint64, n => .ofNat n.toNat
  | int64, n => .ofInt n

variable {t : IntegerType}

/-- The decoders of integers are one, with the range and the conversion of a type. -/
theorem decoder_eq (t : IntegerType) : t.decoder = (Decoder.integer t.range).map t.ofInt := by
  cases t <;> rfl

theorem holds_zero (t : IntegerType) : t.range.holds 0 = true := by
  cases t <;> decide

theorem holds_toInt (n : t.Value) : t.range.holds (t.toInt n) = true := by
  rw [IntRange.holds_iff]
  cases t with
  | uint8 =>
    have bound : n.toNat < 256 := UInt8.toNat_lt n
    exact ⟨Int.natCast_nonneg _, show (n.toNat : Int) ≤ 255 by omega⟩
  | uint32 =>
    have bound : n.toNat < 4294967296 := UInt32.toNat_lt n
    exact ⟨Int.natCast_nonneg _, show (n.toNat : Int) ≤ 4294967295 by omega⟩
  | uint64 =>
    have bound : n.toNat < 18446744073709551616 := UInt64.toNat_lt n
    exact ⟨Int.natCast_nonneg _, show (n.toNat : Int) ≤ 18446744073709551615 by omega⟩
  | int64 => exact ⟨Int64.le_toInt n, Int.le_sub_one_of_lt (Int64.toInt_lt n)⟩

theorem ofInt_toInt (n : t.Value) : t.ofInt (t.toInt n) = n := by
  cases t with
  | uint8 => simp [ofInt, toInt]
  | uint32 => simp [ofInt, toInt]
  | uint64 => simp [ofInt, toInt]
  | int64 => exact Int64.ofInt_toInt n

theorem toInt_ofInt {k : Int} (holds : t.range.holds k = true) : t.toInt (t.ofInt k) = k := by
  obtain ⟨low, high⟩ := IntRange.holds_iff.1 holds
  have whole (positive : 0 ≤ k) : (k.toNat : Int) = k := Int.toNat_of_nonneg positive
  cases t with
  | uint8 =>
    change 0 ≤ k at low
    change k ≤ 255 at high
    have fits : k.toNat < UInt8.size := by simp only [UInt8.size]; omega
    rw [ofInt, toInt, UInt8.toNat_ofNat_of_lt' fits, whole low]
  | uint32 =>
    change 0 ≤ k at low
    change k ≤ 4294967295 at high
    have fits : k.toNat < UInt32.size := by simp only [UInt32.size]; omega
    rw [ofInt, toInt, UInt32.toNat_ofNat_of_lt' fits, whole low]
  | uint64 =>
    change 0 ≤ k at low
    change k ≤ 18446744073709551615 at high
    have fits : k.toNat < UInt64.size := by simp only [UInt64.size]; omega
    rw [ofInt, toInt, UInt64.toNat_ofNat_of_lt' fits, whole low]
  | int64 => exact Int64.toInt_ofInt_of_le low (Int.lt_of_le_sub_one high)

/-- The range of a type is that of its values. -/
theorem holds_iff_exists {k : Int} : t.range.holds k = true ↔ ∃ n, t.toInt n = k :=
  ⟨fun holds => ⟨t.ofInt k, toInt_ofInt holds⟩, fun ⟨n, same⟩ => same ▸ holds_toInt n⟩

end IntegerType

variable {t : IntegerType}

/-! ### Reading a setting -/

/-- A text is decoded as a value exactly when it is a numeral of it. -/
theorem IntegerType.decoder_eq_ok_iff {text : List Char} {n : t.Value} :
    t.decoder text = .ok n ↔ t.range.Spells text (t.toInt n) := by
  rw [t.decoder_eq, Decoder.map, Decoder.integer, ← IntRange.parse_eq_ok_iff t.holds_zero]
  cases read : t.range.parse text with
  | error fault => simp
  | ok k =>
    have holds : t.range.holds k = true := by
      obtain ⟨fits, -⟩ := (IntRange.parse_eq_ok_iff t.holds_zero).1 read
      exact fits.within
    simp only [Except.ok.injEq]
    constructor
    · rintro rfl
      exact (toInt_ofInt holds).symm
    · rintro rfl
      exact ofInt_toInt n

/-- A setting is refused with the first fault of its text. -/
theorem IntegerType.decoder_eq_error_iff {text : List Char} {reason : SettingReason} :
    t.decoder text = .error reason ↔
      ∃ fault, t.range.FirstFault text fault ∧ reason = .numeral fault := by
  rw [t.decoder_eq, Decoder.map, Decoder.integer]
  simp only [← IntRange.parse_eq_error_iff t.holds_zero]
  cases read : t.range.parse text with
  | error fault => simp [eq_comm]
  | ok k => simp

/-- What is read of a setting that has just been made. -/
theorem Settings.parse_set {α : Type} (decode : Decoder α) (s : Settings) (key v : String) :
    (s.set key v).parse decode key =
      match decode (Text.trim v.toList) with
      | .ok a => .ok (some a)
      | .error reason => .error ⟨key, v, reason⟩ := by
  unfold parse
  cases decoded : decode (Text.trim v.toList) <;> simp [get?_set, decoded]

/-- Neither the first character of a decimal text is white space nor the last. -/
theorem trimmed_padded {before after : List Char}
    (blankBefore : ∀ c ∈ before, Text.isBlank c = true)
    (blankAfter : ∀ c ∈ after, Text.isBlank c = true) (zeros : Nat) (k : Int) :
    Text.Trimmed (before ++ padded zeros k ++ after) (padded zeros k) := by
  have plain : ∀ c ∈ padded zeros k, Text.isBlank c = false := by
    intro c there
    rcases Numeric.eq_or_isDigit_of_mem_padded there with rfl | digit
    · rfl
    · exact Text.not_isBlank_of_isDigit digit
  refine ⟨⟨before, after, rfl, blankBefore, blankAfter⟩, ?_, ?_⟩
  · exact fun c first => plain c (List.mem_of_mem_head? first)
  · exact fun c last => plain c (List.mem_of_mem_getLast? last)

/-- **Integers in range.** A setting that has been given a text is read as an integer of a type
exactly when the text, without the white space at its ends, is a numeral of it, which is perhaps a
sign and one or more digits for a number in the range of the type. Any other text is refused for
its first fault, and quoted as it was given. The decimal text of an integer of the type is read
back, with any white space around it and any zeros before its digits. -/
theorem Settings.parse_integer (t : IntegerType) (s : Settings) (key v : String) :
    ∃ text, Text.Trimmed v.toList text ∧
      (∀ k, t.range.holds k = true ↔ ∃ n, t.toInt n = k) ∧
      (∀ n, (s.set key v).parse t.decoder key = .ok (some n) ↔ t.range.Spells text (t.toInt n)) ∧
      (∀ fault, (s.set key v).parse t.decoder key = .error fault ↔
        ∃ reason, t.range.FirstFault text reason ∧ fault = ⟨key, v, .numeral reason⟩) ∧
      (s.set key v).parse t.decoder key ≠ .ok none ∧
      (∀ reason, (Error.configuration (.setting ⟨key, v, .numeral reason⟩)).message =
        "Invalid configuration: " ++ (key ++ ": invalid value '" ++ v ++ "': " ++
          reason.message)) ∧
      ∀ n zeros before after, (∀ c ∈ before, Text.isBlank c = true) →
        (∀ c ∈ after, Text.isBlank c = true) →
        v.toList = before ++ padded zeros (t.toInt n) ++ after →
        (s.set key v).parse t.decoder key = .ok (some n) := by
  rw [s.parse_set]
  refine ⟨Text.trim v.toList, Text.trimmed_trim _, fun _ => IntegerType.holds_iff_exists, ?_, ?_,
    ?_, fun _ => rfl, ?_⟩
  · intro n
    rw [← IntegerType.decoder_eq_ok_iff]
    cases t.decoder (Text.trim v.toList) <;> simp
  · intro fault
    have refused : (∃ reason, t.range.FirstFault (Text.trim v.toList) reason ∧
        fault = ⟨key, v, .numeral reason⟩) ↔
        ∃ reason, t.decoder (Text.trim v.toList) = .error reason ∧ fault = ⟨key, v, reason⟩ := by
      simp only [IntegerType.decoder_eq_error_iff]
      constructor
      · rintro ⟨reason, first, rfl⟩
        exact ⟨.numeral reason, ⟨reason, first, rfl⟩, rfl⟩
      · rintro ⟨_, ⟨reason, first, rfl⟩, rfl⟩
        exact ⟨reason, first, rfl⟩
    rw [refused]
    cases t.decoder (Text.trim v.toList) <;> simp [eq_comm]
  · cases t.decoder (Text.trim v.toList) <;> simp
  · intro n zeros before after blankBefore blankAfter written
    have trimmed := trimmed_padded blankBefore blankAfter zeros (t.toInt n)
    have numeral := IntRange.spells_padded (IntegerType.holds_toInt n) zeros
    rw [written, Text.trim_eq_iff.2 trimmed, IntegerType.decoder_eq_ok_iff.2 numeral]

example : (Settings.empty.set "RETRIES" "\u2003+007\n").parse .uint8 "RETRIES" = .ok (some 7) := by
  decide +kernel

example : (Settings.empty.set "OFFSET" "-9223372036854775809x").parse .int64 "OFFSET" =
    .error ⟨"OFFSET", "-9223372036854775809x", .numeral .tooSmall⟩ := by
  decide +kernel

end SchedulerHost.Config
