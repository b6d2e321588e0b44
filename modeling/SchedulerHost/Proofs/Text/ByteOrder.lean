import Mathlib.Logic.Basic

/-!
# The order of bytes

Texts are ordered character by character. In UTF-8 that is the order byte by byte: of two characters
the greater has the greater bytes, and the bytes of neither begin those of the other.

Main statement: `bytes_lt_iff`.
-/

namespace SchedulerHost.Text

def bytes (s : String) : List Nat := s.toUTF8.data.toList.map UInt8.toNat

def charBytes (c : Char) : List Nat := (String.utf8EncodeChar c).map UInt8.toNat

/-- The bytes of a text are those of its characters. -/
theorem bytes_eq (s : String) : bytes s = s.toList.flatMap charBytes := by
  have encoded : s.toUTF8 = (s.toList.flatMap String.utf8EncodeChar).toByteArray :=
    String.utf8Encode_toList.symm
  rw [bytes, encoded, List.data_toByteArray, List.toList_toArray, List.map_flatMap]
  rfl

/-- A character has one to four bytes: the first begins with a mark of how many they are, the others
hold six bits each. -/
theorem charBytes_cases (c : Char) :
    (c.val.toNat < 128 ∧ charBytes c = [c.val.toNat]) ∨
    (128 ≤ c.val.toNat ∧ c.val.toNat < 2048 ∧
      charBytes c = [192 + c.val.toNat / 64, 128 + c.val.toNat % 64]) ∨
    (2048 ≤ c.val.toNat ∧ c.val.toNat < 65536 ∧
      charBytes c = [224 + c.val.toNat / 4096, 128 + c.val.toNat / 64 % 64,
        128 + c.val.toNat % 64]) ∨
    (65536 ≤ c.val.toNat ∧
      charBytes c = [240 + c.val.toNat / 262144, 128 + c.val.toNat / 4096 % 64,
        128 + c.val.toNat / 64 % 64, 128 + c.val.toNat % 64]) := by
  have bound : c.val.toNat < 1114112 := by
    have valid := c.valid
    simp only [UInt32.isValidChar, Nat.isValidChar] at valid
    omega
  unfold charBytes String.utf8EncodeChar
  dsimp only
  split
  · left
    simp only [List.map_cons, List.map_nil, UInt8.toNat_ofNat', List.cons.injEq, and_true]
    omega
  · right
    split
    · left
      simp only [List.map_cons, List.map_nil, UInt8.toNat_ofNat', List.cons.injEq, and_true]
      omega
    · right
      split
      · left
        simp only [List.map_cons, List.map_nil, UInt8.toNat_ofNat', List.cons.injEq, and_true]
        omega
      · right
        simp only [List.map_cons, List.map_nil, UInt8.toNat_ofNat', List.cons.injEq, and_true]
        omega

/-- The bytes of a smaller character are smaller, whatever follows. -/
theorem charBytes_append_lt {c d : Char} (h : c < d) (after after' : List Nat) :
    charBytes c ++ after < charBytes d ++ after' := by
  have less : c.val.toNat < d.val.toNat := h
  rcases charBytes_cases c with ⟨_, eq⟩ | ⟨_, _, eq⟩ | ⟨_, _, eq⟩ | ⟨_, eq⟩ <;>
    rcases charBytes_cases d with ⟨_, eq'⟩ | ⟨_, _, eq'⟩ | ⟨_, _, eq'⟩ | ⟨_, eq'⟩ <;>
    simp only [eq, eq', List.cons_append, List.nil_append, List.cons_lt_cons_iff] <;> omega

theorem charBytes_ne_nil (c : Char) : charBytes c ≠ [] := by
  simp [charBytes]

/-- Texts in the order of their characters are in the order of their bytes. -/
theorem flatMap_charBytes_lt {cs ds : List Char} (h : cs < ds) :
    cs.flatMap charBytes < ds.flatMap charBytes := by
  induction h with
  | @nil d ds =>
    obtain ⟨first, rest, eq⟩ := List.exists_cons_of_ne_nil (charBytes_ne_nil d)
    rw [List.flatMap_cons, eq]
    exact List.nil_lt_cons _ _
  | rel less =>
    rw [List.flatMap_cons, List.flatMap_cons]
    exact charBytes_append_lt less _ _
  | @cons c cs ds _ ih =>
    rw [List.flatMap_cons, List.flatMap_cons]
    exact List.append_left_lt ih

theorem bytes_lt_of_lt {s t : String} (h : s < t) : bytes s < bytes t := by
  rw [bytes_eq, bytes_eq]
  exact flatMap_charBytes_lt h

/-- **The order of texts is the order of their bytes.** -/
theorem bytes_lt_iff {s t : String} : bytes s < bytes t ↔ s < t := by
  refine ⟨?_, bytes_lt_of_lt⟩
  intro less
  by_cases behind : t < s
  · exact absurd less (List.lt_asymm (bytes_lt_of_lt behind))
  · by_cases before : s < t
    · exact before
    · obtain rfl : s = t := String.le_antisymm behind before
      exact absurd less (List.lt_irrefl _)

end SchedulerHost.Text
