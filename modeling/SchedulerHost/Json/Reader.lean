import SchedulerHost.Json.Fault

/-!
# Readers

A reader takes a value off the front of a text and leaves the rest, or meets a fault. This module
has the pieces all readers share: places of faults, blanks, and the words of the language.

Main statements: `skipSpace_of_not_space`, and `word_append`, which says what a word takes.
-/

namespace SchedulerHost.Json

/-- Takes a value off the front of a text. -/
abbrev Reader (α : Type) := List Char → Except Fault (α × List Char)

/-! ### Places -/

def faultBefore (cause : Cause) (cs : List Char) : Fault := .placed cause (byteCount cs)

/-- A fault after the first byte of what is left of the text, or at its end. -/
def faultAfterByte (cause : Cause) (cs : List Char) : Fault := .placed cause (byteCount cs - 1)

def faultAfterFour (cause : Cause) (cs : List Char) : Fault := .placed cause (byteCount cs - 4)

/-! ### Blanks -/

/-- The blanks of the language. -/
def isSpace (c : Char) : Bool := c = ' ' || c = '\n' || c = '\t' || c = '\r'

def skipSpace (cs : List Char) : List Char := cs.dropWhile isSpace

@[simp] theorem skipSpace_nil : skipSpace [] = [] := rfl

theorem skipSpace_of_not_space {c : Char} {rest : List Char} (h : isSpace c = false) :
    skipSpace (c :: rest) = c :: rest := by
  simp [skipSpace, h]

/-! ### Words -/

def word : List Char → List Char → Except Fault (List Char)
  | [], cs => .ok cs
  | _ :: _, [] => .error (faultBefore .endInValue [])
  | e :: expected, c :: rest =>
    if c = e then word expected rest else .error (faultAfterByte .expectedIdent (c :: rest))

@[simp] theorem word_append (expected rest : List Char) :
    word expected (expected ++ rest) = .ok rest := by
  induction expected with
  | nil => rfl
  | cons e tail ih => simp [word, ih]

def colon (cs : List Char) : Except Fault (List Char) :=
  match skipSpace cs with
  | [] => .error (faultBefore .endInObject [])
  | ':' :: rest => .ok rest
  | cs => .error (faultAfterByte .expectedColon cs)

/-! ### Combination -/

namespace Reader

def map {α β : Type} (f : α → β) (read : Reader α) : Reader β := fun cs =>
  match read cs with
  | .error fault => .error fault
  | .ok (a, rest) => .ok (f a, rest)

@[simp] theorem map_ok {α β : Type} (f : α → β) (read : Reader α) (cs rest : List Char) (a : α)
    (h : read cs = .ok (a, rest)) : read.map f cs = .ok (f a, rest) := by
  simp [map, h]

/-- Reads a whole text, blanks around the value allowed, and reports what is wrong with it. -/
def document {α : Type} (read : Reader α) (text : String) : Except Report α :=
  match read text.toList with
  | .error fault => .error (fault.report text.toList)
  | .ok (a, rest) =>
    match skipSpace rest with
    | [] => .ok a
    | rest => .error ((faultAfterByte .trailingCharacters rest).report text.toList)

end Reader

end SchedulerHost.Json
