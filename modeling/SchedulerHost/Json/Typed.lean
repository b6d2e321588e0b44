import SchedulerHost.Json.Number
import SchedulerHost.Json.Text

/-!
# Readers of expected kinds

Readers that want a value of one kind: texts, Booleans, integers of a range, optional values and
lists. A value of another kind is told by what it is: a scalar is read first, so its own faults
win and the place is after it; a list or an object is not entered.
-/

namespace SchedulerHost.Json

/-! ### What was found -/

/-- Reads what stands where a value of another kind was expected. -/
def found : Reader Found
  | [] => .error (faultBefore .expectedValue [])
  | c :: rest =>
    if c = 'n' then do return (.null, ← word "ull".toList rest)
    else if c = 't' then do return (.boolean true, ← word "rue".toList rest)
    else if c = 'f' then do return (.boolean false, ← word "alse".toList rest)
    else if c = '"' then
      match stringBody rest with
      | .error fault => .error fault
      | .ok (s, rest) => .ok (.string s, rest)
    else if startsNumber c then
      match number (c :: rest) with
      | .error fault => .error fault
      | .ok (.integer n, rest) => .ok (.integer n, rest)
      | .ok (.fraction negative x, rest) => .ok (.fraction negative x, rest)
    else if c = '[' then .ok (.sequence, c :: rest)
    else if c = '\x7b' then .ok (.map, c :: rest)
    else .error (faultAfterByte .expectedValue (c :: rest))

def wrongKind (expected : String) (cs : List Char) : Fault :=
  match found cs with
  | .error fault => fault
  | .ok (found, rest) => faultBefore (.wrongKind found expected) rest

namespace Reader

/-! ### Scalars -/

/-- Reads a string and makes a value of it. -/
def text {α : Type} (expected : String) (decode : String → Except Cause α) : Reader α := fun cs =>
  match skipSpace cs with
  | [] => .error (faultBefore .endInValue [])
  | '"' :: rest =>
    match stringBody rest with
    | .error fault => .error fault
    | .ok (s, rest) =>
      match decode s with
      | .error cause => .error (faultBefore cause rest)
      | .ok a => .ok (a, rest)
  | cs => .error (wrongKind expected cs)

def string : Reader String := text "a string" .ok

def bool : Reader Bool := fun cs =>
  match skipSpace cs with
  | [] => .error (faultBefore .endInValue [])
  | 't' :: rest => do return (true, ← word "rue".toList rest)
  | 'f' :: rest => do return (false, ← word "alse".toList rest)
  | cs => .error (wrongKind "a boolean" cs)

def null : Reader Unit := fun cs =>
  match skipSpace cs with
  | [] => .error (faultBefore .endInValue [])
  | 'n' :: rest => do return ((), ← word "ull".toList rest)
  | cs => .error (wrongKind "unit" cs)

def integer (range : Numeric.IntRange) (expected : String) : Reader Int := fun cs =>
  match skipSpace cs with
  | [] => .error (faultBefore .endInValue [])
  | c :: rest =>
    if startsNumber c then
      match number (c :: rest) with
      | .error fault => .error fault
      -- A fraction is of another kind even if it has an integer value.
      | .ok (.integer n, rest) =>
        if range.holds n then .ok (n, rest)
        else .error (faultBefore (.outOfRange n expected) rest)
      | .ok (.fraction negative x, rest) =>
        .error (faultBefore (.wrongKind (.fraction negative x) expected) rest)
    else .error (wrongKind expected (c :: rest))

def uint32 : Reader UInt32 := (integer (.unsigned 32) "u32").map (UInt32.ofNat ·.toNat)

def uint64 : Reader UInt64 := (integer (.unsigned 64) "u64").map (UInt64.ofNat ·.toNat)

def int64 : Reader Int64 := (integer (.signed 64) "i64").map Int64.ofInt

/-- Reads the null value as `none`, anything else as a value. -/
def optional {α : Type} (read : Reader α) : Reader (Option α) := fun cs =>
  match skipSpace cs with
  | 'n' :: rest => do return (none, ← word "ull".toList rest)
  | cs => read.map some cs

/-! ### Enclosed values -/

/-- Closes a list: whether it could be closed, and what is left in either case. -/
def closeList (cs : List Char) : Except Fault Unit × List Char :=
  match skipSpace cs with
  | [] => (.error (faultBefore .endInList []), [])
  | ']' :: rest => (.ok (), rest)
  | ',' :: rest =>
    match skipSpace rest with
    | ']' :: rest => (.error (faultAfterByte .trailingComma (']' :: rest)), ']' :: rest)
    | rest => (.error (faultAfterByte .trailingCharacters rest), rest)
  | cs => (.error (faultAfterByte .trailingCharacters cs), cs)

def closeObject (cs : List Char) : Except Fault Unit × List Char :=
  match skipSpace cs with
  | [] => (.error (faultBefore .endInObject []), [])
  | '\x7d' :: rest => (.ok (), rest)
  | ',' :: rest => (.error (faultAfterByte .trailingComma (',' :: rest)), ',' :: rest)
  | cs => (.error (faultAfterByte .trailingCharacters cs), cs)

/-- Reads what is enclosed and closes it. A floating fault inside is placed where the closing
stops; the other faults inside win over those of the closing. -/
def enclosed {α : Type} (inside : Reader α) (close : List Char → Except Fault Unit × List Char) :
    Reader α := fun cs =>
  match inside cs with
  | .ok (a, rest) =>
    match close rest with
    | (.ok (), rest) => .ok (a, rest)
    | (.error fault, _) => .error fault
  | .error (.floating cause rest) => .error (faultBefore cause (close rest).2)
  | .error fault => .error fault

/-- Is there a further item in a list? If so, what is left begins with it. -/
def nextItem (first : Bool) (cs : List Char) : Except Fault (Bool × List Char) :=
  match skipSpace cs with
  | [] => .error (faultBefore .endInList [])
  | c :: rest =>
    if c = ']' then .ok (false, c :: rest)
    else if first then .ok (true, c :: rest)
    else if c = ',' then
      match skipSpace rest with
      | [] => .error (faultBefore .endInValue [])
      | ']' :: rest => .error (faultAfterByte .trailingComma (']' :: rest))
      | rest => .ok (true, rest)
    else .error (faultAfterByte .expectedListEnd (c :: rest))

/-- Reads the items of a list up to its end, at most `fuel` of them. -/
def items {α : Type} (read : Reader α) : Nat → Bool → Reader (List α)
  | 0, _, cs => .ok ([], cs)
  | fuel + 1, first, cs => do
    let (more, cs) ← nextItem first cs
    if more then
      let (a, cs) ← read cs
      let (rest, cs) ← items read fuel false cs
      return (a :: rest, cs)
    else return ([], cs)

/-- Reads a list. Every item but an empty one takes a character,
so the length of the text is fuel enough. -/
def list {α : Type} (read : Reader α) : Reader (List α) := fun cs =>
  match skipSpace cs with
  | [] => .error (faultBefore .endInValue [])
  | '[' :: rest => enclosed (items read (rest.length + 1) true) closeList rest
  | cs => .error (wrongKind "a sequence" cs)

end Reader

end SchedulerHost.Json
