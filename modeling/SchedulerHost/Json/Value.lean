import SchedulerHost.Numeric.Numeral

/-!
# JSON values

Values without fractions, with the members of an object in written order, and their compact text.

Main statement: `Value.same_iff`, which makes equality of values decidable.
-/

namespace SchedulerHost.Json

/-- A JSON value whose numbers are integers. -/
inductive Value where
  | null
  | bool (b : Bool)
  | int (n : Int)
  | str (s : String)
  | arr (items : List Value)
  | obj (members : List (String × Value))
deriving Inhabited

/-! ### Writing -/

def hexDigit (n : Nat) : Char := Nat.digitChar n

/-- How one character of a string is written: the quote, the backslash and the control
characters are escaped, all else stands for itself. -/
def escape (c : Char) : List Char :=
  if c = '"' then ['\\', '"']
  else if c = '\\' then ['\\', '\\']
  else if c = '\x08' then ['\\', 'b']
  else if c = '\x0c' then ['\\', 'f']
  else if c = '\n' then ['\\', 'n']
  else if c = '\r' then ['\\', 'r']
  else if c = '\t' then ['\\', 't']
  else if c.toNat < 0x20 then
    ['\\', 'u', '0', '0', hexDigit (c.toNat / 16), hexDigit (c.toNat % 16)]
  else [c]

def quote (s : String) : List Char := '"' :: s.toList.flatMap escape ++ ['"']

/-- The comma before an item that is not the first. -/
def comma (first : Bool) : List Char := if first then [] else [',']

mutual

def Value.chars : Value → List Char
  | .null => "null".toList
  | .bool true => "true".toList
  | .bool false => "false".toList
  | .int n => Numeric.decimal n
  | .str s => quote s
  | .arr items => '[' :: itemChars true items
  | .obj members => '\x7b' :: memberChars true members

/-- The items that remain of an array, with its closing bracket. -/
def itemChars : Bool → List Value → List Char
  | _, [] => [']']
  | first, v :: rest => comma first ++ (v.chars ++ itemChars false rest)

/-- The members that remain of an object, with its closing brace. -/
def memberChars : Bool → List (String × Value) → List Char
  | _, [] => ['\x7d']
  | first, (k, v) :: rest => comma first ++ (quote k ++ ':' :: (v.chars ++ memberChars false rest))

end

def Value.render (v : Value) : String := String.ofList v.chars

/-! ### Equality -/

mutual

def Value.same : Value → Value → Bool
  | .null, .null => true
  | .bool a, .bool b => a == b
  | .int a, .int b => a == b
  | .str a, .str b => a == b
  | .arr a, .arr b => sameItems a b
  | .obj a, .obj b => sameMembers a b
  | _, _ => false

def sameItems : List Value → List Value → Bool
  | [], [] => true
  | a :: as, b :: bs => a.same b && sameItems as bs
  | _, _ => false

def sameMembers : List (String × Value) → List (String × Value) → Bool
  | [], [] => true
  | (k, a) :: as, (l, b) :: bs => k == l && (a.same b && sameMembers as bs)
  | _, _ => false

end

mutual

/-- The test tells equal values from different ones. -/
theorem Value.same_iff (a b : Value) : a.same b = true ↔ a = b := by
  cases a <;> cases b <;> simp [Value.same]
  · exact sameItems_iff _ _
  · exact sameMembers_iff _ _

theorem sameItems_iff (a b : List Value) : sameItems a b = true ↔ a = b := by
  cases a with
  | nil => cases b <;> simp [sameItems]
  | cons v as =>
    cases b with
    | nil => simp [sameItems]
    | cons w bs => simp [sameItems, Value.same_iff v w, sameItems_iff as bs]

theorem sameMembers_iff (a b : List (String × Value)) : sameMembers a b = true ↔ a = b := by
  cases a with
  | nil => cases b <;> simp [sameMembers]
  | cons m as =>
    obtain ⟨k, v⟩ := m
    cases b with
    | nil => simp [sameMembers]
    | cons m' bs =>
      obtain ⟨l, w⟩ := m'
      simp [sameMembers, Value.same_iff v w, sameMembers_iff as bs, and_assoc]

end

instance : DecidableEq Value := fun a b => decidable_of_iff _ (Value.same_iff a b)

example : (Value.obj [("a\n", .arr [.int (-1), .null]), ("\x01", .str "é")]).render =
    "\x7b\"a\\n\":[-1,null],\"\\u0001\":\"é\"\x7d" := by decide

end SchedulerHost.Json
