import SchedulerHost.Json.Skip
import SchedulerHost.Json.Typed

/-!
# Records

A record is described by a schema, the list of its fields in declaration order. It is read from an
object, whose members come in any order and whose unknown members are passed over, or from a list
of its fields in declaration order. A field that is not given takes the value its schema has for
that case; if there is none, the record cannot be read.
-/

namespace SchedulerHost.Json

/-- A field of a record: its name, how it is read, and its value when it is not given. -/
structure Field where
  {type : Type}
  name : String
  read : Reader type
  absent : Option type

/-- The fields of a record in declaration order. -/
abbrev Schema := List Field

namespace Schema

/-- The values of the fields of a record. -/
def Values : Schema → Type
  | [] => Unit
  | f :: fs => f.type × Values fs

/-- The values of the fields of a record that have been read so far. -/
def Draft : Schema → Type
  | [] => Unit
  | f :: fs => Option f.type × Draft fs

def blank : (s : Schema) → Draft s
  | [] => ()
  | _ :: fs => (none, blank fs)

/-! ### From an object -/

/-- Is there a further member in an object? If so, what is left begins after the opening quote of
its key. -/
def nextKey (first : Bool) (cs : List Char) : Except Fault (Bool × List Char) :=
  match skipSpace cs with
  | [] => .error (faultBefore .endInObject [])
  | c :: rest =>
    if c = '\x7d' then .ok (false, c :: rest)
    else if first then
      if c = '"' then .ok (true, rest) else .error (faultAfterByte .keyNotString (c :: rest))
    else if c = ',' then
      match skipSpace rest with
      | [] => .error (faultBefore .endInValue [])
      | '"' :: rest => .ok (true, rest)
      | '\x7d' :: rest => .error (faultAfterByte .trailingComma ('\x7d' :: rest))
      | rest => .error (faultAfterByte .keyNotString rest)
    else .error (faultAfterByte .expectedObjectEnd (c :: rest))

/-- Reads the member whose key has just been read into a draft. A known key must not come again;
the value of an unknown one is passed over. -/
def member (key : String) : (s : Schema) → Draft s → Reader (Draft s)
  | [], (), cs => do
    let cs ← colon cs
    return ((), ← skipValue cs)
  | f :: fs, (slot, draft), cs =>
    if f.name = key then
      match slot with
      -- Found before the value is looked at.
      | some _ => .error (.floating (.duplicateField key) cs)
      | none => do
        let cs ← colon cs
        let (a, cs) ← f.read cs
        return ((some a, draft), cs)
    else do
      let (draft, cs) ← member key fs draft cs
      return ((slot, draft), cs)

/-- Reads the members of an object up to its end, at most `fuel` of them. -/
def members (s : Schema) : Nat → Bool → Draft s → Reader (Draft s)
  | 0, _, draft, cs => .ok (draft, cs)
  | fuel + 1, first, draft, cs => do
    let (more, cs) ← nextKey first cs
    if more then
      let (key, cs) ← stringBody cs
      let (draft, cs) ← member key s draft cs
      members s fuel false draft cs
    else return (draft, cs)

/-- The record of a draft; the first field that is neither given nor has a value for
that case is missing. -/
def complete : (s : Schema) → Draft s → Except Cause (Values s)
  | [], () => .ok ()
  | f :: fs, (slot, draft) =>
    match slot.or f.absent with
    | none => .error (.missingField f.name)
    | some a =>
      match complete fs draft with
      | .error cause => .error cause
      | .ok values => .ok (a, values)

/-- Reads the members of an object and makes a record of them. -/
def fromMembers (s : Schema) : Reader (Values s) := fun cs =>
  match members s (cs.length + 1) true (blank s) cs with
  | .error fault => .error fault
  | .ok (draft, rest) =>
    match complete s draft with
    | .error cause => .error (.floating cause rest)
    | .ok values => .ok (values, rest)

/-! ### From a list -/

/-- Reads the fields from the items of a list; `index` counts them. -/
def fromItems (expected : String) : (s : Schema) → Nat → Bool → Reader (Values s)
  | [], _, _, cs => .ok ((), cs)
  | f :: fs, index, first, cs => do
    let (more, cs) ← Reader.nextItem first cs
    if more then
      let (a, cs) ← f.read cs
      let (values, cs) ← fromItems expected fs (index + 1) false cs
      return ((a, values), cs)
    else
      match f.absent with
      | none => .error (.floating (.wrongLength index expected) cs)
      | some a =>
        let (values, cs) ← fromItems expected fs (index + 1) first cs
        return ((a, values), cs)

def sizedName (name : String) (s : Schema) : String :=
  name ++ " with " ++ String.ofList (Numeric.digits s.length) ++
    (if s.length = 1 then " element" else " elements")

end Schema

/-- Reads a record from an object or a list. -/
def Reader.record (name : String) (s : Schema) : Reader (Schema.Values s) := fun cs =>
  match skipSpace cs with
  | [] => .error (faultBefore .endInValue [])
  | '\x7b' :: rest => enclosed (Schema.fromMembers s) closeObject rest
  | '[' :: rest => enclosed (Schema.fromItems (Schema.sizedName name s) s 0 true) closeList rest
  | cs => .error (wrongKind name cs)

end SchedulerHost.Json
