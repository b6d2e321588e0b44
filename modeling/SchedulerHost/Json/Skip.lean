import SchedulerHost.Json.Number
import SchedulerHost.Json.Text

/-!
# Values passed over

A value nobody asked for is only checked for its form. The brackets that are open are kept on a
stack, so nesting is not bounded. Every step takes a character, except that from an opening
bracket to the first item, so twice the length of the text is fuel enough.
-/

namespace SchedulerHost.Json

inductive Bracket where
  | list
  | object
deriving DecidableEq

namespace Bracket

def closing : Bracket → Char
  | .list => ']'
  | .object => '\x7d'

/-- What is wrong with a text that ends inside the bracket. -/
def endInside : Bracket → Cause
  | .list => .endInList
  | .object => .endInObject

/-- What is wrong with a text that goes on otherwise after an item. -/
def expectedEnd : Bracket → Cause
  | .list => .expectedListEnd
  | .object => .expectedObjectEnd

end Bracket

inductive Expecting where
  | value
  | firstItem
  | key
  | separator

/-- What begins an item: a value in a list, a key in an object. -/
def Bracket.item : Bracket → Expecting
  | .list => .value
  | .object => .key

/-- Passes over a value that is no list and no object. -/
def skipScalar : List Char → Except Fault (List Char)
  | [] => .error (faultBefore .endInValue [])
  | c :: rest =>
    if c = 'n' then word "ull".toList rest
    else if c = 't' then word "rue".toList rest
    else if c = 'f' then word "alse".toList rest
    else if c = '"' then skipString 0 rest
    else if startsNumber c then skipNumber (c :: rest)
    else .error (faultAfterByte .expectedValue (c :: rest))

def skipKey (cs : List Char) : Except Fault (List Char) :=
  match skipSpace cs with
  | [] => .error (faultBefore .endInObject [])
  | '"' :: rest =>
    match skipString 0 rest with
    | .error fault => .error fault
    | .ok rest => colon rest
  | cs => .error (faultAfterByte .keyNotString cs)

/-- Passes over what is expected and over all that follows up to the end of
the outermost open bracket. -/
def skipFrom : Nat → Expecting → List Bracket → List Char → Except Fault (List Char)
  | 0, _, _, cs => .error (faultBefore .expectedValue cs)
  | fuel + 1, .value, stack, cs =>
    match skipSpace cs with
    | '[' :: rest => skipFrom fuel .firstItem (.list :: stack) rest
    | '\x7b' :: rest => skipFrom fuel .firstItem (.object :: stack) rest
    | cs =>
      match skipScalar cs with
      | .error fault => .error fault
      | .ok rest => skipFrom fuel .separator stack rest
  | fuel + 1, .key, stack, cs =>
    match skipKey cs with
    | .error fault => .error fault
    | .ok rest => skipFrom fuel .value stack rest
  -- No bracket is open, so the value is complete.
  | _ + 1, _, [], cs => .ok cs
  | fuel + 1, .firstItem, bracket :: stack, cs =>
    match skipSpace cs with
    | [] => .error (faultBefore bracket.endInside [])
    | c :: rest =>
      if c = bracket.closing then skipFrom fuel .separator stack rest
      else skipFrom fuel bracket.item (bracket :: stack) (c :: rest)
  | fuel + 1, .separator, bracket :: stack, cs =>
    match skipSpace cs with
    | [] => .error (faultBefore bracket.endInside [])
    | c :: rest =>
      if c = bracket.closing then skipFrom fuel .separator stack rest
      else if c = ',' then skipFrom fuel bracket.item (bracket :: stack) rest
      else .error (faultAfterByte bracket.expectedEnd (c :: rest))

def skipValue (cs : List Char) : Except Fault (List Char) :=
  skipFrom (2 * cs.length + 2) .value [] cs

end SchedulerHost.Json
