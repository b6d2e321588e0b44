import SchedulerHost.Json.Reader

/-!
# Strings

Reading the text of a string after its opening quote. Both readers go through the text character
by character; an escape sequence tells how many characters of it are still to be passed over.

A string that is read must be a text: a surrogate is only allowed as half of a pair. In a string
that is passed over unread it may stand alone.
-/

namespace SchedulerHost.Json

def hexValue? (c : Char) : Option Nat :=
  if c.isDigit then some (c.toNat - '0'.toNat)
  else if 'a' ≤ c ∧ c ≤ 'f' then some (c.toNat - 'a'.toNat + 10)
  else if 'A' ≤ c ∧ c ≤ 'F' then some (c.toNat - 'A'.toNat + 10)
  else none

def fourHex? : List Char → Option Nat
  | a :: b :: c :: d :: _ => do
    let w ← hexValue? a
    let x ← hexValue? b
    let y ← hexValue? c
    let z ← hexValue? d
    return ((w * 16 + x) * 16 + y) * 16 + z
  | _ => none

/-- The number written by the four bytes at the front of a text. -/
def fourHex (cs : List Char) : Except Fault Nat :=
  match fourHex? cs with
  | some n => .ok n
  | none =>
    if byteCount cs < 4 then .error (faultBefore .endInString [])
    else .error (faultAfterFour .invalidEscape cs)

/-- The first half of a surrogate pair. -/
def isHighSurrogate (n : Nat) : Bool := 0xD800 ≤ n && n ≤ 0xDBFF

/-- The second half of a surrogate pair. -/
def isLowSurrogate (n : Nat) : Bool := 0xDC00 ≤ n && n ≤ 0xDFFF

def pairedChar (high low : Nat) : Char :=
  Char.ofNat (0x10000 + (high - 0xD800) * 0x400 + (low - 0xDC00))

def simpleEscape? (c : Char) : Option Char :=
  if c = '"' then some '"'
  else if c = '\\' then some '\\'
  else if c = '/' then some '/'
  else if c = 'b' then some '\x08'
  else if c = 'f' then some '\x0c'
  else if c = 'n' then some '\n'
  else if c = 'r' then some '\r'
  else if c = 't' then some '\t'
  else none

/-- The second half of a pair, after the four digits of the first. -/
def lowHalf (high : Nat) : List Char → Except Fault (Char × Nat)
  | [] => .error (faultBefore .endInString [])
  | ['\\'] => .error (faultBefore .endInString [])
  | '\\' :: 'u' :: cs => do
    let low ← fourHex cs
    if isLowSurrogate low then .ok (pairedChar high low, 11)
    else .error (faultAfterFour .loneSurrogate cs)
  | '\\' :: cs => .error (faultAfterByte .brokenSurrogatePair cs)
  | cs => .error (faultAfterByte .brokenSurrogatePair cs)

/-- The character of an escape sequence, given what follows the backslash, and the number of
characters the sequence takes there. -/
def escapeSequence : List Char → Except Fault (Char × Nat)
  | [] => .error (faultBefore .endInString [])
  | c :: cs =>
    match simpleEscape? c with
    | some stands => .ok (stands, 1)
    | none =>
      if c = 'u' then do
        let n ← fourHex cs
        -- A pair begins with its high half.
        if isLowSurrogate n then .error (faultAfterFour .loneSurrogate cs)
        else if isHighSurrogate n then lowHalf n (cs.drop 4)
        else .ok (Char.ofNat n, 5)
      else .error (faultAfterByte .invalidEscape (c :: cs))

/-- Reads the characters up to the closing quote, after passing over `skip` of them. -/
def stringChars : Nat → List Char → Except Fault (List Char × List Char)
  | _, [] => .error (faultBefore .endInString [])
  | skip + 1, _ :: rest => stringChars skip rest
  | 0, c :: rest =>
    if c = '"' then .ok ([], rest)
    else if c = '\\' then do
      let (stands, taken) ← escapeSequence rest
      let (chars, rest) ← stringChars taken rest
      return (stands :: chars, rest)
    else if c.toNat < 0x20 then .error (faultAfterByte .controlCharacter (c :: rest))
    else do
      let (chars, rest) ← stringChars 0 rest
      return (c :: chars, rest)

def stringBody (cs : List Char) : Except Fault (String × List Char) :=
  match stringChars 0 cs with
  | .error fault => .error fault
  | .ok (chars, rest) => .ok (String.ofList chars, rest)

/-- The number of characters an escape sequence takes in a string that is passed over. -/
def skippedEscape : List Char → Except Fault Nat
  | [] => .error (faultBefore .endInString [])
  | c :: cs =>
    if (simpleEscape? c).isSome then .ok 1
    else if c = 'u' then do
      let _ ← fourHex cs
      return 5
    else .error (faultAfterByte .invalidEscape (c :: cs))

def skipString : Nat → List Char → Except Fault (List Char)
  | _, [] => .error (faultBefore .endInString [])
  | skip + 1, _ :: rest => skipString skip rest
  | 0, c :: rest =>
    if c = '"' then .ok rest
    else if c = '\\' then do
      let taken ← skippedEscape rest
      skipString taken rest
    else if c.toNat < 0x20 then .error (faultBefore .controlCharacter (c :: rest))
    else skipString 0 rest

end SchedulerHost.Json
