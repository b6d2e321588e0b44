import SchedulerHost.Numeric.Numeral
import SchedulerHost.Numeric.Shortest
import SchedulerHost.Text.Quoted

/-!
# Faults of a JSON text

Why a text does not decode, where in the text, and the wording of both. A fault is placed while
reading by the number of bytes that follow the place; a report gives its line and column.
-/

namespace SchedulerHost.Json

/-! ### Causes -/

/-- A value of a kind that was not expected. -/
inductive Found where
  | null
  | boolean (b : Bool)
  | integer (n : Int)
  | fraction (negative : Bool) (magnitude : Numeric.Binary64)
  | string (s : String)
  | sequence
  | map
  | unitVariant
deriving DecidableEq

/-- Why a text does not decode. -/
inductive Cause where
  | endInValue
  | endInList
  | endInObject
  | endInString
  | expectedColon
  | expectedListEnd
  | expectedObjectEnd
  | expectedIdent
  | expectedValue
  | keyNotString
  | trailingComma
  | trailingCharacters
  | invalidNumber
  | numberOutOfRange
  | invalidEscape
  | controlCharacter
  | loneSurrogate
  | brokenSurrogatePair
  | wrongKind (found : Found) (expected : String)
  | outOfRange (n : Int) (expected : String)
  | wrongLength (length : Nat) (expected : String)
  | unknownVariant (name : String) (known : List String)
  | duplicateField (name : String)
  | missingField (name : String)
  | rejected (reason : String)
deriving DecidableEq

/-- A fault met while reading. Some are placed at once, by the number of bytes from the place to
the end of the text. The others float, with what is left to read, until the innermost reader of
a scalar, a sequence or a record around them places them where it stops. -/
inductive Fault where
  | placed (cause : Cause) (left : Nat)
  | floating (cause : Cause) (rest : List Char)
deriving DecidableEq

/-! ### Wording -/

/-- Fractions are positional from `0.00001` up to sixteen digits before the point. -/
def fractionFormat : Numeric.DecimalFormat := ⟨-5, 15⟩

def fractionText (negative : Bool) (x : Numeric.Binary64) : String :=
  let magnitude :=
    if x.significand = 0 then ['0', '.', '0']
    else fractionFormat.write (Numeric.Shortest.ofBinary x)
  String.ofList (if negative then '-' :: magnitude else magnitude)

def backquoted (s : String) : String := "`" ++ s ++ "`"

def Found.message : Found → String
  | .null => "null"
  | .boolean b => "boolean " ++ backquoted (if b then "true" else "false")
  | .integer n => "integer " ++ backquoted (String.ofList (Numeric.decimal n))
  | .fraction negative x => "floating point " ++ backquoted (fractionText negative x)
  | .string s => "string " ++ Text.quoted s
  | .sequence => "sequence"
  | .map => "map"
  | .unitVariant => "unit variant"

def choice : List String → String
  | [] => "there are no variants"
  | [a] => "expected " ++ backquoted a
  | [a, b] => "expected " ++ backquoted a ++ " or " ++ backquoted b
  | names => "expected one of " ++ ", ".intercalate (names.map backquoted)

def Cause.message : Cause → String
  | .endInValue => "EOF while parsing a value"
  | .endInList => "EOF while parsing a list"
  | .endInObject => "EOF while parsing an object"
  | .endInString => "EOF while parsing a string"
  | .expectedColon => "expected `:`"
  | .expectedListEnd => "expected `,` or `]`"
  | .expectedObjectEnd => "expected `,` or `\x7d`"
  | .expectedIdent => "expected ident"
  | .expectedValue => "expected value"
  | .keyNotString => "key must be a string"
  | .trailingComma => "trailing comma"
  | .trailingCharacters => "trailing characters"
  | .invalidNumber => "invalid number"
  | .numberOutOfRange => "number out of range"
  | .invalidEscape => "invalid escape"
  | .controlCharacter =>
    "control character (\\u0000-\\u001F) found while parsing a string"
  | .loneSurrogate => "lone leading surrogate in hex escape"
  | .brokenSurrogatePair => "unexpected end of hex escape"
  | .wrongKind found expected => "invalid type: " ++ found.message ++ ", expected " ++ expected
  | .outOfRange n expected =>
    "invalid value: integer " ++ backquoted (String.ofList (Numeric.decimal n)) ++ ", expected " ++
      expected
  | .wrongLength length expected =>
    "invalid length " ++ String.ofList (Numeric.digits length) ++ ", expected " ++ expected
  | .unknownVariant name known => "unknown variant " ++ backquoted name ++ ", " ++ choice known
  | .duplicateField name => "duplicate field " ++ backquoted name
  | .missingField name => "missing field " ++ backquoted name
  | .rejected reason => reason

/-! ### Places -/

def byteCount (cs : List Char) : Nat := (cs.map Char.utf8Size).foldr (· + ·) 0

/-- A line, counted from one, and the number of bytes before the place on that line. -/
structure Position where
  line : Nat
  column : Nat
deriving DecidableEq

/-- The position `bytes` bytes further on in a text that begins at `here`. -/
def Position.advance (here : Position) : List Char → Nat → Position
  | [], _ => here
  | c :: rest, bytes =>
    if bytes = 0 then here
    else if c = '\n' then advance ⟨here.line + 1, 0⟩ rest (bytes - 1)
    else advance ⟨here.line, here.column + min c.utf8Size bytes⟩ rest (bytes - c.utf8Size)

/-- What is told of a text that does not decode. -/
structure Report where
  cause : Cause
  position : Option Position
deriving DecidableEq

def Fault.report (text : List Char) : Fault → Report
  | .placed cause left => ⟨cause, some (Position.advance ⟨1, 0⟩ text (byteCount text - left))⟩
  | .floating cause _ => ⟨cause, none⟩

def Report.message (report : Report) : String :=
  match report.position with
  | none => report.cause.message
  | some place =>
    report.cause.message ++ " at line " ++ String.ofList (Numeric.digits place.line) ++
      " column " ++ String.ofList (Numeric.digits place.column)

end SchedulerHost.Json
