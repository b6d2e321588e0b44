import SchedulerHost.Event.Kind
import SchedulerHost.Numeric.Numeral
import SchedulerHost.Text.Blank
import Std.Data.TreeMap

/-!
# Settings

Texts by name, such as the variables of an environment. A setting is decoded from its text without
the white space around it; one that is absent is no fault.

Main statement: `Settings.get?_set`.
-/

namespace SchedulerHost.Config

/-- Texts by name. -/
structure Settings where
  entries : Std.TreeMap String String

/-- Why the text of a setting does not decode. -/
inductive SettingReason where
  | numeral (fault : Numeric.NumeralFault)
  | notBoolean
  | unknownVariant
deriving DecidableEq

def SettingReason.message : SettingReason → String
  | .numeral fault => fault.message
  | .notBoolean => "provided string was not `true` or `false`"
  | .unknownVariant => "Matching variant not found"

/-- A setting that does not decode, with its text as it was given. -/
structure SettingFault where
  key : String
  raw : String
  reason : SettingReason
deriving DecidableEq

def SettingFault.message (fault : SettingFault) : String :=
  fault.key ++ ": invalid value '" ++ fault.raw ++ "': " ++ fault.reason.message

/-! ### Decoding a text -/

/-- Makes a value of the text of a setting. -/
abbrev Decoder (α : Type) := List Char → Except SettingReason α

namespace Decoder

def integer (range : Numeric.IntRange) : Decoder Int := fun cs =>
  match range.parse cs with
  | .error fault => .error (.numeral fault)
  | .ok n => .ok n

def map {α β : Type} (f : α → β) (decode : Decoder α) : Decoder β := fun cs =>
  match decode cs with
  | .error reason => .error reason
  | .ok a => .ok (f a)

def uint8 : Decoder UInt8 := (integer (.unsigned 8)).map (UInt8.ofNat ·.toNat)

def uint32 : Decoder UInt32 := (integer (.unsigned 32)).map (UInt32.ofNat ·.toNat)

def uint64 : Decoder UInt64 := (integer (.unsigned 64)).map (UInt64.ofNat ·.toNat)

def int64 : Decoder Int64 := (integer (.signed 64)).map Int64.ofInt

def bool : Decoder Bool := fun cs =>
  if cs = "true".toList then .ok true
  else if cs = "false".toList then .ok false
  else .error .notBoolean

def text : Decoder String := fun cs => .ok (String.ofList cs)

def eventKind : Decoder Event.Kind := fun cs =>
  match Event.Kind.ofName? (String.ofList cs) with
  | some kind => .ok kind
  | none => .error .unknownVariant

end Decoder

/-! ### Operations -/

namespace Settings

def empty : Settings := ⟨∅⟩

instance : Inhabited Settings := ⟨empty⟩

def get? (s : Settings) (key : String) : Option String := s.entries[key]?

def set (s : Settings) (key value : String) : Settings := ⟨s.entries.insert key value⟩

/-- The settings of a list of names and texts; later ones win. -/
def ofList (entries : List (String × String)) : Settings :=
  entries.foldl (fun s (key, value) => s.set key value) empty

/-- Decodes a setting, if it is present. -/
def parse {α : Type} (decode : Decoder α) (s : Settings) (key : String) :
    Except SettingFault (Option α) :=
  match s.get? key with
  | none => .ok none
  | some raw =>
    match decode (Text.trim raw.toList) with
    | .ok a => .ok (some a)
    | .error reason => .error ⟨key, raw, reason⟩

/-- A value that has been set is found. -/
@[simp] theorem get?_set (s : Settings) (key value : String) :
    (s.set key value).get? key = some value := by
  simp [get?, set]

end Settings

end SchedulerHost.Config
