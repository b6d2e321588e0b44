import SchedulerHost.Json.Typed

/-!
# Variants

A value of one of several named shapes: the name alone as a string, or an object whose only key
is the name and whose value is the content.
-/

namespace SchedulerHost.Json

/-- What goes with the name of a variant. -/
inductive Shape (α : Type) where
  /-- The name says it all. -/
  | bare (a : α)
  /-- A single value. -/
  | wrapped (read : Reader α)
  /-- Fields of its own. -/
  | fields (read : Reader α)

/-- A named shape. -/
structure Variant (α : Type) where
  name : String
  shape : Shape α

namespace Variant

def tag {α : Type} (variants : List (Variant α)) : Reader (Variant α) :=
  Reader.text "variant identifier" fun name =>
    match variants.find? (·.name = name) with
    | some v => .ok v
    | none => .error (.unknownVariant name (variants.map (·.name)))

/-- What is left of an object from its first key on, which has to be there. -/
def onlyKey (cs : List Char) : Except Fault (List Char) :=
  match skipSpace cs with
  | [] => .error (faultBefore .endInObject [])
  | '"' :: rest => .ok ('"' :: rest)
  | '\x7d' :: rest => .error (faultAfterByte .expectedValue ('\x7d' :: rest))
  | cs => .error (faultAfterByte .keyNotString cs)

def content {α : Type} (v : Variant α) : Reader α :=
  match v.shape with
  | .bare a => Reader.null.map fun _ => a
  | .wrapped read => read
  | .fields read => read

/-- The value of a variant that is given by its name alone. -/
def alone {α : Type} (v : Variant α) (rest : List Char) : Except Fault (α × List Char) :=
  match v.shape with
  | .bare a => .ok (a, rest)
  | .wrapped _ => .error (.floating (.wrongKind .unitVariant "newtype variant") rest)
  | .fields _ => .error (.floating (.wrongKind .unitVariant "struct variant") rest)

end Variant

def Reader.variant {α : Type} (variants : List (Variant α)) : Reader α := fun cs =>
  match skipSpace cs with
  | [] => .error (faultBefore .endInValue [])
  | '"' :: rest => do
    let (v, rest) ← Variant.tag variants ('"' :: rest)
    v.alone rest
  | '\x7b' :: rest => do
    let rest ← Variant.onlyKey rest
    let (v, rest) ← Variant.tag variants rest
    let rest ← colon rest
    let (a, rest) ← v.content rest
    match skipSpace rest with
    | [] => .error (faultBefore .endInObject [])
    | '\x7d' :: rest => .ok (a, rest)
    | rest => .error (faultBefore .expectedValue rest)
  | cs => .error (faultAfterByte .expectedValue cs)

end SchedulerHost.Json
