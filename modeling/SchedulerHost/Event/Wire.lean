import SchedulerHost.Event.Basic
import SchedulerHost.Event.Selection
import SchedulerHost.Json.Record
import SchedulerHost.Json.Value
import SchedulerHost.Json.Variant

/-!
# The JSON form of events

How events, their parts and recorder selections are written and read. Empty namespaces,
identifiers and hosts are not written, nor is an absent related object.
-/

namespace SchedulerHost.Event

open Json (Value Reader Schema Variant)

/-- A member that is not written when its text is empty. -/
def unlessEmpty (key s : String) : List (String × Value) := if s = "" then [] else [(key, .str s)]

/-! ### Parts -/

def Kind.toJson (k : Kind) : Value := .str k.name

def Kind.variants : List (Variant Kind) :=
  [⟨Kind.normal.name, .bare .normal⟩, ⟨Kind.warning.name, .bare .warning⟩]

def Kind.read : Reader Kind := Reader.variant variants

def ObjectRef.toJson (r : ObjectRef) : Value :=
  .obj ([("kind", .str r.kind)] ++ unlessEmpty "namespace" r.space ++ [("name", .str r.name)] ++
    unlessEmpty "uid" r.uid)

def ObjectRef.schema : Schema :=
  [⟨"kind", Reader.string, none⟩, ⟨"namespace", Reader.string, some ""⟩,
    ⟨"name", Reader.string, none⟩, ⟨"uid", Reader.string, some ""⟩]

def ObjectRef.read : Reader ObjectRef :=
  (Reader.record "struct ObjectReference" schema).map fun (kind, space, name, uid, ()) =>
    ⟨kind, space, name, uid⟩

def Source.toJson (s : Source) : Value :=
  .obj ([("component", .str s.component)] ++ unlessEmpty "host" s.host)

def Source.schema : Schema :=
  [⟨"component", Reader.string, none⟩, ⟨"host", Reader.string, some ""⟩]

def Source.read : Reader Source :=
  (Reader.record "struct EventSource" schema).map fun (component, host, ()) => ⟨component, host⟩

def readInstant : Reader Time.Instant :=
  Reader.text "an RFC 3339 formatted date and time string" fun s =>
    match Time.Instant.parse s.toList with
    | .ok t => .ok t
    | .error fault => .error (.rejected fault.message)

/-! ### Events -/

def toJson (e : Event) : Value :=
  .obj ([("name", .str e.name), ("eventTime", .str e.time.render),
    ("reportingController", .str e.controller), ("regarding", e.regarding.toJson)] ++
    (match e.related with
      | none => []
      | some r => [("related", r.toJson)]) ++
    [("type", e.kind.toJson), ("reason", .str e.reason), ("action", .str e.action),
      ("note", .str e.note)])

def schema : Schema :=
  [⟨"name", Reader.string, none⟩, ⟨"eventTime", readInstant, none⟩,
    ⟨"reportingController", Reader.string, none⟩, ⟨"regarding", ObjectRef.read, none⟩,
    ⟨"related", Reader.optional ObjectRef.read, some none⟩, ⟨"type", Kind.read, none⟩,
    ⟨"reason", Reader.string, none⟩, ⟨"action", Reader.string, none⟩,
    ⟨"note", Reader.string, none⟩]

def read : Reader Event :=
  (Reader.record "struct Event" schema).map
    fun (name, time, controller, regarding, related, kind, reason, action, note, ()) =>
    ⟨name, time, controller, regarding, related, kind, reason, action, note⟩

def render (e : Event) : String := e.toJson.render

def parse (text : String) : Except Json.Report Event := read.document text

/-! ### Selections -/

def Mode.toJson (m : Mode) : Value := .str m.name

def Mode.variants : List (Variant Mode) :=
  [Mode.probe, .forceBroadcast, .forceCompat].map fun m => ⟨m.name, .bare m⟩

def Mode.read : Reader Mode := Reader.variant variants

def Selection.toJson (s : Selection) : Value :=
  .obj [("groupVersion", .str s.groupVersion), ("mode", s.mode.toJson)]

def Selection.schema : Schema :=
  [⟨"groupVersion", Reader.string, some Selection.standard.groupVersion⟩,
    ⟨"mode", Mode.read, some Selection.standard.mode⟩]

def Selection.read : Reader Selection :=
  (Reader.record "struct RecorderSelection" schema).map fun (groupVersion, mode, ()) =>
    ⟨groupVersion, mode⟩

def Selection.parse (text : String) : Except Json.Report Selection := read.document text

end SchedulerHost.Event
