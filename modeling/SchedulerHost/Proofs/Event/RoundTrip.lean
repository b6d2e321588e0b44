import SchedulerHost.Discovery
import SchedulerHost.Event.Wire
import SchedulerHost.Proofs.Json.Records
import SchedulerHost.Proofs.Json.Refinement
import SchedulerHost.Proofs.Time.Spelling

/-!
# Events and discoveries survive their text

What is written of an event, of its parts, of a selection and of a list of resources is read as it
was. A text may give the time of an event in any spelling and at any offset: what is written of the
event then denotes the same point of time, cut to whole nanoseconds, and is kept from then on.

* `ObjectRef.decodes`, `decodes_fields`, `Selection.decodes`, `ResourceList.decodes`: one step
  for each kind of part.
* `timeText`: how a text spells the time of its event.
* **Survival** (`survives_spelling`).
-/

namespace SchedulerHost

open Json (Decodes Reader Refines Twins Value decodes_string decodes_list decodes_bool)
open Json.Schema (Written)
open Time (Instant Moment)
open Time.Instant (Denotes)

/-! ### Discoveries -/

namespace Discovery

theorem Resource.decodes (r : Resource) : Decodes read r.toJson r := by
  have written : Written schema (r.name, r.kind, r.namespaced, r.verbs, ())
      [("name", .str r.name), ("kind", .str r.kind), ("namespaced", .bool r.namespaced),
        ("verbs", .arr (r.verbs.map .str))] :=
    .given (decodes_string _) (.given (decodes_string _) (.given (decodes_bool _)
      (.given (decodes_list fun s _ => decodes_string s) .nil)))
  exact (written.decodes (by decide) _).map _

theorem ResourceList.decodes (l : ResourceList) : Decodes read l.toJson l := by
  have written : Written schema (l.groupVersion, l.resources, ())
      [("groupVersion", .str l.groupVersion),
        ("resources", .arr (l.resources.map Resource.toJson))] :=
    .given (decodes_string _) (.given (decodes_list fun r _ => r.decodes) .nil)
  exact (written.decodes (by decide) _).map _

end Discovery

namespace Event

/-! ### Parts -/

theorem Kind.decodes (k : Kind) : Decodes read k.toJson k := by
  cases k with
  | normal => exact Json.Variant.decodes_alone (v := variants[0]) rfl rfl
  | warning => exact Json.Variant.decodes_alone (v := variants[1]) rfl rfl

theorem Mode.decodes (m : Mode) : Decodes read m.toJson m := by
  cases m with
  | probe => exact Json.Variant.decodes_alone (v := variants[0]) rfl rfl
  | forceBroadcast => exact Json.Variant.decodes_alone (v := variants[1]) rfl rfl
  | forceCompat => exact Json.Variant.decodes_alone (v := variants[2]) rfl rfl

theorem Selection.decodes (s : Selection) : Decodes read s.toJson s := by
  have written : Written schema (s.groupVersion, s.mode, ())
      [("groupVersion", .str s.groupVersion), ("mode", s.mode.toJson)] :=
    .given (decodes_string _) (.given s.mode.decodes .nil)
  exact (written.decodes (by decide) _).map _

/-- A text that is left out when it is empty comes back as the empty text. -/
theorem written_unlessEmpty {s : Json.Schema} {values : s.Values} {members : List (String × Value)}
    (written : Written s values members) (key text : String) :
    Written (⟨key, Reader.string, some ""⟩ :: s) (text, values)
      (unlessEmpty key text ++ members) := by
  by_cases empty : text = ""
  · rw [unlessEmpty, if_pos empty, List.nil_append, empty]
    exact .leftOut rfl written
  · rw [unlessEmpty, if_neg empty]
    exact .given (decodes_string text) written

theorem ObjectRef.decodes (r : ObjectRef) : Decodes read r.toJson r := by
  have written : Written schema (r.kind, r.space, r.name, r.uid, ())
      (("kind", .str r.kind) :: (unlessEmpty "namespace" r.space ++
        ("name", .str r.name) :: (unlessEmpty "uid" r.uid ++ []))) :=
    .given (decodes_string _) (written_unlessEmpty (.given (decodes_string _)
      (written_unlessEmpty .nil _ _)) _ _)
  have members : r.toJson = .obj (("kind", .str r.kind) :: (unlessEmpty "namespace" r.space ++
      ("name", .str r.name) :: (unlessEmpty "uid" r.uid ++ []))) := by
    simp [toJson]
  rw [members]
  exact (written.decodes (by decide) _).map _

theorem Source.decodes (s : Source) : Decodes read s.toJson s := by
  have written : Written schema (s.component, s.host, ())
      (("component", .str s.component) :: (unlessEmpty "host" s.host ++ [])) :=
    .given (decodes_string _) (written_unlessEmpty .nil _ _)
  rw [List.append_nil] at written
  exact (written.decodes (by decide) _).map _

theorem decodes_readInstant {t : Instant} (years : Instant.inYears t.date = true) :
    Decodes readInstant (.str t.render) t := by
  apply Json.decodes_text
  simp [Instant.render, t.parse_chars years]

/-! ### Events -/

/-- The fields of an event, its time read in some way. -/
def fields {α : Type} (time : Reader α) : Json.Schema :=
  [⟨"name", Reader.string, none⟩, ⟨"eventTime", time, none⟩] ++ schema.drop 2

/-- An event is read as it was written, whatever is made of its time. -/
theorem decodes_fields (e : Event) {α : Type} {time : Reader α} {a : α}
    (read : Decodes time (.str e.time.render) a) :
    Decodes (Reader.record "struct Event" (fields time)) e.toJson
      (e.name, a, e.controller, e.regarding, e.related, e.kind, e.reason, e.action, e.note,
        ()) := by
  have last : Written (schema.drop 5) (e.kind, e.reason, e.action, e.note, ())
      [("type", e.kind.toJson), ("reason", .str e.reason), ("action", .str e.action),
        ("note", .str e.note)] :=
    .given e.kind.decodes (.given (decodes_string _) (.given (decodes_string _)
      (.given (decodes_string _) .nil)))
  have distinct : ((fields time).map (·.name)).Nodup := by
    show (schema.map (·.name)).Nodup
    decide
  have whole {members : List (String × Value)} (related : Written (schema.drop 4)
      (e.related, e.kind, e.reason, e.action, e.note, ()) members) :
      Decodes (Reader.record "struct Event" (fields time))
        (.obj ([("name", .str e.name), ("eventTime", .str e.time.render),
          ("reportingController", .str e.controller), ("regarding", e.regarding.toJson)] ++
            members))
        (e.name, a, e.controller, e.regarding, e.related, e.kind, e.reason, e.action, e.note, ()) :=
    (Written.given (decodes_string _) (.given read (.given (decodes_string _)
      (.given e.regarding.decodes related)))).decodes distinct _
  -- A reference to something related may be left out.
  obtain ⟨_, _, _, _, related, _, _, _, _⟩ := e
  cases related with
  | none => exact whole (.leftOut rfl last)
  | some r =>
    refine whole (.given (Json.decodes_some r.decodes ?_) last)
    simp [ObjectRef.toJson, Value.chars]

/-- An event is read as it was written if its year is one that can be read. -/
theorem parse_render {e : Event} (years : Instant.inYears e.time.date = true) :
    parse e.render = .ok e :=
  ((e.decodes_fields (decodes_readInstant years)).map _).document

/-! ### Spelled times -/

/-- How a text spells the time of its event. -/
def timeText (text : String) : Except Json.Report String :=
  ((Reader.record "struct Event" (fields Reader.string)).map fun (_, time, _) => time).document text

/-- What is written of an event spells its time. -/
theorem timeText_render (e : Event) : timeText e.render = .ok e.time.render :=
  ((e.decodes_fields (decodes_string _)).map _).document

/-- An instant is read where a string is that is read as the instant. -/
theorem refines_readInstant :
    Refines (fun t s => Instant.parse s.toList = .ok t) readInstant Reader.string := by
  intro cs t rest h
  simp only [readInstant, Reader.string, Reader.text] at h ⊢
  split at h
  · cases h
  · next left _ =>
    cases read : Json.stringBody left with
    | error fault => simp [read] at h
    | ok part =>
      obtain ⟨s, after⟩ := part
      cases instant : Instant.parse s.toList with
      | error fault => simp [read, instant] at h
      | ok t' =>
        simp only [read, instant, Except.ok.injEq, Prod.mk.injEq] at h
        obtain ⟨rfl, rfl⟩ := h
        exact ⟨s, rfl, instant⟩
  · cases h

def twins : Twins schema (fields Reader.string) :=
  .cons (.refl _)
    (.cons ⟨_, rfl, refines_readInstant, .none⟩ (Json.Schema.twins_refl (schema.drop 2)))

/-- A text that is read as an event spells the time of the event. -/
theorem exists_timeText {text : String} {e : Event} (h : parse text = .ok e) :
    ∃ s, timeText text = .ok s ∧ Instant.parse s.toList = .ok e.time := by
  have refines : Refines (fun (e : Event) s => Instant.parse s.toList = .ok e.time) read
      ((Reader.record "struct Event" (fields Reader.string)).map fun (_, time, _) => time) :=
    (Json.Schema.refines_record twins "struct Event").map fun _ _ agree => agree.2.1
  exact refines.document h

/-- **Survival.** Every event whose year can be read, every reference, source, selection and list of
resources is read as it was written. If a text is read as an event, it spells a point of time; what
is written of the event spells the same one, cut to whole nanoseconds, and stays as it is when it is
read and written again. -/
theorem survives_spelling :
    (∀ e : Event, -262143 ≤ e.time.date.year → e.time.date.year ≤ 262142 →
      parse e.render = .ok e) ∧
    (∀ r : ObjectRef, ObjectRef.read.document r.toJson.render = .ok r) ∧
    (∀ s : Source, Source.read.document s.toJson.render = .ok s) ∧
    (∀ s : Selection, Selection.parse s.toJson.render = .ok s) ∧
    (∀ l : Discovery.ResourceList, Discovery.ResourceList.read.document l.toJson.render = .ok l) ∧
    ∀ text e, parse text = .ok e →
      (∃ given written : String, timeText text = .ok given ∧ timeText e.render = .ok written ∧
        (∃ m, Denotes given.toList m) ∧
        ∀ m, Denotes given.toList m → Denotes written.toList m.cut) ∧
      (parse e.render).map render = .ok e.render := by
  refine ⟨?_, fun r => r.decodes.document, fun s => s.decodes.document,
    fun s => s.decodes.document, fun l => l.decodes.document, ?_⟩
  · intro e first last
    exact parse_render (Instant.inYears_iff.2 ⟨first, last⟩)
  · intro text e read
    obtain ⟨given, spelled, instant⟩ := exists_timeText read
    have years := Instant.inYears_of_parse instant
    obtain ⟨denotes, cut⟩ := Instant.denotes_of_parse instant
    refine ⟨⟨given, e.time.render, spelled, timeText_render e, denotes, ?_⟩, ?_⟩
    · intro m same
      rw [← cut m same, Instant.render, String.toList_ofList]
      exact Instant.denotes_chars e.time years
    · rw [parse_render years]
      rfl

/-- A list of the fields of an event, its time half an hour before a new year, one hour west of
universal time. -/
def lateText : String :=
  "[\"n\", \"2023-12-31 23:30:07.1234567891-01:00\", \"c\", [\"Pod\", \"\", \"p\"], null, " ++
    "\"Normal\", \"\", \"\", \"\"]"

/-- The event of that list, in the new year. -/
theorem survives_spelling_late :
    ∃ e : Event, ∃ given written : String, ∃ m : Moment,
      parse lateText = .ok e ∧ e.time.date.year = 2024 ∧ timeText lateText = .ok given ∧
        timeText e.render = .ok written ∧ Denotes given.toList m ∧ Denotes written.toList m.cut ∧
        parse e.render = .ok e ∧ (parse e.render).map render = .ok e.render := by
  obtain ⟨written, -, -, -, -, spelled⟩ := survives_spelling
  let e : Event :=
    ⟨"n", ⟨⟨2024, 1, 1, by decide, by decide⟩, 30, 7, 123456789, by decide, by decide, by decide,
      by decide⟩, "c", ⟨"Pod", "", "p", ""⟩, none, .normal, "", "", ""⟩
  have read : parse lateText = .ok e := by rfl
  obtain ⟨⟨given, text, spells, kept, ⟨m, denotes⟩, cut⟩, stays⟩ := spelled lateText e read
  exact ⟨e, given, text, m, read, rfl, spells, kept, denotes, cut m denotes,
    written e (by decide) (by decide), stays⟩

end Event

end SchedulerHost
