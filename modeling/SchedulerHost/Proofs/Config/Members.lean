import SchedulerHost.Proofs.Config.RoundTrip
import SchedulerHost.Proofs.Json.Wellformed

/-!
# What a configuration takes from its text

A configuration that is written as an object takes each of its parts from the member of that name,
wherever it stands, and has the standard value where there is none. Members of other names may hold
anything.

* `Part`: a part of a configuration, with its name, its reader and its place in a configuration.
* `Component.parse_iff`: a configuration is read if each part is given, and then it has what is
  given. `Part.given_eq_none_iff`: when a part is refused.
* `Component.parse_amid`: a configuration that was written is read from among other members.
* **Members** (`Component.parse_members`): what is accepted and what is read of it, and that nothing
  else matters.
-/

namespace SchedulerHost.Config

open Json (Reader Field Schema ObjectText Steady Value decoded valuesOf)

/-! ### Parts -/

inductive Part where
  | profiles
  | algorithmSource
  | preemption
  | percentage
  | bindTimeout
  | initialBackoff
  | maxBackoff
  | extenders
deriving DecidableEq

namespace Part

def name : Part → String
  | profiles => "profiles"
  | algorithmSource => "algorithmSource"
  | preemption => "disablePreemption"
  | percentage => "percentageOfNodesToScore"
  | bindTimeout => "bindTimeoutSeconds"
  | initialBackoff => "podInitialBackoffSeconds"
  | maxBackoff => "podMaxBackoffSeconds"
  | extenders => "extenders"

abbrev type : Part → Type
  | profiles => List Profile
  | algorithmSource => AlgorithmSource
  | preemption => Bool
  | percentage => UInt32
  | bindTimeout | initialBackoff | maxBackoff => UInt64
  | extenders => List Extender

def read : (p : Part) → Reader p.type
  | profiles => Reader.list Profile.read
  | algorithmSource => AlgorithmSource.read
  | preemption => Reader.bool
  | percentage => Reader.uint32
  | bindTimeout | initialBackoff | maxBackoff => Reader.uint64
  | extenders => Reader.list Extender.read

def get : (p : Part) → Component → p.type
  | profiles, c => c.profiles
  | algorithmSource, c => c.algorithmSource
  | preemption, c => c.disablePreemption
  | percentage, c => c.percentageOfNodesToScore
  | bindTimeout, c => c.bindTimeoutSeconds
  | initialBackoff, c => c.podInitialBackoffSeconds
  | maxBackoff, c => c.podMaxBackoffSeconds
  | extenders, c => c.extenders

/-- The parts in the order in which they are declared. -/
def all : List Part :=
  [profiles, algorithmSource, preemption, percentage, bindTimeout, initialBackoff, maxBackoff,
    extenders]

abbrev field (p : Part) : Field := ⟨p.name, p.read, some (p.get Component.standard)⟩

/-- Makes a part of a text that holds nothing but its value. -/
def decode (p : Part) (v : List Char) : Except Json.Report p.type :=
  p.read.document (String.ofList v)

def names : List String := all.map name

theorem mem_all (p : Part) : p ∈ all := by
  cases p <;> decide

theorem name_injective {p q : Part} (h : p.name = q.name) : p = q := by
  cases p <;> cases q <;> first | rfl | simp [name] at h

/-- The fields of a configuration are its parts. -/
theorem schema_eq : Component.schema = all.map field := rfl

end Part

/-! ### Steadiness -/

theorem Profile.steady : Steady read := by
  refine (Json.Schema.steady_record ?_ _).map _
  simp [schema, Json.steady_string, Json.steady_string.list]

theorem PolicySource.steady : Steady read := by
  have file : ∀ f ∈ fileSchema, Steady f.read := by simp [fileSchema, Json.steady_string]
  have configMap : ∀ f ∈ configMapSchema, Steady f.read := by
    simp [configMapSchema, Json.steady_string]
  refine Json.Variant.steady_variant ?_
  simp only [variants, List.forall_mem_cons, Json.Variant.content]
  exact ⟨(Json.Schema.steady_record file _).map _, (Json.Schema.steady_record configMap _).map _,
    by simp⟩

theorem AlgorithmSource.steady : Steady read := by
  refine Json.Variant.steady_variant ?_
  simp only [variants, List.forall_mem_cons, Json.Variant.content]
  exact ⟨Json.steady_string.map _, PolicySource.steady.map _, by simp⟩

theorem Extender.steady : Steady read := by
  refine (Json.Schema.steady_record ?_ _).map _
  simp [schema, Json.steady_string, Json.steady_string.optional, Json.steady_int64,
    Json.steady_uint64, Json.steady_bool]

/-- Every part is read for itself. -/
theorem Part.steady (p : Part) : Steady p.read := by
  cases p with
  | profiles => exact Profile.steady.list
  | algorithmSource => exact AlgorithmSource.steady
  | preemption => exact Json.steady_bool
  | percentage => exact Json.steady_uint32
  | bindTimeout | initialBackoff | maxBackoff => exact Json.steady_uint64
  | extenders => exact Extender.steady.list

/-- A part is made of a text that holds nothing but its value as it is inside an object. -/
theorem Part.toOption_decode (p : Part) {v : List Char} (h : Json.ValueText v) :
    (p.decode v).toOption = decoded p.read v := by
  have read := p.steady.toOption_document Json.blanks_nil h Json.blanks_nil
  rwa [List.nil_append, List.append_nil] at read

/-! ### What is given -/

def Component.ofValues : Schema.Values schema → Component :=
  fun (profiles, algorithmSource, disablePreemption, percentageOfNodesToScore,
      bindTimeoutSeconds, podInitialBackoffSeconds, podMaxBackoffSeconds, extenders, ()) =>
    ⟨profiles, algorithmSource, disablePreemption, percentageOfNodesToScore, bindTimeoutSeconds,
      podInitialBackoffSeconds, podMaxBackoffSeconds, extenders⟩

/-- A configuration is read off what its members say, however the text is laid out. -/
theorem Component.toOption_parse (o : ObjectText) :
    (parse o.text).toOption = (schema.gather o.pairs).map ofValues := by
  have steady : ∀ f ∈ schema, Steady f.read := by
    rw [Part.schema_eq]
    exact List.forall_mem_map.2 fun p _ => p.steady
  rw [← o.toOption_record steady (by decide) "struct ComponentConfig"]
  exact Json.toOption_document_map _ _ _

def Component.pick (c : Component) : (ps : List Part) → Schema.Values (ps.map Part.field)
  | [] => ()
  | p :: ps => .cons (p.get c) (c.pick ps)

theorem Component.gather_eq_pick (c : Component) (ps : List Part)
    (pairs : List (String × List Char)) :
    Schema.gather (ps.map Part.field) pairs = some (c.pick ps) ↔
      ∀ p ∈ ps, p.field.given pairs = some (p.get c) := by
  induction ps with
  | nil => exact iff_of_true rfl nofun
  | cons p ps ih =>
    show Schema.gather (p.field :: ps.map Part.field) pairs = some (.cons (p.get c) (c.pick ps)) ↔ _
    rw [Schema.gather_cons_eq_some, ih, List.forall_mem_cons]

/-- A configuration is read of an object if each part is given, and then it has what is given. -/
theorem Component.parse_iff (o : ObjectText) (c : Component) :
    parse o.text = .ok c ↔ ∀ p : Part, p.field.given o.pairs = some (p.get c) := by
  have picked (values : Schema.Values schema) : values = (ofValues values).pick Part.all := rfl
  rw [← Json.toOption_eq_some_iff, toOption_parse, Option.map_eq_some_iff]
  constructor
  · rintro ⟨values, gathered, rfl⟩ p
    rw [picked values] at gathered
    exact ((ofValues values).gather_eq_pick Part.all o.pairs).1 gathered p p.mem_all
  · intro given
    exact ⟨c.pick Part.all, (c.gather_eq_pick Part.all o.pairs).2 fun p _ => given p, rfl⟩

/-- If each part is given, there is a configuration that has them all. -/
theorem Component.exists_of_given {pairs : List (String × List Char)}
    (given : ∀ p : Part, ∃ a, p.field.given pairs = some a) :
    ∃ c : Component, ∀ p : Part, p.field.given pairs = some (p.get c) := by
  refine ⟨⟨(given .profiles).choose, (given .algorithmSource).choose, (given .preemption).choose,
    (given .percentage).choose, (given .bindTimeout).choose, (given .initialBackoff).choose,
    (given .maxBackoff).choose, (given .extenders).choose⟩, fun p => ?_⟩
  cases p <;> exact (given _).choose_spec

/-- An object is refused if one of the parts is. -/
theorem Component.parse_refused_iff (o : ObjectText) :
    (∃ report, parse o.text = .error report) ↔ ∃ p : Part, p.field.given o.pairs = none := by
  rw [← Json.toOption_eq_none_iff, Option.eq_none_iff_forall_ne_some]
  constructor
  · intro refused
    refine Classical.byContradiction fun none => ?_
    obtain ⟨c, given⟩ := exists_of_given fun p =>
      Option.ne_none_iff_exists'.1 fun lost => none ⟨p, lost⟩
    exact refused c (Json.toOption_eq_some_iff.2 ((parse_iff o c).2 given))
  · rintro ⟨p, lost⟩ c read
    have given := (parse_iff o c).1 (Json.toOption_eq_some_iff.1 read) p
    rw [lost] at given
    cases given

namespace Part

variable {o : ObjectText} {p : Part}

/-- A part is refused if it comes more than once, or if its value is not decoded. -/
theorem given_eq_none_iff :
    p.field.given o.pairs = none ↔ 1 < (valuesOf p.name o.pairs).length ∨
      ∃ v ∈ valuesOf p.name o.pairs, ∃ report, p.decode v = .error report := by
  have value {v : List Char} (there : v ∈ valuesOf p.name o.pairs) :=
    p.toOption_decode (o.valueText_of_mem (Json.mem_valuesOf.1 there))
  rw [Field.given]
  revert value
  cases valuesOf p.name o.pairs with
  | nil => simp [Field.ofValues]
  | cons v vs =>
    cases vs with
    | nil =>
      intro value
      simp [Field.ofValues, ← Json.toOption_eq_none_iff, value]
    | cons w vs => simp [Field.ofValues]

/-- What is given of a part is what its values say. -/
theorem decode_of_given {a : p.type} (given : p.field.given o.pairs = some a) :
    (∀ v ∈ valuesOf p.name o.pairs, p.decode v = .ok a) ∧
      (valuesOf p.name o.pairs = [] → a = p.get Component.standard) := by
  have value {v : List Char} (there : v ∈ valuesOf p.name o.pairs) :=
    p.toOption_decode (o.valueText_of_mem (Json.mem_valuesOf.1 there))
  rw [Field.given] at given
  revert given value
  cases valuesOf p.name o.pairs with
  | nil => simp [Field.ofValues, eq_comm]
  | cons v vs =>
    cases vs with
    | nil =>
      intro given value
      refine ⟨fun u there => ?_, fun none => absurd none (List.cons_ne_nil v [])⟩
      obtain rfl := List.mem_singleton.1 there
      exact Json.toOption_eq_some_iff.1 ((value there).trans given)
    | cons w vs => simp [Field.ofValues]

/-- The members of an object whose names are those of parts. -/
def known (pairs : List (String × List Char)) : List (String × List Char) :=
  pairs.filter (·.1 ∈ names)

/-- Unknown members say nothing of a part. -/
theorem valuesOf_known (p : Part) (pairs : List (String × List Char)) :
    valuesOf p.name (known pairs) = valuesOf p.name pairs := by
  have named : p.name ∈ names := List.mem_map_of_mem p.mem_all
  rw [valuesOf, known, List.filter_filter, valuesOf]
  congr 1
  refine List.filter_congr fun pair _ => ?_
  by_cases own : pair.1 = p.name
  · simp [own, named]
  · simp [own]

/-- Only the members whose names are those of parts matter, in whatever order they come. -/
theorem given_eq_of_perm {pairs others : List (String × List Char)}
    (perm : (known pairs).Perm (known others)) (p : Part) :
    p.field.given pairs = p.field.given others := by
  rw [Field.given, Field.given, ← valuesOf_known p pairs, ← valuesOf_known p others]
  exact p.field.ofValues_perm (Json.perm_valuesOf perm p.name)

end Part

/-- Without its only member of that name, a part has its standard value,
and the others are as they were. -/
theorem Component.parse_without {o o' : ObjectText} {c : Component} (read : parse o.text = .ok c)
    {p : Part} {v : List Char}
    (perm : (Part.known o.pairs).Perm ((p.name, v) :: Part.known o'.pairs)) :
    ∃ c', parse o'.text = .ok c' ∧ p.get c' = p.get standard ∧
      ∀ q : Part, q ≠ p → q.get c' = q.get c := by
  have given := (parse_iff o c).1 read
  have here : p.field.given o'.pairs = some (p.get standard) := by
    have values := Json.perm_valuesOf perm p.name
    rw [Part.valuesOf_known, Json.valuesOf_cons_self, Part.valuesOf_known] at values
    have once := given p
    rw [Field.given, p.field.ofValues_perm values] at once
    rw [Field.given]
    revert once
    cases valuesOf p.name o'.pairs with
    | nil => exact fun _ => rfl
    | cons w ws => simp [Field.ofValues]
  have elsewhere (q : Part) (other : q ≠ p) : q.field.given o'.pairs = some (q.get c) := by
    have values := Json.perm_valuesOf perm q.name
    rw [Json.valuesOf_cons_of_ne fun same => other (Part.name_injective same),
      Part.valuesOf_known, Part.valuesOf_known] at values
    rw [← given q]
    exact (q.field.ofValues_perm values).symm
  have every (q : Part) : ∃ a, q.field.given o'.pairs = some a := by
    by_cases own : q = p
    · exact ⟨_, own ▸ here⟩
    · exact ⟨_, elsewhere q own⟩
  obtain ⟨c', given'⟩ := exists_of_given every
  refine ⟨c', (parse_iff o' c').2 given', ?_, fun q other => ?_⟩
  · exact Option.some.inj ((given' p).symm.trans here)
  · exact Option.some.inj ((given' q).symm.trans (elsewhere q other))

/-- A written configuration is read from among members of other names,
in whatever order its own come. -/
theorem Component.parse_amid {c : Component} {own members : List (String × Value)}
    (written : c.toJson = .obj own) (perm : (members.filter (·.1 ∈ Part.names)).Perm own) :
    parse (Value.obj members).render = .ok c := by
  have known (ms : List (String × Value)) : Part.known (ObjectText.ofMembers ms).pairs =
      (ms.filter (·.1 ∈ Part.names)).map fun m => (m.1, m.2.chars) := by
    rw [ObjectText.pairs_ofMembers, Part.known, List.filter_map]
    rfl
  have all : own.filter (·.1 ∈ Part.names) = own := by
    obtain rfl := Value.obj.inj written
    rfl
  have same : (Part.known (ObjectText.ofMembers members).pairs).Perm
      (Part.known (ObjectText.ofMembers own).pairs) := by
    rw [known, known, all]
    exact perm.map _
  have read := c.parse_render
  rw [render, written, ← ObjectText.text_ofMembers, parse_iff] at read
  rw [← ObjectText.text_ofMembers, parse_iff]
  intro p
  rw [Part.given_eq_of_perm same, read]

/-- **Members.** An object is refused if a part comes more than once or one of its values is not
decoded. Otherwise each part that comes has its decoded value, and each other part the standard one.
So neither the order of the members nor members of other names make a difference, and without its
member a part goes back to the standard value. -/
theorem Component.parse_members (o : ObjectText) :
    ((∃ report, parse o.text = .error report) ↔
      ∃ p : Part, 1 < (valuesOf p.name o.pairs).length ∨
        ∃ v ∈ valuesOf p.name o.pairs, ∃ report, p.decode v = .error report) ∧
    (∀ c, parse o.text = .ok c → ∀ p : Part,
      (∀ v ∈ valuesOf p.name o.pairs, p.decode v = .ok (p.get c)) ∧
        (valuesOf p.name o.pairs = [] → p.get c = p.get standard)) ∧
    (∀ o' : ObjectText, (Part.known o'.pairs).Perm (Part.known o.pairs) →
      (parse o'.text).toOption = (parse o.text).toOption) ∧
    ∀ c, parse o.text = .ok c → ∀ (p : Part) (v : List Char) (o' : ObjectText),
      (Part.known o.pairs).Perm ((p.name, v) :: Part.known o'.pairs) →
        ∃ c', parse o'.text = .ok c' ∧ p.get c' = p.get standard ∧
          ∀ q : Part, q ≠ p → q.get c' = q.get c := by
  refine ⟨?_, ?_, ?_, ?_⟩
  · exact (parse_refused_iff o).trans (exists_congr fun p => Part.given_eq_none_iff)
  · exact fun c read p => Part.decode_of_given ((parse_iff o c).1 read p)
  · intro o' perm
    refine Option.ext fun c => ?_
    rw [Json.toOption_eq_some_iff, Json.toOption_eq_some_iff, parse_iff, parse_iff]
    exact forall_congr' fun p => by rw [Part.given_eq_of_perm perm p]
  · exact fun c read p v o' perm => parse_without read perm

example : (Component.parse ("\x7b\"x\":[1e999,\x7b\x7d]," ++
    "\"disable\\u0050reemption\" : true,\"x\":\"\\ud800\"\x7d")).toOption =
      some { Component.standard with disablePreemption := true } := by
  decide +kernel

end SchedulerHost.Config
