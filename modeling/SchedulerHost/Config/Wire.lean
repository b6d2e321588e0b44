import SchedulerHost.Config.Component
import SchedulerHost.Json.Record
import SchedulerHost.Json.Value
import SchedulerHost.Json.Variant

/-!
# The JSON form of a component configuration

How each part is written and how it is read. All settings may be left out; unknown ones are
passed over.
-/

namespace SchedulerHost.Config

open Json (Value Reader Field Schema Variant)

def optionalString : Option String → Value
  | none => .null
  | some s => .str s

/-! ### Profiles -/

def Profile.toJson (p : Profile) : Value :=
  .obj [("schedulerName", .str p.schedulerName), ("plugins", .arr (p.plugins.map .str))]

def Profile.schema : Schema :=
  [⟨"schedulerName", Reader.string, none⟩, ⟨"plugins", Reader.list Reader.string, some []⟩]

def Profile.read : Reader Profile :=
  (Reader.record "struct Profile" schema).map fun (schedulerName, plugins, ()) =>
    ⟨schedulerName, plugins⟩

/-! ### Sources -/

def PolicySource.toJson : PolicySource → Value
  | .file path => .obj [("file", .obj [("path", .str path)])]
  | .configMap space name =>
    .obj [("configMap", .obj [("namespace", .str space), ("name", .str name)])]

def PolicySource.fileSchema : Schema := [⟨"path", Reader.string, none⟩]

def PolicySource.configMapSchema : Schema :=
  [⟨"namespace", Reader.string, none⟩, ⟨"name", Reader.string, none⟩]

def PolicySource.variants : List (Variant PolicySource) :=
  [⟨"file", .fields ((Reader.record "struct variant PolicySource::File" fileSchema).map
      fun (path, ()) => .file path)⟩,
    ⟨"configMap", .fields ((Reader.record "struct variant PolicySource::ConfigMap"
      configMapSchema).map fun (space, name, ()) => .configMap space name)⟩]

def PolicySource.read : Reader PolicySource := Reader.variant variants

def AlgorithmSource.toJson : AlgorithmSource → Value
  | .provider name => .obj [("provider", .str name)]
  | .policy source => .obj [("policy", source.toJson)]

def AlgorithmSource.variants : List (Variant AlgorithmSource) :=
  [⟨"provider", .wrapped (Reader.string.map .provider)⟩,
    ⟨"policy", .wrapped (PolicySource.read.map .policy)⟩]

def AlgorithmSource.read : Reader AlgorithmSource := Reader.variant variants

/-! ### Extenders -/

def Extender.toJson (e : Extender) : Value :=
  .obj [("urlPrefix", .str e.urlPrefix), ("filterVerb", optionalString e.filterVerb),
    ("prioritizeVerb", optionalString e.prioritizeVerb), ("bindVerb", optionalString e.bindVerb),
    ("weight", .int e.weight.toInt), ("httpTimeoutSeconds", .int e.httpTimeoutSeconds.toNat),
    ("enableHttps", .bool e.enableHttps), ("ignorable", .bool e.ignorable)]

def Extender.schema : Schema :=
  [⟨"urlPrefix", Reader.string, none⟩,
    ⟨"filterVerb", Reader.optional Reader.string, some none⟩,
    ⟨"prioritizeVerb", Reader.optional Reader.string, some none⟩,
    ⟨"bindVerb", Reader.optional Reader.string, some none⟩,
    ⟨"weight", Reader.int64, some 0⟩,
    ⟨"httpTimeoutSeconds", Reader.uint64, some defaultExtenderTimeout⟩,
    ⟨"enableHttps", Reader.bool, some false⟩,
    ⟨"ignorable", Reader.bool, some false⟩]

def Extender.read : Reader Extender :=
  (Reader.record "struct Extender" schema).map
    fun (urlPrefix, filterVerb, prioritizeVerb, bindVerb, weight, httpTimeoutSeconds, enableHttps,
      ignorable, ()) =>
    ⟨urlPrefix, filterVerb, prioritizeVerb, bindVerb, weight, httpTimeoutSeconds, enableHttps,
      ignorable⟩

/-! ### The whole -/

def profilesJson (profiles : List Profile) : Value := .arr (profiles.map Profile.toJson)

def extendersJson (extenders : List Extender) : Value := .arr (extenders.map Extender.toJson)

def Component.toJson (c : Component) : Value :=
  .obj [("profiles", profilesJson c.profiles), ("algorithmSource", c.algorithmSource.toJson),
    ("disablePreemption", .bool c.disablePreemption),
    ("percentageOfNodesToScore", .int c.percentageOfNodesToScore.toNat),
    ("bindTimeoutSeconds", .int c.bindTimeoutSeconds.toNat),
    ("podInitialBackoffSeconds", .int c.podInitialBackoffSeconds.toNat),
    ("podMaxBackoffSeconds", .int c.podMaxBackoffSeconds.toNat),
    ("extenders", extendersJson c.extenders)]

def Component.schema : Schema :=
  let c := Component.standard
  [⟨"profiles", Reader.list Profile.read, some c.profiles⟩,
    ⟨"algorithmSource", AlgorithmSource.read, some c.algorithmSource⟩,
    ⟨"disablePreemption", Reader.bool, some c.disablePreemption⟩,
    ⟨"percentageOfNodesToScore", Reader.uint32, some c.percentageOfNodesToScore⟩,
    ⟨"bindTimeoutSeconds", Reader.uint64, some c.bindTimeoutSeconds⟩,
    ⟨"podInitialBackoffSeconds", Reader.uint64, some c.podInitialBackoffSeconds⟩,
    ⟨"podMaxBackoffSeconds", Reader.uint64, some c.podMaxBackoffSeconds⟩,
    ⟨"extenders", Reader.list Extender.read, some c.extenders⟩]

def Component.read : Reader Component :=
  (Reader.record "struct ComponentConfig" schema).map
    fun (profiles, algorithmSource, disablePreemption, percentageOfNodesToScore,
      bindTimeoutSeconds, podInitialBackoffSeconds, podMaxBackoffSeconds, extenders, ()) =>
    ⟨profiles, algorithmSource, disablePreemption, percentageOfNodesToScore, bindTimeoutSeconds,
      podInitialBackoffSeconds, podMaxBackoffSeconds, extenders⟩

/-- The compact JSON text of a component configuration. -/
def Component.render (c : Component) : String := c.toJson.render

def Component.parse (text : String) : Except Json.Report Component := Component.read.document text

end SchedulerHost.Config
