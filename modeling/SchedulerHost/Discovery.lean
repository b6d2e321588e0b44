import SchedulerHost.Json.Record
import SchedulerHost.Json.Value

/-!
# Discovery

What a cluster tells of the resources it serves under a group version.
-/

namespace SchedulerHost.Discovery

open Json (Value Reader Schema)

structure Resource where
  name : String
  kind : String
  namespaced : Bool
  verbs : List String
deriving DecidableEq

/-- The resources served under a group version. -/
structure ResourceList where
  groupVersion : String
  resources : List Resource
deriving DecidableEq

def Resource.toJson (r : Resource) : Value :=
  .obj [("name", .str r.name), ("kind", .str r.kind), ("namespaced", .bool r.namespaced),
    ("verbs", .arr (r.verbs.map .str))]

def Resource.schema : Schema :=
  [⟨"name", Reader.string, none⟩, ⟨"kind", Reader.string, none⟩,
    ⟨"namespaced", Reader.bool, some false⟩, ⟨"verbs", Reader.list Reader.string, some []⟩]

def Resource.read : Reader Resource :=
  (Reader.record "struct ApiResource" schema).map fun (name, kind, namespaced, verbs, ()) =>
    ⟨name, kind, namespaced, verbs⟩

def ResourceList.toJson (l : ResourceList) : Value :=
  .obj [("groupVersion", .str l.groupVersion),
    ("resources", .arr (l.resources.map Resource.toJson))]

def ResourceList.schema : Schema :=
  [⟨"groupVersion", Reader.string, none⟩, ⟨"resources", Reader.list Resource.read, some []⟩]

def ResourceList.read : Reader ResourceList :=
  (Reader.record "struct ApiResourceList" schema).map fun (groupVersion, resources, ()) =>
    ⟨groupVersion, resources⟩

end SchedulerHost.Discovery
