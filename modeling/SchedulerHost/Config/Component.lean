/-!
# Component configuration

The settings of the scheduler component: its profiles, where its algorithm comes from, its
timeouts and its extenders, with the values they have when nothing is said about them.
-/

namespace SchedulerHost.Config

/-- A scheduler name that pods may ask for, and the plugins enabled for it on
top of the provider's. -/
structure Profile where
  schedulerName : String
  plugins : List String
deriving DecidableEq

/-- Where a scheduling policy is read from. -/
inductive PolicySource where
  | file (path : String)
  | configMap (space name : String)
deriving DecidableEq

/-- Where the scheduling algorithm comes from. -/
inductive AlgorithmSource where
  | provider (name : String)
  | policy (source : PolicySource)
deriving DecidableEq

/-- A scheduler extender in a process of its own. -/
structure Extender where
  urlPrefix : String
  filterVerb : Option String
  prioritizeVerb : Option String
  bindVerb : Option String
  weight : Int64
  httpTimeoutSeconds : UInt64
  enableHttps : Bool
  ignorable : Bool
deriving DecidableEq

/-- The configuration of the scheduler component. -/
structure Component where
  profiles : List Profile
  algorithmSource : AlgorithmSource
  disablePreemption : Bool
  /-- Zero lets the scheduler choose. -/
  percentageOfNodesToScore : UInt32
  bindTimeoutSeconds : UInt64
  podInitialBackoffSeconds : UInt64
  podMaxBackoffSeconds : UInt64
  extenders : List Extender
deriving DecidableEq

/-- The scheduler name of pods that ask for none. -/
def defaultSchedulerName : String := "default-scheduler"

def defaultProvider : String := "DefaultProvider"

/-- The seconds an extender may take to answer when nothing is said about it. -/
def defaultExtenderTimeout : UInt64 := 30

/-- The configuration when nothing is said about it. -/
def Component.standard : Component where
  profiles := [⟨defaultSchedulerName, []⟩]
  algorithmSource := .provider defaultProvider
  disablePreemption := false
  percentageOfNodesToScore := 0
  bindTimeoutSeconds := 600
  podInitialBackoffSeconds := 1
  podMaxBackoffSeconds := 10
  extenders := []

instance : Inhabited Component := ⟨Component.standard⟩

end SchedulerHost.Config
