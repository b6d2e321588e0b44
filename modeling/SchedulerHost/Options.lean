import SchedulerHost.Config.Component
import SchedulerHost.Plugin
import SchedulerHost.Time.Span

/-!
# Options

What the core of a scheduler is built with: the component's settings, its timeouts as spans of
time, and the plugins added from outside.

Main statement: `component_ofComponent`: no setting is lost.
-/

namespace SchedulerHost

/-- What the core of a scheduler is built with. -/
structure Options where
  profiles : List Config.Profile
  algorithmSource : Config.AlgorithmSource
  disablePreemption : Bool
  percentageOfNodesToScore : UInt32
  bindTimeout : Time.Span
  podInitialBackoff : Time.Span
  podMaxBackoff : Time.Span
  registry : Plugin.Registry
  extenders : List Config.Extender

namespace Options

def ofSeconds (seconds : UInt64) : Time.Span := .ofParts seconds.toNat 0

def toSeconds (span : Time.Span) : UInt64 := .ofNat (span.nanos / 1000000000)

/-- The options of a component configuration, without further plugins. -/
def ofComponent (component : Config.Component) : Options where
  profiles := component.profiles
  algorithmSource := component.algorithmSource
  disablePreemption := component.disablePreemption
  percentageOfNodesToScore := component.percentageOfNodesToScore
  bindTimeout := ofSeconds component.bindTimeoutSeconds
  podInitialBackoff := ofSeconds component.podInitialBackoffSeconds
  podMaxBackoff := ofSeconds component.podMaxBackoffSeconds
  registry := .empty
  extenders := component.extenders

def withRegistry (options : Options) (registry : Plugin.Registry) : Options :=
  { options with registry := registry }

/-- The settings that the options carry, the timeouts in whole seconds. -/
def component (options : Options) : Config.Component where
  profiles := options.profiles
  algorithmSource := options.algorithmSource
  disablePreemption := options.disablePreemption
  percentageOfNodesToScore := options.percentageOfNodesToScore
  bindTimeoutSeconds := toSeconds options.bindTimeout
  podInitialBackoffSeconds := toSeconds options.podInitialBackoff
  podMaxBackoffSeconds := toSeconds options.podMaxBackoff
  extenders := options.extenders

/-- Whole seconds survive the way to a span and back. -/
theorem toSeconds_ofSeconds (seconds : UInt64) : toSeconds (ofSeconds seconds) = seconds := by
  have whole : (ofSeconds seconds).nanos / 1000000000 = seconds.toNat := by
    simp only [ofSeconds, Time.Span.ofParts]
    omega
  rw [toSeconds, whole, UInt64.ofNat_toNat]

/-- Options carry the settings they were made of. -/
@[simp] theorem component_ofComponent (component : Config.Component) :
    (ofComponent component).component = component := by
  simp only [Options.component, ofComponent, toSeconds_ofSeconds]

end Options

end SchedulerHost
