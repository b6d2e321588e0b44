import SchedulerHost.Config.Component
import SchedulerHost.Config.Settings

/-!
# Overrides

Settings that replace parts of a component configuration. They are laid over it one after the
other; the first that does not decode ends this, and what was laid over before it stays.

Main statement: `overlay_cons`, which says what the first override does.
-/

namespace SchedulerHost.Config

/-- A part of the configuration that a setting may replace. -/
structure Override where
  key : String
  overlay : Settings → Component → Except SettingFault Component

/-- The override of one part by a setting. -/
def Override.of {α : Type} (key : String) (decode : Decoder α) (put : α → Component → Component) :
    Override :=
  ⟨key, fun settings c =>
    match settings.parse decode key with
    | .error fault => .error fault
    | .ok none => .ok c
    | .ok (some a) => .ok (put a c)⟩

def percentageKey : String := "MULTISCHED_PERCENTAGE_OF_NODES_TO_SCORE"

def bindTimeoutKey : String := "MULTISCHED_BIND_TIMEOUT_SECONDS"

def initialBackoffKey : String := "MULTISCHED_POD_INITIAL_BACKOFF_SECONDS"

def maxBackoffKey : String := "MULTISCHED_POD_MAX_BACKOFF_SECONDS"

def preemptionKey : String := "MULTISCHED_DISABLE_PREEMPTION"

/-- The overrides, in the order in which they are laid over. -/
def overrides : List Override :=
  [.of percentageKey .uint32 fun n c => { c with percentageOfNodesToScore := n },
    .of bindTimeoutKey .uint64 fun n c => { c with bindTimeoutSeconds := n },
    .of initialBackoffKey .uint64 fun n c => { c with podInitialBackoffSeconds := n },
    .of maxBackoffKey .uint64 fun n c => { c with podMaxBackoffSeconds := n },
    .of preemptionKey .bool fun b c => { c with disablePreemption := b }]

/-- Lays overrides over a configuration. The configuration comes back in either case, with what was
laid over before the first fault. -/
def overlay (settings : Settings) : List Override → Component → Component × Except SettingFault Unit
  | [], c => (c, .ok ())
  | o :: rest, c =>
    match o.overlay settings c with
    | .error fault => (c, .error fault)
    | .ok c => overlay settings rest c

def Component.applyOverrides (c : Component) (settings : Settings) :
    Component × Except SettingFault Unit :=
  overlay settings overrides c

/-- When the first overlay succeeds, the others go on from what it leaves. -/
theorem overlay_cons (settings : Settings) (o : Override) (rest : List Override) (c c' : Component)
    (h : o.overlay settings c = .ok c') :
    overlay settings (o :: rest) c = overlay settings rest c' := by
  simp [overlay, h]

end SchedulerHost.Config
