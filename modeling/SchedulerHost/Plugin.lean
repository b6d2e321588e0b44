import SchedulerHost.Json.Value
import Std.Data.TreeMap

/-!
# Plugins

The plugins that are added from outside, each with its arguments. A name is taken once.

Main statement: `Registry.args?_register`.
-/

namespace SchedulerHost.Plugin

open Json (Value)

/-- Plugins by name, with their arguments. -/
structure Registry where
  plugins : Std.TreeMap String Value

namespace Registry

def empty : Registry := ⟨∅⟩

instance : Inhabited Registry := ⟨empty⟩

def args? (r : Registry) (name : String) : Option Value := r.plugins[name]?

def names (r : Registry) : List String := r.plugins.keys

def isEmpty (r : Registry) : Bool := r.plugins.isEmpty

/-- Adds a plugin unless its name is taken, and tells whether it was added. -/
def register (r : Registry) (name : String) (args : Value) : Bool × Registry :=
  if r.plugins.contains name then (false, r) else (true, ⟨r.plugins.insert name args⟩)

/-- Do two registries hold the same plugins with the same arguments? -/
def same (r s : Registry) : Bool := r.plugins.toList = s.plugins.toList

/-- A registration that is accepted sets the arguments of its own plugin; one that is refused
changes nothing. -/
theorem args?_register (r : Registry) (name other : String) (args : Value) :
    (r.register name args).2.args? other =
      if (r.register name args).1 ∧ name = other then some args else r.args? other := by
  unfold register
  split
  · simp
  · simp [args?, Std.TreeMap.getElem?_insert]

end Registry

end SchedulerHost.Plugin
