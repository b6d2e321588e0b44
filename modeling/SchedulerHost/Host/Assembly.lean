import SchedulerHost.Error
import SchedulerHost.Event.Selection
import SchedulerHost.Host.Broadcaster
import SchedulerHost.Host.Informer

/-!
# Assemblies

What a scheduler is put together from. Some of it has to be given; the check lists all that is
missing before it looks at the component's settings.

Main statement: `complete_of_missing`.
-/

namespace SchedulerHost.Host

/-- A client of the cluster: the reason for which it refuses a probe, if it does, and how long it
takes to answer. -/
structure Client where
  refusal : Option String
  delay : Nat
deriving DecidableEq

/-- Informers that are not tracked one by one: which of them it reports as synced, how long it takes
to report, if it ever does by itself, and whether it reports at the shutdown in any case. -/
structure InformerFactory where
  report : List (String × Bool)
  delay : Option Nat
  heedsShutdown : Bool
deriving DecidableEq

/-- Is the report there that was asked for at a moment? `down` tells whether
the shutdown has come. -/
def InformerFactory.hasReported (f : InformerFactory) (asked now : Nat) (down : Bool) : Bool :=
  f.delay.any (asked + · ≤ now) || (f.heedsShutdown && down)

/-- The names that are not reported as synced, in ascending order. -/
def InformerFactory.unsynced (f : InformerFactory) : List String :=
  ((f.report.filter fun (_, synced) => !synced).map (·.1)).mergeSort fun a b => a ≤ b

/-- What a scheduler is put together from, as far as it is given. -/
structure Assembly where
  component : Config.Component
  client : Option Client
  informerFactory : Option InformerFactory
  podInformer : Option Informer
  informers : List Informer
  eventSink : Option Sink
  hasCoreBroadcaster : Bool
  selection : Event.Selection

/-- An assembly in which all that has to be given is given. -/
structure Parts where
  component : Config.Component
  client : Client
  informerFactory : InformerFactory
  podInformer : Informer
  informers : List Informer
  eventSink : Option Sink
  selection : Event.Selection

/-- All informers, that of the pods first. -/
def Parts.allInformers (p : Parts) : List Informer := p.podInformer :: p.informers

namespace Assembly

def missing (a : Assembly) : List Collaborator :=
  (if a.client.isNone then [.client] else []) ++
  (if a.informerFactory.isNone then [.informerFactory] else []) ++
  (if a.podInformer.isNone then [.podInformer] else []) ++
  (if a.hasCoreBroadcaster then [] else [.coreBroadcaster])

/-- The parts of an assembly, if nothing is missing and the component's settings are sound. -/
def complete (a : Assembly) : Except ConfigurationFault Parts :=
  match a.client, a.informerFactory, a.podInformer, a.hasCoreBroadcaster with
  | some client, some informerFactory, some podInformer, true =>
    match a.component.validate with
    | .error violation => .error (.invalid violation)
    | .ok () =>
      .ok ⟨a.component, client, informerFactory, podInformer, a.informers, a.eventSink, a.selection⟩
  | _, _, _, _ => .error (.missing a.missing)

/-- What is missing is told before the component is looked at. -/
theorem complete_of_missing {a : Assembly} (h : a.missing ≠ []) :
    a.complete = .error (.missing a.missing) := by
  unfold complete
  split
  · next hc hf hp hb => simp [missing, hc, hf, hp, hb] at h
  · rfl

end Assembly

end SchedulerHost.Host
