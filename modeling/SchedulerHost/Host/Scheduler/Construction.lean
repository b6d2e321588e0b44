import SchedulerHost.Host.Scheduler.Basic

/-!
# Construction

A scheduler is put together from an assembly by a builder. The builder is asked last: when the
assembly is complete and sound, the backend of the events is chosen, and every feed is registered.

Main statement: `construct_of_incomplete`.
-/

namespace SchedulerHost.Host

open Feed (GateFault)

/-- Registers the feeds of informers, one after the other, up to the first that is refused. -/
def registerAll (s : Surroundings) (c : Cache) :
    List Informer → Surroundings × Except GateFault (List Driver × Cache)
  | [] => (s, .ok ([], c))
  | informer :: rest =>
    match Driver.register s c informer with
    | .error fault => (s, .error fault)
    | .ok (driver, s, c) =>
      let (s, rest) := registerAll s c rest
      (s, rest.map fun (drivers, c) => (driver :: drivers, c))

namespace Scheduler

/-- A scheduler of the given parts, before any run. -/
def idle (surroundings : Surroundings) (parts : Parts) (builder : Builder) (cache : Cache)
    (backend : Backend) (drivers : List Driver) : Scheduler where
  surroundings := surroundings
  parts := parts
  builder := builder
  cache := cache
  backend := backend
  drivers := drivers
  informers := []
  core := none
  run := .idle
  started := false
  ready := false
  outstanding := []
  line := .empty

/-- Has the core built for drivers that are registered. -/
def build (s : Surroundings) (parts : Parts) (builder : Builder) (cache : Cache)
    (backend : Backend) (drivers : List Driver) : Surroundings × Except Error Scheduler :=
  let s := s.call (.build ⟨parts.podInformer.feed, backend.kind, s.isCancelled .shutdown,
    .ofComponent parts.component⟩)
  match builder.refusal with
  | some chain =>
    let cause := Failure.ofChain chain
    (s.note .outside (.buildFailed cause.message), .error (.construction cause))
  | none =>
    let (s, backend) := backend.newRecorder s builder.component
    let s := s.note .outside
      (.constructed parts.component.profiles.length drivers.length backend.kind)
    (s, .ok (idle s parts builder cache backend drivers))

def construct (s : Surroundings) (assembly : Assembly) (builder : Builder) :
    Surroundings × Except Error Scheduler :=
  match assembly.complete with
  | .error fault => (s, .error (.configuration fault))
  | .ok parts =>
    let (s, backend) := Backend.resolve s parts.client parts.selection parts.eventSink
    -- A feed can only be refused here because another informer has it.
    match registerAll s .empty parts.allInformers with
    | (s, .error fault) => (s, .error (.configuration (.feed fault)))
    | (s, .ok (drivers, cache)) => build s parts builder cache backend drivers

/-- An assembly that is not complete and sound is refused before anything is done with it. -/
theorem construct_of_incomplete (s : Surroundings) {assembly : Assembly} (builder : Builder)
    {fault : ConfigurationFault} (h : assembly.complete = .error fault) :
    construct s assembly builder = (s, .error (.configuration fault)) := by
  simp [construct, h]

end Scheduler

end SchedulerHost.Host
