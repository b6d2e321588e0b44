import SchedulerHost.Host.Assembly

/-!
# Backends

Events go to one of two backends: a broadcaster of structured events, or the legacy recorders of
the core. Which one is settled once. The client is asked only when the selection leaves it to a
probe, and structured events need a sink.
-/

namespace SchedulerHost.Host

/-- Where events go. -/
inductive Backend where
  | structured (broadcaster : Broadcaster)
  | legacy
deriving DecidableEq

namespace Backend

def kind : Backend → BackendKind
  | .structured _ => .structured
  | .legacy => .legacy

def broadcaster? : Backend → Option Broadcaster
  | .structured b => some b
  | .legacy => none

/-! ### Choosing -/

def probe (s : Surroundings) (client : Client) (groupVersion : String) : Surroundings × Bool :=
  let s := s.call (.probe groupVersion)
  let s := { s with now := s.now + client.delay }
  match client.refusal with
  | none => (s.note .outside (.eventsServed groupVersion), true)
  | some reason => (s.note .outside (.eventsNotServed groupVersion reason), false)

/-- Are structured events wanted and served? -/
def isServed (s : Surroundings) (client : Client) (selection : Event.Selection) :
    Surroundings × Bool :=
  match selection.mode with
  | .forceBroadcast => (s, true)
  | .forceCompat => (s, false)
  | .probe => probe s client selection.groupVersion

def resolve (s : Surroundings) (client : Client) (selection : Event.Selection)
    (sink : Option Sink) : Surroundings × Backend :=
  match isServed s client selection, sink with
  | (s, true), some sink =>
    (s.note .outside (.structuredRecorder selection.mode),
      .structured (.new sink Broadcaster.defaultCapacity))
  | (s, true), none => (s.note .outside .noEventClient, .legacy)
  | (s, false), _ => (s.note .outside (.legacyRecorder selection.mode), .legacy)

/-! ### Recorders -/

def newRecorder (s : Surroundings) (backend : Backend) (component : String) :
    Surroundings × Backend :=
  match backend with
  | .structured b => (s, .structured { b with senders := b.senders + 1 })
  | .legacy => (s.call (.legacyRecorder ⟨component, ""⟩), .legacy)

/-- A recorder, or whoever else can send, is gone. -/
def release : Backend → Backend
  | .structured b => .structured { b with senders := b.senders - 1 }
  | .legacy => .legacy

/-- What a legacy recorder passes on of a remark: neither the related object nor the action. -/
def emitLegacy (s : Surroundings) (component : String) (remark : Event.Remark) : Surroundings :=
  s.call (.legacyEvent component remark.regarding remark.kind remark.reason remark.note)

def emit (s : Surroundings) (scope : Scope) (backend : Backend) (component : String)
    (remark : Event.Remark) : Surroundings × Backend :=
  match backend with
  | .structured b =>
    let (s, b) := b.send s scope component remark
    (s, .structured b)
  | .legacy => (emitLegacy s component remark, .legacy)

/-! ### The recording -/

/-- Has the recording been started? There may be no broadcaster. -/
def isRecording? (backend : Backend) : Option Bool := backend.broadcaster?.map (·.isRecording)

def step? (s : Surroundings) : Backend → Option (Surroundings × Backend)
  | .structured b => (b.step? s).map fun (s, b) => (s, .structured b)
  | .legacy => none

def alarms : Backend → List Nat
  | .structured b => b.alarms
  | .legacy => []

def work : Backend → Nat
  | .structured b => b.work
  | .legacy => 0

end Backend

end SchedulerHost.Host
