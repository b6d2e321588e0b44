import SchedulerHost.Event.Channel
import SchedulerHost.Host.Surroundings

/-!
# Broadcasters

A broadcaster passes the events of its recorders to a sink. Recording to the sink is started once;
events recorded before, or after the recording has ended, are dropped. The recording takes one
event at a time from the channel; its token is looked at before each, but not while the sink works.
-/

namespace SchedulerHost.Host

/-- A sink of events: the reasons it refuses, how long it works on an event, and which of the
events it accepts it tells of. -/
structure Sink where
  refuses : List String
  delay : Nat
  every : Nat
deriving DecidableEq

/-- What the recording of events is at. -/
inductive RecordingPhase where
  | fresh
  | waiting
  | delivering (event : Event) (due : Nat)
  | ended
deriving DecidableEq

/-- The recording of events, with the token that stops it. -/
structure Recording where
  stop : Token
  phase : RecordingPhase
  aborted : Bool
deriving DecidableEq

/-- A broadcaster: its sink, the channel to its recording, the number of those that can send, the
number of events the sink has accepted, and the recording, once it is started. -/
structure Broadcaster where
  sink : Sink
  channel : Event.Channel Event
  senders : Nat
  accepted : Nat
  recording : Option Recording
deriving DecidableEq

namespace Broadcaster

def defaultCapacity : Nat := 1000

def new (sink : Sink) (capacity : Nat) : Broadcaster := ⟨sink, .empty capacity, 1, 0, none⟩

def isRecording (b : Broadcaster) : Bool := b.recording.isSome

def hasListener (b : Broadcaster) : Bool :=
  match b.recording with
  | none => false
  | some r => r.phase ≠ .ended

/-- Starts the recording, unless it has been started before. -/
def start (b : Broadcaster) (stop : Token) : Except Event.Fault Broadcaster :=
  if b.isRecording then .error .alreadyRecording
  else .ok { b with recording := some ⟨stop, .fresh, false⟩ }

/-- Sends the event of a remark, and notes it if it is dropped. -/
def send (s : Surroundings) (scope : Scope) (b : Broadcaster) (controller : String)
    (remark : Event.Remark) : Surroundings × Broadcaster :=
  if b.hasListener then
    (s, { b with channel := b.channel.push (.of s.stamp controller remark) })
  else (s.note scope (.eventDropped remark.reason), b)

/-- The recording ends when it takes its next step. -/
def abort (b : Broadcaster) : Broadcaster :=
  { b with recording := b.recording.map fun r => { r with aborted := true } }

def enter (b : Broadcaster) (r : Recording) (phase : RecordingPhase) : Broadcaster :=
  { b with recording := some { r with phase := phase } }

def finish (s : Surroundings) (b : Broadcaster) (r : Recording) : Surroundings × Broadcaster :=
  (s.note .outside .recordingStopped, b.enter r .ended)

/-- The sink has done its work on an event. -/
def deliver (s : Surroundings) (b : Broadcaster) (r : Recording) (event : Event) :
    Surroundings × Broadcaster :=
  if event.reason ∈ b.sink.refuses then
    ((s.call (.sinkRefuse event)).note .outside
      (.eventRefused ("sink refused " ++ event.reason)), b.enter r .waiting)
  else
    (s.call (.sinkAccept (b.accepted + 1) event),
      { b.enter r .waiting with accepted := b.accepted + 1 })

/-- The recording looks for the next event. -/
def receive? (s : Surroundings) (b : Broadcaster) (r : Recording) :
    Option (Surroundings × Broadcaster) :=
  if s.isCancelled r.stop then some (finish s b r)
  else
    match b.channel.pull? with
    | some (.lagged missed, channel) =>
      some (s.note .outside (.eventsLagged missed), { b with channel := channel })
    | some (.item event, channel) =>
      some (s, { b with channel := channel }.enter r (.delivering event (s.now + b.sink.delay)))
    | none => if b.senders = 0 then some (finish s b r) else none

def step? (s : Surroundings) (b : Broadcaster) : Option (Surroundings × Broadcaster) :=
  match b.recording with
  | none => none
  | some r =>
    if r.phase = .ended then none
    -- Whoever is ended from outside says nothing any more.
    else if r.aborted then some (s, b.enter r .ended)
    else
      match r.phase with
      | .fresh => some (s.note .outside .recordingStarted, b.enter r .waiting)
      | .waiting => receive? s b r
      -- The token waits too: the sink is not disturbed.
      | .delivering event due => if due ≤ s.now then some (deliver s b r event) else none
      | .ended => none

def alarms (b : Broadcaster) : List Nat :=
  match b.recording with
  | some ⟨_, .delivering _ due, _⟩ => [due]
  | _ => []

def work (b : Broadcaster) : Nat :=
  2 * b.channel.kept.length + b.channel.missed +
    match b.recording with
    | none => 0
    | some r =>
      match r.phase with
      | .fresh => 2
      | .waiting => 1
      | .delivering _ _ => 2
      | .ended => 0

end Broadcaster

end SchedulerHost.Host
