import SchedulerHost.Host.Clock
import SchedulerHost.Host.Core

/-!
# Schedulers

A scheduler holds the parts it was put together from, the feeds and the backend of its events, and
what it has launched: the recording of events, an informer for each feed and the core. Besides
these tasks there is the run, which launches them, and which is over when the shutdown comes or
the caches cannot be waited for any longer.
-/

namespace SchedulerHost.Host

open Feed (FeedId)

/-- What a run launches. Informers are told apart by their place. -/
inductive Task where
  | recording
  | informer (index : Nat)
  | core
deriving DecidableEq, Hashable

inductive Agent where
  | run
  | task (t : Task)
deriving DecidableEq, Hashable

/-- What a run waits for. -/
inductive RunPhase where
  /-- For its first step. -/
  | entered
  /-- For the report of the informer factory, asked for at a moment. -/
  | awaitingFactory (asked : Nat)
  /-- For the feeds to be synced. -/
  | awaitingFeeds
  /-- For the shutdown. -/
  | serving
deriving DecidableEq

/-- How the latest run is doing. -/
inductive RunState where
  | idle
  | going (ctx : Token) (phase : RunPhase)
  | returned (time : Nat) (outcome : Except Error Unit)

structure Scheduler where
  surroundings : Surroundings
  parts : Parts
  builder : Builder
  cache : Cache
  backend : Backend
  drivers : List Driver
  informers : List InformerTask
  core : Option CoreTask
  run : RunState
  /-- Has there been a run? -/
  started : Bool
  /-- Has the wait for the caches succeeded, and the shutdown not been taken notice of? -/
  ready : Bool
  /-- The tasks that have been launched and not been drained, in the order of their launch. -/
  outstanding : List Task
  /-- Those who proceed. -/
  line : Line Agent

namespace Scheduler

def isReady (w : Scheduler) : Bool := w.ready && !w.surroundings.isCancelled .shutdown

/-- A probe that tells whether a scheduler is ready, for whoever does not hold it. It shares the
flag of the scheduler it comes from, and looks at the token. -/
structure Probe where
  shutdown : Token
deriving DecidableEq

/-- The probe that a scheduler hands out, any number of times. -/
def probe (_ : Scheduler) : Probe := ⟨.shutdown⟩

/-- What a probe tells, when its scheduler has come to be as it is now. -/
def Probe.isReady (p : Probe) (w : Scheduler) : Bool :=
  w.ready && !w.surroundings.isCancelled p.shutdown

def isRunning (w : Scheduler) : Bool :=
  match w.run with
  | .going _ _ => true
  | _ => false

def note (w : Scheduler) (n : Notice) : Scheduler :=
  { w with surroundings := w.surroundings.note .outside n }

def call (w : Scheduler) (c : Call) : Scheduler :=
  { w with surroundings := w.surroundings.call c }

def isCancelled (w : Scheduler) (token : Token) : Bool := w.surroundings.isCancelled token

def awaitsFeeds (w : Scheduler) : Bool :=
  match w.run with
  | .going _ .awaitingFeeds => true
  | _ => false

/-- The cache after something was done to it. A run that waits for the feeds is woken when it is
told that a feed has changed. -/
def withCache (w : Scheduler) (told : Bool) (c : Cache) : Scheduler :=
  if told && w.awaitsFeeds then { w with cache := c, line := w.line.wake (· = .run) }
  else { w with cache := c }

/-! ### Tasks -/

/-- How far a task has come. A task that has not been launched is pending. -/
def fate (w : Scheduler) : Task → Fate
  | .recording =>
    match w.backend.broadcaster?.bind (·.recording) with
    | none => .pending
    | some r => if r.phase = .ended then .ended else .going
  | .informer i =>
    match w.informers[i]? with
    | none => .pending
    | some t => t.play.fate
  | .core =>
    match w.core with
    | none => .pending
    | some t => t.play.fate

def taskName (w : Scheduler) : Task → String
  | .recording => "event-broadcaster"
  | .informer i =>
    match w.drivers[i]? with
    | none => "informer/"
    | some d => "informer/" ++ d.informer.feed
  | .core => "scheduler"

/-- A task is launched: it proceeds from now on, and is outstanding until it is drained. -/
def launched (w : Scheduler) (task : Task) : Scheduler :=
  { w with outstanding := w.outstanding ++ [task], line := w.line.toBack (.task task) }

/-- Takes from a task what it would still do. -/
def cutShort (w : Scheduler) : Task → Scheduler
  | .recording =>
    match w.backend with
    | .structured b => { w with backend := .structured b.abort }
    | .legacy => w
  | .informer i =>
    { w with informers := w.informers.modify i fun t => { t with play := t.play.abort } }
  | .core => { w with core := w.core.map fun t => { t with play := t.play.abort } }

/-- Ends a task from outside. It is called once more, to be put away. -/
def abort (w : Scheduler) (task : Task) : Scheduler :=
  { w.cutShort task with line := w.line.wake (· = .task task) }

def pollTask? (w : Scheduler) : Task → Option Scheduler
  | .recording =>
    (w.backend.step? w.surroundings).map fun (s, b) => { w with surroundings := s, backend := b }
  | .informer i =>
    match w.informers[i]? with
    | none => none
    | some t =>
      (t.step? w.surroundings w.cache).map fun (told, s, c, t) =>
        { w.withCache told c with surroundings := s, informers := w.informers.set i t }
  | .core =>
    match w.core with
    | none => none
    | some t =>
      (t.step? w.surroundings w.cache w.backend).map fun (s, b, t) =>
        { w with surroundings := s, backend := b, core := some t }

end Scheduler

end SchedulerHost.Host
