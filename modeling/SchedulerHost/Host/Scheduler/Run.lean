import SchedulerHost.Host.Scheduler.Basic

/-!
# The run

The first run of a scheduler launches the recording of events and the informers, waits until the
caches are synced, launches the core and serves until the shutdown. Its token bounds the wait for
the caches and nothing else. Whenever it is woken, it goes on until it has to wait again, without
anyone else taking a step in between.
-/

namespace SchedulerHost.Host

namespace Scheduler

/-! ### The parts of a run, from its end to its beginning -/

def finish (w : Scheduler) (outcome : Except Error Unit) : Scheduler :=
  { w with run := .returned w.surroundings.now outcome }

/-- The caches cannot be waited for any longer. -/
def giveUp (w : Scheduler) : Scheduler :=
  let pending := w.cache.gate.pending.map fun (feed, state) => feed ++ "=" ++ state.name
  (w.note (.syncFailed pending)).finish (.error .cacheSyncTimeout)

def serve (w : Scheduler) (ctx : Token) : Scheduler :=
  if w.isCancelled .shutdown then
    let w := { w with ready := false }
    (w.note .shutdownReceived).finish (.ok ())
  else { w with run := .going ctx .serving }

/-- Launches the core on the synced feeds. -/
def admitCore (w : Scheduler) : Scheduler :=
  let feeds := w.cache.gate.snapshot
  let w := { w with core := some (.launch w.builder feeds), ready := true }
  (w.launched .core).note (.cachesSynced feeds.length)

/-- Waits until all feeds are synced. The token is looked at first. -/
def awaitFeeds (w : Scheduler) (ctx : Token) : Scheduler :=
  if w.isCancelled ctx then w.giveUp
  else if w.cache.gate.allSynced then w.admitCore.serve ctx
  else { w with run := .going ctx .awaitingFeeds }

/-- Has the informer factory reported, which was asked at a moment? -/
def factoryReported (w : Scheduler) (asked : Nat) : Bool :=
  w.parts.informerFactory.hasReported asked w.surroundings.now (w.isCancelled .shutdown)

/-- Takes the report of the informer factory. The gate is sealed from now on. -/
def takeReport (w : Scheduler) : Scheduler :=
  let unsynced := w.parts.informerFactory.unsynced
  let w := if unsynced = [] then w else w.note (.factoryUnsynced unsynced)
  { w with cache := { w.cache with gate := w.cache.gate.beginWait } }

/-- Waits for the report of the informer factory. The token is looked at first. -/
def awaitFactory (w : Scheduler) (ctx : Token) (asked : Nat) : Scheduler :=
  if w.isCancelled ctx then w.giveUp
  else if w.factoryReported asked then w.takeReport.awaitFeeds ctx
  else { w with run := .going ctx (.awaitingFactory asked) }

/-- Waits for the caches, unless the token is cancelled already. -/
def awaitCaches (w : Scheduler) (ctx : Token) : Scheduler :=
  if w.isCancelled ctx then w.giveUp
  else (w.call .factoryWait).awaitFactory ctx w.surroundings.now

/-- Starts the recording of events if they are structured. -/
def startRecording (w : Scheduler) : Scheduler :=
  match w.backend, w.parts.eventSink with
  | .structured b, some _ =>
    match b.start .shutdown with
    | .ok b => { w with backend := .structured b }.launched .recording
    | .error fault => w.note (.recordingNotStarted fault)
  | _, _ => w

def launchInformer (w : Scheduler) (driver : Driver) : Scheduler :=
  -- Nobody waits for the feeds yet, so nobody is told.
  let (task, _, cache) := driver.launch w.cache .shutdown
  { w with informers := w.informers ++ [task], cache := cache }.launched
    (.informer w.informers.length)

/-- The first step of a run. Only the first run of a scheduler does anything. -/
def enter (w : Scheduler) (ctx : Token) : Scheduler :=
  if w.started then (w.note .runIgnored).finish (.error .alreadyStarted)
  else
    let w := { w with started := true }.startRecording
    -- What is launched here takes its first step when the run waits for the first time.
    let w := (w.drivers.foldl launchInformer w).call .factoryStart
    (w.note (.awaitingCaches w.drivers.length)).awaitCaches ctx

/-! ### The run as a whole -/

/-- Is what the run waits for there? -/
def runCanProceed (w : Scheduler) (ctx : Token) : RunPhase → Bool
  | .entered => true
  | .awaitingFactory asked => w.isCancelled ctx || w.factoryReported asked
  | .awaitingFeeds => w.isCancelled ctx || w.cache.gate.allSynced
  | .serving => w.isCancelled .shutdown

def proceed (w : Scheduler) (ctx : Token) : RunPhase → Scheduler
  | .entered => w.enter ctx
  | .awaitingFactory asked => w.awaitFactory ctx asked
  | .awaitingFeeds => w.awaitFeeds ctx
  | .serving => w.serve ctx

def pollRun? (w : Scheduler) : Option Scheduler :=
  match w.run with
  | .going ctx phase => if w.runCanProceed ctx phase then some (w.proceed ctx phase) else none
  | _ => none

end Scheduler

end SchedulerHost.Host
