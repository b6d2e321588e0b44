import SchedulerHost.Host.Backend

/-!
# The core

The core does the scheduling. It is handed a snapshot of the synced feeds when it is launched, and
keeps looking at their stores; it records events through the recorder that was made for its
component when it was built.
-/

namespace SchedulerHost.Host

open Feed (FeedId)

inductive CoreAction where
  | event (remark : Event.Remark)
  | look
deriving DecidableEq

/-- What builds a core: the messages with which it fails, if it does, the component whose recorder
the core gets, and the script of the core. -/
structure Builder where
  refusal : Option (List String)
  component : String
  script : List (Action CoreAction)
deriving DecidableEq

/-- A core that has been launched, with its snapshot of the feeds. -/
structure CoreTask where
  feeds : List (FeedId × Nat)
  component : String
  play : Performance CoreAction
deriving DecidableEq

namespace CoreTask

def launch (builder : Builder) (feeds : List (FeedId × Nat)) : CoreTask :=
  ⟨feeds, builder.component, .ofScript builder.script⟩

def step? (s : Surroundings) (c : Cache) (b : Backend) (t : CoreTask) :
    Option (Surroundings × Backend × CoreTask) :=
  match t.play.next? s.now (s.isCancelled .shutdown) with
  | none => none
  | some (move, play) =>
    let t' := { t with play := play }
    match move with
    | .begin => some (s.call (.coreRun (c.view t.feeds)), b, t')
    | .finish => some (s.call .coreStop, b, t')
    | .pass => some (s, b, t')
    | .act .look => some (s.call (.coreLook (c.view t.feeds)), b, t')
    | .act (.event remark) =>
      let (s, b) := b.emit s .core t.component remark
      some (s, b, t')

/-- A bound on the number of steps of a script, and of those it makes the recording take. -/
def weight : CoreAction → Nat
  | .event _ => 3
  | .look => 1

/-- A bound on the number of steps to come, with those of the recording they lead to. -/
def work (t : CoreTask) : Nat := t.play.work weight

end CoreTask

end SchedulerHost.Host
