import SchedulerHost.Host.Clock
import SchedulerHost.Host.Surroundings

/-!
# Signals

Those who listen for the signals that ask a host to shut down. A handler cancels its token when a
signal arrives, and goes away when someone else cancels it; a bare listener has no token. A signal
reaches those who are waiting when it is delivered, and nobody later.

When a listener could react to more than one thing, the choice is not settled by these rules: it is
a parameter of the reaction.

Main statement: `step?_eq_none_iff`, which says when a listener has to wait on.
-/

namespace SchedulerHost.Host

/-- A signal that asks a host to shut down. -/
inductive Signal where
  | interrupt
  | terminate
deriving DecidableEq

def Signal.notice : Signal → Notice
  | .interrupt => .interruptReceived
  | .terminate => .terminateReceived

/-- How far a listener has come: the signals that have arrived while it waits, the latest first. -/
inductive ListenerPhase where
  | fresh
  | waiting (arrived : List Signal)
  | ended
deriving DecidableEq

/-- One who listens for signals; a handler has a token. -/
structure Listener where
  token : Option Token
  phase : ListenerPhase
deriving DecidableEq

/-- What a listener reacts to. -/
inductive Reaction where
  /-- The token was cancelled by someone else. -/
  | leave
  | heed (signal : Signal)
deriving DecidableEq

namespace Listener

def new (token : Option Token) : Listener := ⟨token, .fresh⟩

def isOver (l : Listener) : Bool := l.phase = .ended

def deliver (signal : Signal) (l : Listener) : Listener :=
  match l.phase with
  | .waiting arrived => { l with phase := .waiting (signal :: arrived) }
  | _ => l

/-- Has the token of a handler been cancelled? -/
def isReleased (s : Surroundings) (l : Listener) : Bool := l.token.any s.isCancelled

def reactions (s : Surroundings) (l : Listener) : List Reaction :=
  match l.phase with
  | .waiting arrived => arrived.map .heed ++ (if l.isReleased s then [.leave] else [])
  | _ => []

def react (s : Surroundings) (l : Listener) : Reaction → Surroundings × Listener
  | .leave => (s.note .outside .cancelledElsewhere, { l with phase := .ended })
  | .heed signal =>
    let s := s.note .outside signal.notice
    match l.token with
    | none => (s, { l with phase := .ended })
    | some token => ((s.note .outside .gracefulShutdown).cancel token, { l with phase := .ended })

/-- The next step of a listener, if there is one now. Of the reactions that are open,
`choose` picks one. -/
def step? (choose : List Reaction → Option Reaction) (s : Surroundings) (l : Listener) :
    Option (Surroundings × Listener) :=
  match l.phase with
  | .fresh => some (s, { l with phase := .waiting [] })
  | .waiting _ => (choose (l.reactions s)).map (l.react s)
  | .ended => none

def work (l : Listener) : Nat :=
  match l.phase with
  | .fresh => 2
  | .waiting _ => 1
  | .ended => 0

/-- One who waits can react to nothing until a signal arrives or the token is cancelled. -/
theorem reactions_eq_nil_iff {s : Surroundings} {l : Listener} :
    l.reactions s = [] ↔ ∀ arrived, l.phase = .waiting arrived →
      arrived = [] ∧ l.isReleased s = false := by
  unfold reactions
  cases l.phase with
  | fresh => simp
  | waiting arrived => cases l.isReleased s <;> simp
  | ended => simp

/-- Whether a listener has to wait on does not hang on the choice between its reactions. -/
theorem step?_eq_none_iff {choose : List Reaction → Option Reaction}
    (chooses : ∀ r, choose r = none ↔ r = []) {s : Surroundings} {l : Listener} :
    l.step? choose s = none ↔
      l.isOver = true ∨ (l.phase = .waiting [] ∧ l.isReleased s = false) := by
  unfold step? isOver
  cases h : l.phase with
  | fresh => simp
  | waiting arrived =>
    simp only [Option.map_eq_none_iff, chooses, reactions_eq_nil_iff, h]
    simp
  | ended => simp

end Listener

/-- Those who listen for signals, with their numbers in a line. -/
structure SignalWatch where
  surroundings : Surroundings
  listeners : List Listener
  line : Line Nat

namespace SignalWatch

def start (stamp : Event.Stamp) : SignalWatch := ⟨.start stamp, [], .empty⟩

/-- The next step of a listener, if there is one now,
with a choice between the reactions that are open. -/
def pollBy? (choose : List Reaction → Option Reaction) (w : SignalWatch) (i : Nat) :
    Option SignalWatch :=
  match w.listeners[i]? with
  | none => none
  | some l =>
    (l.step? choose w.surroundings).map fun (s, l) =>
      { w with surroundings := s, listeners := w.listeners.set i l }

/-- Of the reactions that are open, the first is taken. -/
instance : Machine SignalWatch Nat where
  now w := w.surroundings.now
  setNow t w := { w with surroundings := { w.surroundings with now := t } }
  line w := w.line
  setLine l w := { w with line := l }
  poll? i w := w.pollBy? List.head? i
  alarms _ := []
  work w := (w.listeners.map (·.work)).foldr (· + ·) 0

/-! ### Commands -/

inductive Command where
  | handler (token : Token)
  | listener
  | cancel (token : Token)
  | deliver (signal : Signal)
  | advance (ms : Nat)

inductive Reply where
  | done
  | delivered
  | nobodyListens
deriving DecidableEq

/-- Someone is about to listen. -/
def listen (w : SignalWatch) (token : Option Token) : SignalWatch :=
  { w with listeners := w.listeners ++ [.new token], line := w.line.toBack w.listeners.length }

/-- Does what is asked, without letting anyone proceed. -/
def perform (w : SignalWatch) : Command → SignalWatch × Reply
  | .handler token => (w.listen (some token), .done)
  | .listener => (w.listen none, .done)
  | .cancel token => ({ w with surroundings := w.surroundings.cancel token }, .done)
  | .deliver signal =>
    if w.listeners.all (·.isOver) then (w, .nobodyListens)
    else ({ w with listeners := w.listeners.map (·.deliver signal) }, .delivered)
  | .advance ms => (Machine.advance ms w, .done)

end SignalWatch

end SchedulerHost.Host
