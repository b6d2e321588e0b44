import SchedulerHost.Host.Surroundings

/-!
# Reports

The journal as it is shown: its notices and its calls, each in an order in which what happens in
one place at one time stays in the order in which it happened.
-/

namespace SchedulerHost.Host

structure NoticeLine where
  time : Nat
  scope : String
  notice : Notice

structure CallLine where
  time : Nat
  call : Call

/-- Is the first list of texts before the second, or equal to it,
in the order of their first difference? -/
def textsLE : List String → List String → Bool
  | [], _ => true
  | _ :: _, [] => false
  | a :: as, b :: bs => if a < b then true else if b < a then false else textsLE as bs

namespace Entry

/-- The notices among the entries, the latest of which comes first, in the order in which they
were made. -/
def notices (entries : List Entry) : List NoticeLine :=
  entries.reverse.filterMap fun e =>
    match e.what with
    | .notice scope n => some ⟨e.time, scope.name, n⟩
    | .call _ => none

/-- The calls among the entries, the latest of which comes first,
in the order in which they were made. -/
def calls (entries : List Entry) : List CallLine :=
  entries.reverse.filterMap fun e =>
    match e.what with
    | .notice _ _ => none
    | .call c => some ⟨e.time, c⟩

/-- The notices by time, scope and the part of the host that writes them. -/
def shownNotices (entries : List Entry) : List NoticeLine :=
  (notices entries).mergeSort fun a b =>
    if a.time = b.time then textsLE [a.scope, a.notice.target] [b.scope, b.notice.target]
    else a.time < b.time

/-- The notices by time, level and wording. -/
def noticesByWording (entries : List Entry) : List NoticeLine :=
  (notices entries).mergeSort fun a b =>
    if a.time = b.time then
      textsLE [a.notice.level.name, a.notice.message] [b.notice.level.name, b.notice.message]
    else a.time < b.time

/-- Is a call shown? Of the events a sink accepts every `every`-th is, of those it refuses none. -/
def isShown (every : Nat) : Call → Bool
  | .sinkAccept count _ => count % every = 0
  | .sinkRefuse _ => false
  | _ => true

/-- The calls that are shown, by time and by who makes them. -/
def shownCalls (every : Nat) (entries : List Entry) : List CallLine :=
  ((calls entries).filter fun line => isShown every line.call).mergeSort fun a b =>
    if a.time = b.time then textsLE [a.call.actor] [b.call.actor] else a.time < b.time

end Entry

end SchedulerHost.Host
