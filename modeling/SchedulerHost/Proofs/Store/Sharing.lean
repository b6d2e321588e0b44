import Mathlib.Logic.Function.Basic
import SchedulerHost.Proofs.Store.Relisting
import SchedulerHost.Proofs.Text.ByteOrder
import SchedulerHost.Shelf

/-!
# Stores as maps

A store is a map from keys to objects, and its clones are handles of one map: what is done through
one is seen through all.

* `Contents`: the map. `Store.Shows`: all that can be seen of a store is that of a map.
* `Operation`: what can be done to a store; a relist may write in any order. `Shows.operate`: one
  operation does to the store what it does to the map, and gives the same answer.
* `Handles`: a store and its clones. `Shared.run`: the same for any number of operations.
* **Stores as maps** (`Handles.show_one_map`).
-/

namespace SchedulerHost.Feed

open Json (Value)

/-! ### Looking -/

abbrev Contents := String → Option Value

namespace Store

/-- All that can be seen of a store is that of a map. -/
structure Shows (s : Store) (m : Contents) : Prop where
  get? (key : String) : s.get? key = m key
  contains (key : String) : s.contains key = (m key).isSome
  ascending : s.keys.Pairwise fun a b => Text.bytes a < Text.bytes b
  mem_keys (key : String) : key ∈ s.keys ↔ (m key).isSome
  values : s.values.Perm (s.keys.filterMap m)
  size : s.size = s.keys.length
  isEmpty : s.isEmpty = true ↔ ∀ key, m key = none

theorem values_eq (s : Store) : s.values = s.toList.map Prod.snd := by
  have folded : s.values = s.objects.foldr (fun _ object l => object :: l) [] := rfl
  rw [folded, Std.TreeMap.foldr_eq_foldr_toList, List.map_eq_foldr]
  rfl

theorem keys_eq (s : Store) : s.keys = s.toList.map Prod.fst :=
  Std.TreeMap.map_fst_toList_eq_keys.symm

/-- What is found under every key is all there is to a store. -/
theorem shows_of_get? {s : Store} {m : Contents} (found : ∀ key, s.get? key = m key) :
    s.Shows m := by
  obtain rfl : s.get? = m := funext found
  refine ⟨found, s.contains_eq_isSome, ?_, fun _ => mem_keys_iff, ?_, ?_, ?_⟩
  · refine Std.TreeMap.ordered_keys.imp fun {a b} less => ?_
    exact Text.bytes_lt_iff.2 ((compareOfLessAndEq_eq_lt (x := a) (y := b)).1 less)
  · rw [values_eq, keys_eq, List.filterMap_map]
    have each : ∀ e ∈ s.toList, (s.get? ∘ Prod.fst) e = some e.2 :=
      fun e there => Std.TreeMap.mem_toList_iff_getElem?_eq_some.1 there
    rw [List.filterMap_congr each, ← List.filterMap_eq_map]
    rfl
  · exact Std.TreeMap.length_keys.symm
  · refine Std.TreeMap.isEmpty_iff_forall_not_mem.trans (forall_congr' fun key => ?_)
    rw [Std.TreeMap.mem_iff_isSome_getElem?, Bool.not_eq_true, Option.isSome_eq_false_iff,
      Option.isNone_iff_eq_none]
    rfl

/-- Stores that show one map have the same contents. -/
theorem Shows.toList_eq {s t : Store} {m : Contents} (h : s.Shows m) (h' : t.Shows m) :
    s.toList = t.toList :=
  Std.TreeMap.equiv_iff_toList_eq.1
    (Std.TreeMap.Equiv.of_forall_constGet?_eq fun key => (h.get? key).trans (h'.get? key).symm)

end Store

/-! ### Operations -/

/-- What can be done to a store. A relist may write in any order. -/
inductive Operation where
  | insert (key : String) (object : Value)
  | remove (key : String)
  | replace (listing : List (String × Value)) (order : (s : Store) → Relisting s listing)

def Store.operate (s : Store) : Operation → Option Value × Store
  | .insert key object => s.insert key object
  | .remove key => s.remove key
  | .replace _ order => (none, (order s).result)

def Contents.operate (m : Contents) : Operation → Option Value × Contents
  | .insert key object => (m key, Function.update m key (some object))
  | .remove key => (m key, Function.update m key none)
  | .replace listing _ => (none, lastListed listing)

/-- What is done to a store is done to the map, with the same answer. -/
theorem Store.Shows.operate {s : Store} {m : Contents} (h : s.Shows m) (op : Operation) :
    (s.operate op).1 = (m.operate op).1 ∧ (s.operate op).2.Shows (m.operate op).2 := by
  cases op with
  | insert key object =>
    refine ⟨h.get? key, shows_of_get? fun other => ?_⟩
    show (s.write (.put key object)).get? other = Function.update m key (some object) other
    rw [get?_write_eq, Function.update_apply, h.get? other]
    exact if_congr eq_comm rfl rfl
  | remove key =>
    refine ⟨h.get? key, shows_of_get? fun other => ?_⟩
    show (s.write (.erase key)).get? other = Function.update m key none other
    rw [get?_write_eq, Function.update_apply, h.get? other]
    exact if_congr eq_comm rfl rfl
  | replace listing order => exact ⟨rfl, shows_of_get? (order s).get?_result⟩

/-! ### Clones -/

/-- A store and its clones: handles that have the number of the cell with the objects. -/
structure Handles where
  shelf : Shelf Store
  cells : List Nat

/-- What is asked of a handle, told by its place. A place where no handle is
stands for the first. -/
inductive Request where
  | clone (on : Nat)
  | operate (on : Nat) (op : Operation)

namespace Handles

def start : Handles := ⟨Shelf.empty.add .empty, [0]⟩

def cell (h : Handles) (on : Nat) : Nat := h.cells.getD on 0

def store (h : Handles) (on : Nat) : Store := h.shelf.get (h.cell on)

/-- Does what is asked of a handle. A clone has the number of the cell, and not a copy. -/
def serve (h : Handles) : Request → Option Value × Handles
  | .clone on => (none, { h with cells := h.cells ++ [h.cell on] })
  | .operate on op =>
    let (answer, s) := (h.store on).operate op
    (answer, { h with shelf := h.shelf.put (h.cell on) s })

def run (h : Handles) : List Request → List (Option Value) × Handles
  | [] => ([], h)
  | request :: rest =>
    let (answer, h) := h.serve request
    let (answers, h) := h.run rest
    (answer :: answers, h)

end Handles

namespace Contents

/-- To a map it is all the same through which handle something is asked. -/
def serve (m : Contents) : Request → Option Value × Contents
  | .clone _ => (none, m)
  | .operate _ op => m.operate op

def run (m : Contents) : List Request → List (Option Value) × Contents
  | [] => ([], m)
  | request :: rest =>
    let (answer, m) := m.serve request
    let (answers, m) := m.run rest
    (answer :: answers, m)

theorem run_append (m : Contents) (earlier later : List Request) :
    (m.run (earlier ++ later)).2 = ((m.run earlier).2.run later).2 := by
  induction earlier generalizing m with
  | nil => rfl
  | cons request earlier ih => exact ih _

end Contents

namespace Handles

/-- All handles are those of one cell, and what is in it shows the map. -/
structure Shared (h : Handles) (m : Contents) : Prop where
  one (id : Nat) : id ∈ h.cells → id = 0
  inside : 0 < h.shelf.size
  shows : (h.shelf.get 0).Shows m

variable {h : Handles} {m : Contents}

theorem shared_start : start.Shared fun _ => none :=
  ⟨by simp [start], by decide, Store.shows_of_get? fun _ => by rfl⟩

theorem Shared.cell_eq (shared : h.Shared m) (on : Nat) : h.cell on = 0 := by
  rw [cell, List.getD_eq_getElem?_getD]
  cases there : h.cells[on]? with
  | none => rfl
  | some id => exact shared.one id (List.mem_of_getElem? there)

theorem Shared.store (shared : h.Shared m) (on : Nat) : (h.store on).Shows m := by
  rw [Handles.store, shared.cell_eq]
  exact shared.shows

/-- A request is answered alike, whichever handle it is made through. -/
theorem Shared.serve (shared : h.Shared m) (request : Request) :
    (h.serve request).1 = (m.serve request).1 ∧
      (h.serve request).2.Shared (m.serve request).2 := by
  cases request with
  | clone on =>
    refine ⟨rfl, ?_, shared.inside, shared.shows⟩
    intro id there
    rcases List.mem_append.1 there with old | new
    · exact shared.one id old
    · rw [List.mem_singleton.1 new, shared.cell_eq]
  | operate on op =>
    obtain ⟨same, shows⟩ := (shared.store on).operate op
    refine ⟨same, shared.one, ?_, ?_⟩
    · show 0 < (h.shelf.put (h.cell on) _).size
      rw [Shelf.size_put]
      exact shared.inside
    · show ((h.shelf.put (h.cell on) _).get 0).Shows _
      rw [shared.cell_eq, Shelf.get_put _ _ shared.inside]
      exact shows

theorem Shared.run (shared : h.Shared m) (requests : List Request) :
    (h.run requests).1 = (m.run requests).1 ∧ (h.run requests).2.Shared (m.run requests).2 := by
  induction requests generalizing h m with
  | nil => exact ⟨rfl, shared⟩
  | cons request rest ih =>
    obtain ⟨same, shared⟩ := shared.serve request
    obtain ⟨later, shared⟩ := ih shared
    exact ⟨congrArg₂ List.cons same later, shared⟩

/-- After a relist nothing is left of what there was before. -/
theorem shared_replace (requests : List Request) (on : Nat) (listing : List (String × Value))
    (order : (s : Store) → Relisting s listing) :
    (start.run (requests ++ [.operate on (.replace listing order)])).2.Shared
      (lastListed listing) := by
  have shared := (shared_start.run (requests ++ [.operate on (.replace listing order)])).2
  rw [Contents.run_append] at shared
  exact shared

/-- **Stores as maps.** Whatever is asked of a store and its clones, and in whatever order relists
write: the answers are those of a map of which the same is asked, and every handle shows that map.
After a relist it is the map of what is listed last for each key, so the contents are the same
whatever was asked before, a relist by the same listing included. The relist that is performed is
one of these. -/
theorem show_one_map (requests : List Request) :
    (start.run requests).1 = (Contents.run (fun _ => none) requests).1 ∧
    (∀ on, ((start.run requests).2.store on).Shows (Contents.run (fun _ => none) requests).2) ∧
    (∀ on listing order on',
      ((start.run (requests ++ [.operate on (.replace listing order)])).2.store on').Shows
        (lastListed listing)) ∧
    (∀ requests' on on' listing order order' seen seen',
      ((start.run (requests ++ [.operate on (.replace listing order)])).2.store seen).toList =
        ((start.run (requests' ++ [.operate on' (.replace listing order')])).2.store
          seen').toList) ∧
    ∀ (s : Store) listing,
      s.operate (.replace listing (·.relisting listing)) = (none, s.replace listing) := by
  obtain ⟨answers, shared⟩ := shared_start.run requests
  refine ⟨answers, shared.store, ?_, ?_, ?_⟩
  · exact fun on listing order on' => (shared_replace requests on listing order).store on'
  · intro requests' on on' listing order order' seen seen'
    exact ((shared_replace requests on listing order).store seen).toList_eq
      ((shared_replace requests' on' listing order').store seen')
  · intro s listing
    rw [Store.operate, Store.result_relisting]

example : (start.run [.clone 0, .operate 1 (.insert "b" .null), .operate 0 (.insert "a" .null),
    .clone 1, .operate 2 (.remove "b")]).1 = [none, none, none, none, some .null] := by
  decide +kernel

end Handles

end SchedulerHost.Feed
