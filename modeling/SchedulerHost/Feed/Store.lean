import SchedulerHost.Json.Value
import Std.Data.TreeMap

/-!
# Stores

The objects of a feed by key. A relist replaces them by single-key writes: first the keys that are
not listed are erased, then every listed object is put in place, so an object that stays is there
at every moment.

Main statements: `get?_write`, which says what a write does to every key, and `get?_ofListing`: of
several objects that are listed under one key the last one counts.
-/

namespace SchedulerHost.Feed

open Json (Value)

/-- The objects of a feed by key. -/
structure Store where
  objects : Std.TreeMap String Value

/-- A change of a single key. -/
inductive Write where
  | erase (key : String)
  | put (key : String) (object : Value)
deriving DecidableEq

namespace Store

def empty : Store := ⟨∅⟩

instance : Inhabited Store := ⟨empty⟩

/-! ### Looking -/

def get? (s : Store) (key : String) : Option Value := s.objects[key]?

def contains (s : Store) (key : String) : Bool := s.objects.contains key

/-- The keys in ascending order. -/
def keys (s : Store) : List String := s.objects.keys

/-- The objects, in the order of their keys. -/
def values (s : Store) : List Value := s.objects.values

/-- The keys in ascending order, each with its object. -/
def toList (s : Store) : List (String × Value) := s.objects.toList

def size (s : Store) : Nat := s.objects.size

def isEmpty (s : Store) : Bool := s.objects.isEmpty

/-! ### Writing -/

def write (s : Store) : Write → Store
  | .erase key => ⟨s.objects.erase key⟩
  | .put key object => ⟨s.objects.insert key object⟩

/-- Puts an object in place, and tells which one it replaces. -/
def insert (s : Store) (key : String) (object : Value) : Option Value × Store :=
  (s.get? key, s.write (.put key object))

/-- Removes an object, and tells which one it was. -/
def remove (s : Store) (key : String) : Option Value × Store :=
  (s.get? key, s.write (.erase key))

/-- The store of a listing; of two objects of one key the later one counts. -/
def ofListing (listing : List (String × Value)) : Store :=
  ⟨listing.foldl (fun objects (key, object) => objects.insert key object) ∅⟩

/-- The writes that replace the contents by a listing. -/
def relist (s : Store) (listing : List (String × Value)) : List Write :=
  let fresh := ofListing listing
  -- Erasing the listed keys too would hide objects that stay until they are put again.
  (s.keys.filter fun key => !fresh.contains key).map .erase ++
    fresh.toList.map fun (key, object) => .put key object

def replace (s : Store) (listing : List (String × Value)) : Store :=
  (s.relist listing).foldl write s

def summary (s : Store) : String :=
  "Store \x7b len: " ++ String.ofList (Numeric.digits s.size) ++ " \x7d"

/-! ### What is found after writes -/

/-- A write changes what is found under its own key, and nothing else. -/
theorem get?_write (s : Store) (w : Write) (key : String) :
    (s.write w).get? key =
      match w with
      | .erase erased => if erased = key then none else s.get? key
      | .put put object => if put = key then some object else s.get? key := by
  cases w <;> simp [write, get?, Std.TreeMap.getElem?_erase, Std.TreeMap.getElem?_insert]

theorem mem_keys_iff {s : Store} {key : String} : key ∈ s.keys ↔ (s.get? key).isSome := by
  simp [keys, get?, Std.TreeMap.mem_keys]

theorem contains_eq_isSome (s : Store) (key : String) : s.contains key = (s.get? key).isSome := by
  simp [contains, get?]

/-! ### What is found after a relist -/

/-- Erased keys are gone, the others are as before. -/
theorem get?_foldl_erase (s : Store) (keys : List String) (key : String) :
    ((keys.map Write.erase).foldl write s).get? key = if key ∈ keys then none else s.get? key := by
  induction keys generalizing s with
  | nil => simp
  | cons erased rest ih =>
    rw [List.map_cons, List.foldl_cons, ih, get?_write]
    grind

/-- Of several objects that are put under one key the last one is found. -/
theorem get?_foldl_put (s : Store) (listing : List (String × Value)) (key : String) :
    ((listing.map fun (key, object) => Write.put key object).foldl write s).get? key =
      (listing.reverse.lookup key).or (s.get? key) := by
  induction listing generalizing s with
  | nil => simp
  | cons head rest ih =>
    obtain ⟨put, object⟩ := head
    rw [List.map_cons, List.foldl_cons, ih, get?_write, List.reverse_cons, List.lookup_append]
    simp only [List.lookup_cons, List.lookup_nil]
    grind

theorem ofListing_eq_foldl_put (listing : List (String × Value)) :
    ofListing listing =
      (listing.map fun (key, object) => Write.put key object).foldl write empty := by
  have go (objects : Std.TreeMap String Value) :
      (⟨listing.foldl (fun objects (key, object) => objects.insert key object) objects⟩ : Store) =
        (listing.map fun (key, object) => Write.put key object).foldl write ⟨objects⟩ := by
    induction listing generalizing objects with
    | nil => rfl
    | cons head rest ih =>
      rw [List.foldl_cons, List.map_cons, List.foldl_cons, ih]
      rfl
  exact go ∅

/-- Of two objects of one key the later one counts. -/
theorem get?_ofListing (listing : List (String × Value)) (key : String) :
    (ofListing listing).get? key = listing.reverse.lookup key := by
  rw [ofListing_eq_foldl_put, get?_foldl_put]
  simp [get?, empty]

end Store

end SchedulerHost.Feed
