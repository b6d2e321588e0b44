import Mathlib.Data.List.Nodup
import SchedulerHost.Feed.Store

/-!
# Relists

A relist brings a store to a listing by writes of single keys: every key that is not listed is
erased, then every listed key gets the last object that is listed for it. Who looks at the store
meanwhile sees it between two of these writes. In which order the keys of either part are written is
left open.

* `Relisting`: a series of such writes, in any order. `Store.relisting`: the one that is performed.
* `get?_foldl_take`: under a key that is written once there is what was there before up to that
  write, and what it wrote from then on.
* **Relists** (`Relisting.hides_nothing`): each key changes once, from what it was to what is
  listed, and those that are not listed change first.
-/

namespace SchedulerHost.Feed

open Json (Value)

def lastListed (listing : List (String × Value)) (key : String) : Option Value :=
  listing.reverse.lookup key

/-! ### Writes -/

namespace Write

def key : Write → String
  | erase key => key
  | put key _ => key

/-- What is there after the write. -/
def object? : Write → Option Value
  | erase _ => none
  | put _ object => some object

end Write

namespace Store

theorem get?_write_eq (s : Store) (w : Write) (key : String) :
    (s.write w).get? key = if w.key = key then w.object? else s.get? key := by
  rw [get?_write]
  cases w <;> rfl

/-- Writes of other keys leave a key alone. -/
theorem get?_foldl_of_ne (s : Store) {writes : List Write} {key : String}
    (others : ∀ w ∈ writes, w.key ≠ key) : (writes.foldl write s).get? key = s.get? key := by
  induction writes generalizing s with
  | nil => rfl
  | cons w writes ih =>
    rw [List.foldl_cons, ih _ fun w' there => others w' (List.mem_cons_of_mem _ there),
      get?_write_eq, if_neg (others w List.mem_cons_self)]

/-- A key that is written once has what it had before up to that write, and what was written from
then on. -/
theorem get?_foldl_take (s : Store) {before after : List Write} {w : Write}
    (earlier : ∀ w' ∈ before, w'.key ≠ w.key) (later : ∀ w' ∈ after, w'.key ≠ w.key) (n : Nat) :
    (((before ++ w :: after).take n).foldl write s).get? w.key =
      if n ≤ before.length then s.get? w.key else w.object? := by
  split
  · next short =>
    rw [List.take_append_of_le_length short]
    exact s.get?_foldl_of_ne fun w' there => earlier w' (List.mem_of_mem_take there)
  · next long =>
    obtain ⟨m, rfl⟩ : ∃ m, n = before.length + (m + 1) := ⟨n - before.length - 1, by omega⟩
    rw [List.take_length_add_append, List.foldl_append, List.take_succ_cons, List.foldl_cons,
      get?_foldl_of_ne _ fun w' there => later w' (List.mem_of_mem_take there), get?_write_eq,
      if_pos rfl]

end Store

/-! ### Relists -/

/-- The writes that bring a store to a listing: the keys that are not listed are erased, then the
listed ones are put, each once and in any order. -/
structure Relisting (s : Store) (listing : List (String × Value)) where
  stale : List String
  fresh : List (String × Value)
  nodup_stale : stale.Nodup
  mem_stale (key : String) :
    key ∈ stale ↔ (s.get? key).isSome ∧ lastListed listing key = none
  nodup_fresh : (fresh.map Prod.fst).Nodup
  mem_fresh (key : String) (object : Value) :
    (key, object) ∈ fresh ↔ lastListed listing key = some object

namespace Relisting

variable {s : Store} {listing : List (String × Value)} (r : Relisting s listing)

def writes : List Write :=
  r.stale.map .erase ++ r.fresh.map fun (key, object) => .put key object

def after (n : Nat) : Store := (r.writes.take n).foldl Store.write s

def result : Store := r.writes.foldl Store.write s

theorem result_eq_after : r.result = r.after r.writes.length := by
  rw [result, after, List.take_length]

/-- What is put is what is listed. -/
theorem mem_keys_fresh_iff {key : String} :
    key ∈ r.fresh.map Prod.fst ↔ (lastListed listing key).isSome := by
  rw [List.mem_map, Option.isSome_iff_exists]
  constructor
  · rintro ⟨⟨_, object⟩, there, rfl⟩
    exact ⟨object, (r.mem_fresh _ _).1 there⟩
  · rintro ⟨object, listed⟩
    exact ⟨(key, object), (r.mem_fresh key object).2 listed, rfl⟩

theorem keys_writes : r.writes.map Write.key = r.stale ++ r.fresh.map Prod.fst := by
  simp [writes, Write.key, Function.comp_def]

/-- No key is written twice. -/
theorem nodup_keys : (r.writes.map Write.key).Nodup := by
  rw [keys_writes, List.nodup_append]
  refine ⟨r.nodup_stale, r.nodup_fresh, ?_⟩
  rintro key erased _ put rfl
  have listed := r.mem_keys_fresh_iff.1 put
  simp [((r.mem_stale key).1 erased).2] at listed

/-- What a write leaves is what is listed. -/
theorem object?_of_mem {w : Write} (there : w ∈ r.writes) :
    w.object? = lastListed listing w.key := by
  rcases List.mem_append.1 there with erased | put
  · obtain ⟨key, stale, rfl⟩ := List.mem_map.1 erased
    exact ((r.mem_stale key).1 stale).2.symm
  · obtain ⟨⟨key, object⟩, fresh, rfl⟩ := List.mem_map.1 put
    exact ((r.mem_fresh key object).1 fresh).symm

/-- A key that is not written is as it is listed already. -/
theorem get?_of_not_mem {key : String} (unwritten : key ∉ r.writes.map Write.key) :
    s.get? key = lastListed listing key := by
  rw [keys_writes, List.mem_append, not_or, r.mem_stale, mem_keys_fresh_iff] at unwritten
  obtain ⟨notStale, notListed⟩ := unwritten
  rw [Bool.not_eq_true, Option.isSome_eq_false_iff, Option.isNone_iff_eq_none] at notListed
  rw [notListed]
  cases there : s.get? key with
  | none => rfl
  | some old => exact absurd ⟨by simp [there], notListed⟩ notStale

/-- Every key changes at one moment, from what it was to what is listed. -/
theorem exists_moment (key : String) : ∃ moment,
    (moment < r.writes.length ∨ s.get? key = lastListed listing key) ∧
      ∀ n, (r.after n).get? key = if n ≤ moment then s.get? key else lastListed listing key := by
  by_cases written : key ∈ r.writes.map Write.key
  · obtain ⟨w, there, rfl⟩ := List.mem_map.1 written
    obtain ⟨before, later, split⟩ := List.append_of_mem there
    have keys := r.nodup_keys
    rw [split, List.map_append, List.map_cons, List.nodup_middle, List.nodup_cons,
      List.mem_append, not_or] at keys
    obtain ⟨⟨notBefore, notAfter⟩, -⟩ := keys
    refine ⟨before.length, .inl (by simp [split]), fun n => ?_⟩
    rw [after, ← r.object?_of_mem there, split]
    refine s.get?_foldl_take ?_ ?_ n
    · exact fun w' member same => notBefore (same ▸ List.mem_map_of_mem member)
    · exact fun w' member same => notAfter (same ▸ List.mem_map_of_mem member)
  · have same := r.get?_of_not_mem written
    refine ⟨0, .inr same, fun n => ?_⟩
    rw [after, s.get?_foldl_of_ne, same, ite_self]
    rintro w there rfl
    exact written (List.mem_map_of_mem (List.mem_of_mem_take there))

/-- After all writes a key has what is listed for it. -/
theorem get?_result (key : String) : r.result.get? key = lastListed listing key := by
  obtain ⟨moment, last, changes⟩ := r.exists_moment key
  rw [result_eq_after, changes]
  split
  · next early => exact last.resolve_left (Nat.not_lt.2 early)
  · rfl

/-- When the first object is put, the keys that are not listed are gone. -/
theorem get?_after_of_put {n : Nat} {key : String} {object : Value}
    (put : r.writes[n]? = some (.put key object)) {other : String}
    (unlisted : lastListed listing other = none) : (r.after n).get? other = none := by
  have erased : r.stale.length ≤ n := by
    by_contra early
    rw [writes, List.getElem?_append_left (by simpa using early)] at put
    simp at put
  have split : r.writes.take n = r.stale.map .erase ++
      (r.fresh.map fun (key, object) => Write.put key object).take (n - r.stale.length) := by
    rw [writes, List.take_append, List.length_map, List.take_of_length_le (by simpa using erased)]
  rw [after, split, List.foldl_append, Store.get?_foldl_of_ne, Store.get?_foldl_erase]
  · split
    · rfl
    · next kept =>
      rw [r.mem_stale] at kept
      simpa [unlisted] using kept
  · intro w there same
    obtain ⟨⟨_, object'⟩, fresh, rfl⟩ := List.mem_map.1 (List.mem_of_mem_take there)
    have listed := (r.mem_fresh _ _).1 fresh
    rw [← same] at unlisted
    simp [Write.key, listed] at unlisted

end Relisting

/-! ### The relist that is performed -/

namespace Store

theorem nodup_keys (s : Store) : s.keys.Nodup :=
  Std.TreeMap.distinct_keys.imp fun different same => different (by simp [same])

/-- A relist is performed in the order of the keys. -/
def relisting (s : Store) (listing : List (String × Value)) : Relisting s listing where
  stale := s.keys.filter fun key => !(ofListing listing).contains key
  fresh := (ofListing listing).toList
  nodup_stale := s.nodup_keys.filter _
  mem_stale key := by
    rw [List.mem_filter, mem_keys_iff, contains_eq_isSome, get?_ofListing, lastListed]
    simp
  nodup_fresh := by
    have names : (ofListing listing).toList.map Prod.fst = (ofListing listing).keys :=
      Std.TreeMap.map_fst_toList_eq_keys
    rw [names]
    exact nodup_keys _
  mem_fresh key object := by
    rw [lastListed, ← get?_ofListing]
    exact Std.TreeMap.mem_toList_iff_getElem?_eq_some

theorem writes_relisting (s : Store) (listing : List (String × Value)) :
    (s.relisting listing).writes = s.relist listing := rfl

/-- To replace the contents is one way to relist them. -/
theorem result_relisting (s : Store) (listing : List (String × Value)) :
    (s.relisting listing).result = s.replace listing := rfl

end Store

/-- **Relists.** In whatever order the keys of a relist are written: between any two writes a key
that stays is there, as it was or as it is listed, and a key that was not there and is not listed is
not. Each key changes at one moment at most, from what it was to what is listed, and all that is not
listed is gone before anything is put. What is performed is such a relist. -/
theorem Relisting.hides_nothing (s : Store) (listing : List (String × Value))
    (r : Relisting s listing) :
    (∀ n key old new, s.get? key = some old → lastListed listing key = some new →
      (r.after n).get? key = some old ∨ (r.after n).get? key = some new) ∧
    (∀ n key, s.get? key = none → lastListed listing key = none →
      (r.after n).get? key = none) ∧
    (∀ key, ∃ moment, ∀ n,
      (r.after n).get? key = if n ≤ moment then s.get? key else lastListed listing key) ∧
    (∀ key, (r.after r.writes.length).get? key = lastListed listing key) ∧
    (∀ (n : Nat) key object, r.writes[n]? = some (.put key object) →
      ∀ other, lastListed listing other = none → (r.after n).get? other = none) ∧
    ∃ r' : Relisting s listing, r'.writes = s.relist listing ∧
      r'.after r'.writes.length = s.replace listing := by
  refine ⟨?_, ?_, ?_, ?_, fun n key object put other => r.get?_after_of_put put, ?_⟩
  · intro n key old new there listed
    obtain ⟨moment, -, changes⟩ := r.exists_moment key
    rw [changes]
    split
    · exact .inl there
    · exact .inr listed
  · intro n key absent unlisted
    obtain ⟨moment, -, changes⟩ := r.exists_moment key
    rw [changes, absent, unlisted, ite_self]
  · intro key
    obtain ⟨moment, -, changes⟩ := r.exists_moment key
    exact ⟨moment, changes⟩
  · intro key
    rw [← result_eq_after, get?_result]
  · refine ⟨s.relisting listing, s.writes_relisting listing, ?_⟩
    rw [← result_eq_after, s.result_relisting]

example : ((Store.empty.insert "a" .null).2.insert "b" .null).2.relist
    [("c", .null), ("b", .bool true), ("c", .bool false)] =
      [.erase "a", .put "b" (.bool true), .put "c" (.bool false)] := by
  decide +kernel

end SchedulerHost.Feed
