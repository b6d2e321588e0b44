
/-!
# Channels

A bounded queue with one listener that never makes a sender wait: when it is full the oldest item
is dropped, and the listener is told how many it missed before it gets the next.

Main statements: `le_roundedCapacity` and `roundedCapacity_le`, which say how many items are kept,
and `pull?_cases`, which says what the listener gets.
-/

namespace SchedulerHost.Event

/-- A bounded queue: the items kept, the oldest first, and how many were dropped before them. -/
structure Channel (α : Type) where
  capacity : Nat
  kept : List α
  missed : Nat
deriving DecidableEq

/-- What the listener takes from a channel. -/
inductive Pulled (α : Type) where
  /-- The next item. -/
  | item (a : α)
  /-- So many items were dropped since the last. -/
  | lagged (missed : Nat)
deriving DecidableEq

namespace Channel

variable {α : Type}

/-- The number of items a channel keeps: the least power of two that is not less than asked for. -/
def roundedCapacity (asked : Nat) : Nat :=
  Nat.pow 2 (Nat.log2 (2 * max 1 asked - 1))

def empty (asked : Nat) : Channel α := ⟨roundedCapacity asked, [], 0⟩

/-- Appends an item, dropping the oldest if the channel is full. -/
def push (c : Channel α) (a : α) : Channel α :=
  if c.kept.length < c.capacity then { c with kept := c.kept ++ [a] }
  else { c with kept := c.kept.drop 1 ++ [a], missed := c.missed + 1 }

def pull? (c : Channel α) : Option (Pulled α × Channel α) :=
  if 0 < c.missed then some (.lagged c.missed, { c with missed := 0 })
  else
    match c.kept with
    | [] => none
    | a :: rest => some (.item a, { c with kept := rest })

/-- The number of items sent that the listener has not been told of. -/
def outstanding (c : Channel α) : Nat := c.kept.length + c.missed

theorem isPowerOfTwo_roundedCapacity (asked : Nat) : (roundedCapacity asked).isPowerOfTwo :=
  ⟨_, rfl⟩

theorem roundedCapacity_pos (asked : Nat) : 0 < roundedCapacity asked :=
  Nat.pow_pos (by decide)

theorem le_roundedCapacity (asked : Nat) : max 1 asked ≤ roundedCapacity asked := by
  have above : 2 * max 1 asked - 1 < Nat.pow 2 (Nat.log2 (2 * max 1 asked - 1) + 1) :=
    Nat.lt_log2_self
  change _ < roundedCapacity asked * 2 at above
  omega

/-- No smaller power of two is enough. -/
theorem roundedCapacity_le {asked n : Nat} (power : n.isPowerOfTwo) (enough : max 1 asked ≤ n) :
    roundedCapacity asked ≤ n := by
  obtain ⟨k, rfl⟩ := power
  apply Nat.pow_le_pow_right (by decide)
  have below : Nat.log2 (2 * max 1 asked - 1) < k + 1 := by
    rw [Nat.log2_lt (by omega), Nat.pow_succ]
    omega
  omega

/-- While there is room nothing is dropped. -/
theorem push_of_room {c : Channel α} (h : c.kept.length < c.capacity) (a : α) :
    c.push a = { c with kept := c.kept ++ [a] } :=
  if_pos h

/-- In a full channel the oldest item gives way. -/
theorem push_of_full {c : Channel α} (h : ¬c.kept.length < c.capacity) (a : α) :
    c.push a = { c with kept := c.kept.drop 1 ++ [a], missed := c.missed + 1 } :=
  if_neg h

/-- What is pulled is the report of what was missed, and if nothing was, the oldest item. -/
theorem pull?_cases {c c' : Channel α} {pulled : Pulled α} (h : c.pull? = some (pulled, c')) :
    (0 < c.missed ∧ pulled = .lagged c.missed ∧ c' = { c with missed := 0 }) ∨
      ∃ a rest, c.missed = 0 ∧ c.kept = a :: rest ∧ pulled = .item a ∧
        c' = { c with kept := rest } := by
  unfold pull? at h
  split at h
  · next missed =>
    cases h
    exact .inl ⟨missed, rfl, rfl⟩
  · next caught_up =>
    split at h
    · contradiction
    · next a rest items =>
      cases h
      exact .inr ⟨a, rest, by omega, items, rfl, rfl⟩

end Channel

end SchedulerHost.Event
