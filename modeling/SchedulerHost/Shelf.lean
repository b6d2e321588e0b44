/-!
# Shelves

Numbered cells. All who hold the number of a cell share its contents.

Main statements: `get_put` and `get_put_of_ne`: writing a cell changes that cell alone.
-/

namespace SchedulerHost

/-- Numbered cells, from zero upwards. -/
structure Shelf (α : Type) where
  cells : List α

namespace Shelf

variable {α : Type}

def empty : Shelf α := ⟨[]⟩

instance : Inhabited (Shelf α) := ⟨empty⟩

/-- The number the next cell will have. -/
def size (s : Shelf α) : Nat := s.cells.length

def get [Inhabited α] (s : Shelf α) (id : Nat) : α := s.cells.getD id default

def put (s : Shelf α) (id : Nat) (a : α) : Shelf α := ⟨s.cells.set id a⟩

/-- Adds a cell, whose number is the size before. -/
def add (s : Shelf α) (a : α) : Shelf α := ⟨s.cells ++ [a]⟩

/-- A cell has the contents that were put into it. -/
theorem get_put [Inhabited α] (s : Shelf α) {id : Nat} (a : α) (h : id < s.size) :
    (s.put id a).get id = a := by
  simp only [size] at h
  simp [get, put, h]

/-- Writing a cell changes that cell alone. -/
theorem get_put_of_ne [Inhabited α] (s : Shelf α) {id other : Nat} (a : α) (h : id ≠ other) :
    (s.put id a).get other = s.get other := by
  simp [get, put, List.getElem?_set_ne h]

@[simp] theorem size_put (s : Shelf α) (id : Nat) (a : α) : (s.put id a).size = s.size := by
  simp [size, put]

@[simp] theorem size_add (s : Shelf α) (a : α) : (s.add a).size = s.size + 1 := by
  simp [size, add]

theorem get_add_of_lt [Inhabited α] (s : Shelf α) {id : Nat} (a : α) (h : id < s.size) :
    (s.add a).get id = s.get id := by
  simp only [size] at h
  simp [get, add, List.getElem?_append_left h]

@[simp] theorem get_add_size [Inhabited α] (s : Shelf α) (a : α) : (s.add a).get s.size = a := by
  simp [get, add, size]

end Shelf

end SchedulerHost
