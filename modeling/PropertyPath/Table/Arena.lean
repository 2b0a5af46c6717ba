/-!
# Arenas

An arena assigns contents to references. Every reference has contents: those
never written hold the default value, so reading after writing needs no side
condition. `push` stores under `next`, the first reference not yet used.
-/

namespace PropertyPath

/-- A reference to contents held elsewhere; equal references share them. -/
structure Ref where
  index : Nat
  deriving DecidableEq, Repr, Inhabited

/-- A total assignment of contents to references, default from some point on. -/
structure Arena (α : Type) where
  cells : Array α := #[]

namespace Arena

variable {α : Type} [Inhabited α]

/-- The contents of a reference. -/
def get (a : Arena α) (r : Ref) : α := a.cells[r.index]?.getD default

/-- The assignment that holds `x` at `r` and agrees elsewhere. -/
def set (a : Arena α) (r : Ref) (x : α) : Arena α :=
  ⟨(a.cells ++ Array.replicate (r.index + 1 - a.cells.size) default).setIfInBounds r.index x⟩

/-- The next fresh reference. -/
def next (a : Arena α) : Ref := ⟨a.cells.size⟩

/-- Stores `x` at the next fresh reference. -/
def push (a : Arena α) (x : α) : Arena α := ⟨a.cells.push x⟩

/-- What was stored at a reference is read there, also at one beyond the end. -/
@[simp] theorem get_set_self (a : Arena α) (r : Ref) (x : α) : (a.set r x).get r = x := by
  have inside :
      r.index < (a.cells ++ Array.replicate (r.index + 1 - a.cells.size) default).size := by
    rw [Array.size_append, Array.size_replicate]; omega
  simp only [get, set, Array.getElem?_setIfInBounds_self, inside, if_true, Option.getD_some]

/-- Storing at a reference changes nothing at another. The cells that come into being below it hold
the default, which they read as before. -/
theorem get_set_of_ne (a : Arena α) {r s : Ref} (distinct : s ≠ r) (x : α) :
    (a.set r x).get s = a.get s := by
  have apart : r.index ≠ s.index := fun same => distinct (by cases r; cases s; simp_all)
  simp only [get, set, Array.getElem?_setIfInBounds_ne apart, Array.getElem?_append]
  split
  · rfl
  · rename_i outside
    simp only [Array.getElem?_replicate, Array.getElem?_eq_none (Nat.le_of_not_lt outside)]
    split <;> rfl

/-- What is pushed is read at the reference that was next. -/
@[simp] theorem get_push_self (a : Arena α) (x : α) : (a.push x).get a.next = x := by
  simp [get, push, next]

/-- A push changes nothing at the references in use, nor at those further on. -/
theorem get_push_of_ne (a : Arena α) {r : Ref} (distinct : r ≠ a.next) (x : α) :
    (a.push x).get r = a.get r := by
  have apart : r.index ≠ a.cells.size := fun same => distinct (by cases r; simp_all [next])
  simp [get, push, Array.getElem?_push, apart]

end Arena

end PropertyPath
