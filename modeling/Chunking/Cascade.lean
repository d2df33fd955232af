import Chunking.Boundary

/-!
# Cascades

Boundaries in the order in which they are tried on what is still too long.  The
last one divides into characters, so that in the end everything can be divided.
-/

namespace Chunking

structure Cascade where
  boundaries : List Boundary
  ends : boundaries.getLast? = some .character

namespace Cascade

def ofList (boundaries : List Boundary) : Cascade :=
  if h : boundaries.getLast? = some .character then
    ⟨boundaries, h⟩
  else
    ⟨boundaries ++ [.character], by simp⟩

def length (cascade : Cascade) : Nat :=
  cascade.boundaries.length

/-- Whether there is no boundary, which cannot be. -/
def isEmpty (cascade : Cascade) : Bool :=
  cascade.boundaries.isEmpty

theorem isEmpty_eq_false (cascade : Cascade) : cascade.isEmpty = false := by
  obtain ⟨boundaries, ends⟩ := cascade
  cases boundaries with
  | nil => simp at ends
  | cons boundary rest => rfl

end Cascade

end Chunking
