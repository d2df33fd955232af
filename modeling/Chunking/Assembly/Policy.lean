import Chunking.Budget
import Chunking.Chunk

/-!
# Policies

What holds for one chunking from beginning to end: its limits, and which chunks
are never joined to others.
-/

namespace Chunking

structure Policy where
  budget : Budget
  standalone : List String

namespace Policy

def within (policy : Policy) (budget : Budget) : Policy :=
  { policy with budget }

/-- Whether a piece must never be joined to another. -/
def isStandalone (policy : Policy) (piece : Piece) : Bool :=
  (piece.get? Metadata.kindKey).any fun kind => policy.standalone.contains kind

def fragments (policy : Policy) (piece : Piece) : Numbering (List Chunk) :=
  Chunk.fragments policy.budget.maxSize policy.budget.size_pos piece

/-- A standalone chunk as it is, or its fragments if it is too long. -/
def cutStandalone (policy : Policy) (chunk : Chunk) : Numbering (List Chunk) :=
  if policy.budget.fits chunk.length then return [chunk]
  else policy.fragments chunk.toPiece

end Policy

end Chunking
