import Chunking.Assembly.Packing

/-!
# Seams

Packed chunks are packed once more.  Where one of them has to end because the
next does not fit, a seam remains, and the next one may borrow the end of the one
before it.
-/

namespace Chunking.Policy

/-- A chunk with borrowed text in front, if both limits allow that. -/
def withBorrowed (policy : Policy) (borrowed : Option Chunk) (chunk : Chunk) : Numbering Chunk :=
  match borrowed with
  | none => return chunk
  | some borrowed =>
      if !borrowed.text.isEmpty && borrowed.length ≤ policy.budget.maxOverlap &&
          policy.budget.hasRoom borrowed.length chunk.length then
        borrowed.join chunk
      else
        return chunk

variable {m : Type → Type} [Monad m] [MonadLiftT Numbering m]

/--
Pack chunks behind those that wait.  At each seam, `lend` gives what may be borrowed.
A chunk beyond the size limit is cut, and only its last fragment can still grow.
-/
def stitch (policy : Policy) (lend : Chunk → m (Option Chunk)) (waiting : Buffer) :
    List Chunk → m (List Chunk)
  | [] => do
      let packed ← waiting.flush
      return packed.toList
  | chunk :: chunks => do
      if policy.isStandalone chunk.toPiece then
        let packed ← waiting.flush
        let later ← policy.stitch lend .empty chunks
        return packed.toList ++ chunk :: later
      else if !policy.budget.fits chunk.length then
        let packed ← waiting.flush
        let parts ← policy.fragments chunk.toPiece
        let (finished, growing) := policy.reopen parts
        let later ← policy.stitch lend growing chunks
        return packed.toList ++ finished ++ later
      else if policy.budget.hasRoom waiting.size chunk.length then
        policy.stitch lend (waiting.push chunk) chunks
      else
        match ← waiting.flush with
        | none => policy.stitch lend (.single chunk) chunks
        | some packed =>
            let borrowed ← lend packed
            let next ← policy.withBorrowed borrowed chunk
            let later ← policy.stitch lend (.single next) chunks
            return packed :: later

def lendNothing (_ : Chunk) : Numbering (Option Chunk) :=
  return none

def repack (policy : Policy) (chunks : List Chunk) : Numbering (List Chunk) :=
  policy.stitch lendNothing .empty chunks

end Chunking.Policy
