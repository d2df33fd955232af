import Chunking.Assembly.Buffer
import Chunking.Assembly.Policy

/-!
# Packing

Pieces in order are joined as long as there is room.  A standalone chunk is never
joined to another; a piece without room even on its own is divided further.
-/

namespace Chunking.Policy

/-- The chunks of a divided piece that are finished, and those that can still grow. -/
def reopen (policy : Policy) (parts : List Chunk) : List Chunk × Buffer :=
  match parts.getLast? with
  | none => ([], .empty)
  | some last =>
      if policy.isStandalone last.toPiece then (parts, .empty) else (parts.dropLast, .single last)

variable {m : Type → Type} [Monad m] [MonadLiftT Numbering m]

/-- Pack pieces behind those that wait, dividing what is too long by `descend`. -/
def pack (policy : Policy) (descend : Chunk → m (List Chunk)) (waiting : Buffer) :
    List Chunk → m (List Chunk)
  | [] => do
      let packed ← waiting.flush
      return packed.toList
  | piece :: pieces => do
      if policy.isStandalone piece.toPiece then
        let packed ← waiting.flush
        let own ← policy.cutStandalone piece
        let later ← policy.pack descend .empty pieces
        return packed.toList ++ own ++ later
      else if policy.budget.hasRoom waiting.size piece.length then
        policy.pack descend (waiting.push piece) pieces
      else
        let packed ← waiting.flush
        if policy.budget.fits piece.length then
          let later ← policy.pack descend (.single piece) pieces
          return packed.toList ++ later
        else
          let parts ← descend piece
          let (finished, growing) := policy.reopen parts
          let later ← policy.pack descend growing pieces
          return packed.toList ++ finished ++ later

end Chunking.Policy
