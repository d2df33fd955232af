import Chunking.Assembly.Seam
import Chunking.Cascade

/-!
# Assembly

A text is divided at the first boundary of a cascade and the pieces are packed;
what is too long is divided at the boundaries after it in the same way.  The
outermost level adds the overlap.
-/

namespace Chunking.Policy

/-- Chunks with the metadata of their surroundings, without the empty ones. -/
def settled (surroundings : Metadata) (chunks : List Chunk) : List Chunk :=
  (chunks.map fun chunk => chunk.inherit surroundings).filter fun chunk => !chunk.text.isEmpty

section Steps

variable {m : Type → Type} [Monad m]

/-- The pieces of a text are packed, those that are too long divided by `descend`, and the
result is packed once more. -/
def level [MonadLiftT Numbering m] (policy : Policy) (boundary : Boundary)
    (descend : Chunk → m (List Chunk)) (packAgain : List Chunk → m (List Chunk)) (piece : Piece) :
    m (List Chunk) := do
  let pieces ← boundary.split piece.text
  let packed ← policy.pack descend .empty pieces
  let repacked ← packAgain packed
  return settled piece.metadata repacked

/--
The end of a chunk that the next one may borrow: the whole chunk if it is short
enough, and else the last of the chunks it divides into under the overlap limit.
A chunk that cuts through an element is divided without looking for elements.
-/
def lendWithin [MonadExceptOf UnclosedTag m] (window : Budget)
    (divide : List Boundary → m (List Chunk)) (boundaries : List Boundary) (chunk : Chunk) :
    m (Option Chunk) :=
  if chunk.text.isEmpty then
    return none
  else if window.fits chunk.length then
    return some chunk
  else do
    let parts ←
      tryCatch (divide boundaries) fun _ =>
        divide (boundaries.filter fun boundary => !boundary.isElement)
    return parts.getLast?

end Steps

/-- The chunks of a piece under the size limit, without overlap. -/
def settle (policy : Policy) : List Boundary → Piece → Numbering (List Chunk)
  | [], piece => do
      let chunk ← Chunk.number piece
      policy.fragments chunk.toPiece
  | boundary :: finer, piece =>
      policy.level boundary (fun part => policy.settle finer part.toPiece) policy.repack piece

/-- What the chunk after this one may repeat of it.  Without a limit on it, nothing is repeated. -/
def lend (policy : Policy) (boundaries : List Boundary) (chunk : Chunk) :
    Numbering (Option Chunk) :=
  match policy.budget.window? with
  | none => return none
  | some window =>
      lendWithin window (fun boundaries => (policy.within window).settle boundaries chunk.toPiece)
        boundaries chunk

def assemble (policy : Policy) : List Boundary → Text → Numbering (List Chunk)
  | [], text => policy.settle [] { text }
  | boundary :: finer, text =>
      policy.level boundary (fun part => policy.settle finer part.toPiece)
        (policy.stitch (policy.lend (boundary :: finer)) .empty) { text }

def stampAll (chunks : List Chunk) : List Chunk :=
  chunks.mapIdx fun index chunk => chunk.stamp index

/-- The finished chunks of a text.  An empty text has none. -/
def chunk (policy : Policy) (cascade : Cascade) (text : Text) : Except UnclosedTag (List Chunk) :=
  if text.isEmpty then .ok []
  else
    match (policy.assemble cascade.boundaries text).runFrom 0 with
    | (.ok chunks, _) => .ok (stampAll chunks)
    | (.error tag, _) => .error tag

end Chunking.Policy
