import Chunking.Text.Basic
import Chunking.Metadata

/-!
# Pieces

A piece is a text with metadata.  Pieces that stand next to each other join to
one; it keeps the metadata on which they agree, and a piece without text has no
say in that.
-/

namespace Chunking

/-- A text with what is known about it. -/
@[ext]
structure Piece where
  text : Text
  metadata : Metadata := .empty
deriving DecidableEq

namespace Piece

def length (piece : Piece) : Nat :=
  piece.text.length

def join (first second : Piece) : Piece where
  text := first.text ++ second.text
  metadata :=
    if first.text.isEmpty then second.metadata
    else if second.text.isEmpty then first.metadata
    else first.metadata.common second.metadata

def withText (pieces : List Piece) : List Piece :=
  pieces.filter fun piece => !piece.text.isEmpty

/-- A piece and those after it as one piece.  Where none has text, the first one's metadata stay. -/
def joinAll (first : Piece) (rest : List Piece) : Piece where
  text := (first :: rest).flatMap Piece.text
  metadata :=
    match withText (first :: rest) with
    | [] => first.metadata
    | head :: tail => tail.foldl (fun agreed piece => agreed.common piece.metadata) head.metadata

def inherit (piece : Piece) (surroundings : Metadata) : Piece :=
  { piece with metadata := piece.metadata.inherit surroundings }

def get? (piece : Piece) (key : String) : Option String :=
  piece.metadata.get? key

end Piece

end Chunking
