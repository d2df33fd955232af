import Chunking.Chunk

/-!
# Divisions

What a boundary makes of a text: its pieces in order, and the reason if it had to
stop before the end.
-/

namespace Chunking

/-- The pieces of a text, or those up to an opening tag that is not closed. -/
structure Division where
  pieces : List Piece
  unclosed : Option UnclosedTag := none
deriving DecidableEq

namespace Division

def plain (texts : List Text) : Division where
  pieces := texts.map fun text => { text }

def joined (division : Division) : Text :=
  division.pieces.flatMap Piece.text

@[simp] theorem joined_plain (texts : List Text) : (plain texts).joined = texts.flatten := by
  induction texts with
  | nil => rfl
  | cons text rest ih =>
      simp only [plain, joined, List.map_cons, List.flatMap_cons, List.flatten_cons] at ih ⊢
      rw [ih]

/-- Number the pieces; those before an unclosed tag have numbers too when it is reported. -/
def number (division : Division) : Numbering (List Chunk) := do
  let chunks ← Chunk.numberAll division.pieces
  match division.unclosed with
  | none => return chunks
  | some tag => throw tag

theorem number_of_closed {division : Division} (h : division.unclosed = none) (next : Nat) :
    division.number next =
      .ok (Chunk.consecutive next division.pieces) (next + division.pieces.length) := by
  unfold number
  rw [Numbering.bind_of_ok (Chunk.numberAll_apply division.pieces next), h]
  rfl

theorem number_of_unclosed {division : Division} {tag : UnclosedTag}
    (h : division.unclosed = some tag) (next : Nat) :
    division.number next = .error tag (next + division.pieces.length) := by
  unfold number
  rw [Numbering.bind_of_ok (Chunk.numberAll_apply division.pieces next), h]
  rfl

end Division

end Chunking
