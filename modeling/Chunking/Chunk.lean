import Chunking.Numbering
import Chunking.Piece

/-!
# Chunks

A chunk is a piece with a number.  Joining draws a number only where something is
joined; inheriting and stamping keep the number.
-/

namespace Chunking

structure Chunk extends Piece where
  id : Nat
deriving DecidableEq

namespace Chunk

def number (piece : Piece) : Numbering Chunk := do
  let id ← Numbering.draw
  return { piece with id }

def numberAll : List Piece → Numbering (List Chunk)
  | [] => return []
  | piece :: rest => do
      let chunk ← number piece
      let chunks ← numberAll rest
      return chunk :: chunks

def consecutive (next : Nat) : List Piece → List Chunk
  | [] => []
  | piece :: rest => { piece with id := next } :: consecutive (next + 1) rest

@[simp] theorem number_apply (piece : Piece) (next : Nat) :
    number piece next = .ok { piece with id := next } (next + 1) := rfl

/-- Numbering a list cannot fail and draws one number for each piece. -/
theorem numberAll_apply (pieces : List Piece) (next : Nat) :
    numberAll pieces next = .ok (consecutive next pieces) (next + pieces.length) := by
  induction pieces generalizing next with
  | nil => rfl
  | cons piece rest ih =>
      simp only [numberAll]
      rw [Numbering.bind_of_ok (number_apply piece next), Numbering.bind_of_ok (ih (next + 1))]
      simp only [Numbering.pure_apply, consecutive, List.length_cons]
      congr 1
      omega

theorem toPiece_consecutive (next : Nat) (pieces : List Piece) :
    (consecutive next pieces).map Chunk.toPiece = pieces := by
  induction pieces generalizing next with
  | nil => rfl
  | cons piece rest ih => simp [consecutive, ih]

theorem id_consecutive (next : Nat) (pieces : List Piece) :
    (consecutive next pieces).map Chunk.id = List.range' next pieces.length := by
  induction pieces generalizing next with
  | nil => rfl
  | cons piece rest ih => simp [consecutive, ih, List.range'_succ]

def join (first second : Chunk) : Numbering Chunk :=
  number (first.toPiece.join second.toPiece)

/-- Neighbours as one chunk.  A chunk without neighbours stays as it is. -/
def joinAll : List Chunk → Numbering (Option Chunk)
  | [] => return none
  | [chunk] => return some chunk
  | first :: rest => do
      let chunk ← number (first.toPiece.joinAll (rest.map Chunk.toPiece))
      return some chunk

def inherit (chunk : Chunk) (surroundings : Metadata) : Chunk :=
  { chunk with toPiece := chunk.toPiece.inherit surroundings }

/-- The chunk with its number and its position among its metadata. -/
def stamp (chunk : Chunk) (index : Nat) : Chunk :=
  { chunk with
    metadata := (chunk.metadata.insert Metadata.idKey (Text.decimal chunk.id)).insert
      Metadata.indexKey (Text.decimal index) }

/-- Number slices of one text; each but the first is linked to the one before it. -/
def numberSlices (metadata : Metadata) (previous : Option Nat) :
    List Text → Numbering (List Chunk)
  | [] => return []
  | slice :: rest => do
      let linked :=
        match previous with
        | none => metadata
        | some id => metadata.insert Metadata.previousKey (Text.decimal id)
      let chunk ← number ⟨slice, linked⟩
      let chunks ← numberSlices metadata (some chunk.id) rest
      return chunk :: chunks

def fragments (size : Nat) (size_pos : 0 < size) (piece : Piece) : Numbering (List Chunk) :=
  numberSlices piece.metadata none (Text.slices size size_pos piece.text)

end Chunk

end Chunking
