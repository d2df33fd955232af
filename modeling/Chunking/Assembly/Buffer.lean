import Chunking.Budget
import Chunking.Chunk

/-!
# Buffers

Chunks that wait to be joined to one, with their common length at hand.
-/

namespace Chunking

structure Buffer where
  chunks : List Chunk
  size : Nat
  size_eq : size = (chunks.flatMap fun chunk => chunk.text).length

namespace Buffer

def empty : Buffer :=
  ⟨[], 0, rfl⟩

def push (buffer : Buffer) (chunk : Chunk) : Buffer where
  chunks := buffer.chunks ++ [chunk]
  size := buffer.size + chunk.length
  size_eq := by
    rw [buffer.size_eq, List.flatMap_append, List.length_append, List.flatMap_singleton]
    rfl

def single (chunk : Chunk) : Buffer :=
  empty.push chunk

/-- Join what waits. -/
def flush (buffer : Buffer) : Numbering (Option Chunk) :=
  Chunk.joinAll buffer.chunks

@[simp] theorem size_empty : empty.size = 0 := rfl

@[simp] theorem chunks_empty : empty.chunks = [] := rfl

@[simp] theorem size_push (buffer : Buffer) (chunk : Chunk) :
    (buffer.push chunk).size = buffer.size + chunk.length := rfl

@[simp] theorem chunks_push (buffer : Buffer) (chunk : Chunk) :
    (buffer.push chunk).chunks = buffer.chunks ++ [chunk] := rfl

end Buffer

end Chunking
