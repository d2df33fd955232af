import Mathlib.Data.List.Chain
import Chunking.Proofs.Neighbours

/-!
# Estimates

How far the count of chunks can be from the estimate that a chunker gives beforehand.  A chunk
adds no more than the size limit, so there are at least as many as estimated.  Two neighbours
together exceed the limit, so there are not many more than twice as many.
-/

namespace Chunking

theorem Layout.cut_le_mul {policy : Policy} {text : Text} {reach : Nat} {chunks : List Chunk}
    (layout : Layout policy text 0 reach chunks)
    (fits : ∀ chunk ∈ chunks, chunk.length ≤ policy.budget.maxSize) {i : Nat}
    (hi : i ≤ chunks.length) : layout.cut i ≤ i * policy.budget.maxSize := by
  induction i with
  | zero => simp [layout.cut_zero]
  | succ i ih =>
      have hstretch := layout.length_drop_overlap hi
      have hchunk : chunks[i].text.length ≤ policy.budget.maxSize :=
        fits chunks[i] (List.getElem_mem hi)
      have hcut := ih (Nat.le_of_succ_le hi)
      rw [List.length_drop] at hstretch
      rw [Nat.succ_mul]
      omega

namespace Policy

variable {policy : Policy} {cascade : Cascade} {text : Text} {chunks : List Chunk}

theorem length_le_mul_of_chunk (h : policy.chunk cascade text = .ok chunks) :
    text.length ≤ chunks.length * policy.budget.maxSize := by
  obtain ⟨layout, -⟩ := exists_layout_of_chunk h
  rw [← layout.cut_length]
  exact layout.cut_le_mul (arranged_of_chunk h).length_le (Nat.le_refl _)

theorem half_mul_le_length {size : Nat} : ∀ {chunks : List Chunk},
    (chunks.IsChain fun first second => size < first.length + second.length) →
      chunks.length / 2 * size ≤ (chunks.flatMap (·.text)).length
  | [], _ => by simp
  | [chunk], _ => by simp
  | first :: second :: rest, h => by
      obtain ⟨hpair, hlater⟩ := List.isChain_cons_cons.1 h
      have hrest : rest.length / 2 * size ≤ (rest.flatMap (·.text)).length :=
        half_mul_le_length hlater.tail
      have hhalf : (first :: second :: rest).length / 2 = rest.length / 2 + 1 := by
        simp only [List.length_cons]
        omega
      rw [hhalf, Nat.succ_mul]
      simp only [List.flatMap_cons, List.length_append]
      unfold Piece.length at hpair
      omega

/-- Without overlap, chunks that could all be joined are no more than twice as many as needed. -/
theorem half_mul_le_of_chunk (overlap_eq : policy.budget.maxOverlap = 0)
    (joinable : ∀ chunk ∈ chunks, policy.isStandalone chunk.toPiece = false)
    (h : policy.chunk cascade text = .ok chunks) :
    chunks.length / 2 * policy.budget.maxSize ≤ text.length := by
  have harranged := arranged_of_chunk h
  rw [overlap_eq] at harranged
  have htext : chunks.flatMap (·.text) = text := by
    rw [harranged.flatMap_text, Leaf.joined_withText, joined_leaves_of_chunk h]
  obtain ⟨layout, hfull⟩ := exists_full_layout_of_chunk h
  have hchain : chunks.IsChain fun first second =>
      policy.budget.maxSize < first.length + second.length := by
    rw [List.isChain_iff_getElem]
    intro i hnext
    have hroom := hfull i (Nat.lt_of_succ_lt hnext) hnext
      (joinable _ (List.getElem_mem _)) (joinable _ (List.getElem_mem _))
    omega
  have hhalf := half_mul_le_length hchain
  rwa [htext] at hhalf

end Policy

namespace Assembler

variable {assembler : Assembler} {text : Text} {chunks : List Chunk}

theorem estimate_eq (assembler : Assembler) (length : Nat) :
    Chunker.estimate assembler length = max 1 (length / assembler.policy.budget.maxSize) := rfl

/--
There are never fewer chunks than estimated, whatever the overlap.  Without overlap, and if no
chunk stands alone, there is at most one more than twice as many.
-/
theorem count_near_estimate (ne_nil : text ≠ [])
    (h : Chunker.chunk assembler text = .ok chunks) :
    Chunker.estimate assembler text.length ≤ chunks.length ∧
      (assembler.policy.budget.maxOverlap = 0 →
        (∀ chunk ∈ chunks, assembler.policy.isStandalone chunk.toPiece = false) →
          chunks.length ≤ 2 * Chunker.estimate assembler text.length + 1) := by
  rw [chunk_eq_ok_iff] at h
  have size_pos := assembler.policy.budget.size_pos
  rw [estimate_eq]
  constructor
  · have hmul := Policy.length_le_mul_of_chunk h
    have hcount : 0 < chunks.length := by
      apply Nat.pos_of_mul_pos_right
      exact Nat.lt_of_lt_of_le (List.length_pos_iff.2 ne_nil) hmul
    have hdiv : text.length / assembler.policy.budget.maxSize ≤ chunks.length :=
      Nat.div_le_of_le_mul (by rwa [Nat.mul_comm])
    omega
  · intro overlap_eq joinable
    have hhalf := Policy.half_mul_le_of_chunk overlap_eq joinable h
    have hdiv : chunks.length / 2 ≤ text.length / assembler.policy.budget.maxSize :=
      (Nat.le_div_iff_mul_le size_pos).2 hhalf
    omega

def headings : Assembler :=
  .ofCascade (.ofList (HeadingLevel.all.map .heading)) ⟨8, 0, by decide, by decide⟩

def threeHeadings : Text :=
  "\n# a\n\n# b\n\n# c\n".toList

/-- Of three headings no two fit in one chunk, while the estimate is a single one.  A text with a
code block, of which two chunks repeat something, is in more chunks than estimated as well. -/
theorem count_near_estimate_threeHeadings :
    (∃ chunks, Chunker.chunk headings threeHeadings = .ok chunks ∧ threeHeadings ≠ [] ∧
      (∀ chunk ∈ chunks, headings.policy.isStandalone chunk.toPiece = false) ∧
      chunks.length = 2 * Chunker.estimate headings threeHeadings.length + 1 ∧
      chunks.length ≤ 2 * Chunker.estimate headings threeHeadings.length + 1) ∧
    ∃ chunks, Chunker.chunk Policy.fencedWords Policy.blockAmongWords = .ok chunks ∧
      Chunker.estimate Policy.fencedWords Policy.blockAmongWords.length ≤ chunks.length := by
  constructor
  · have hrun : ∃ chunks, headings.policy.chunk headings.cascade threeHeadings = .ok chunks ∧
        (chunks.map fun chunk => headings.policy.isStandalone chunk.toPiece) =
          [false, false, false] := by
      apply Policy.exists_of_toOption
      decide +kernel
    obtain ⟨chunks, hchunks, hkinds⟩ := hrun
    have hlength : chunks.length = 3 := by simpa using congrArg List.length hkinds
    have hjoinable : ∀ chunk ∈ chunks, headings.policy.isStandalone chunk.toPiece = false := by
      intro chunk hchunk
      have hmem := List.mem_map_of_mem (f := fun chunk : Chunk =>
        headings.policy.isStandalone chunk.toPiece) hchunk
      simpa [hkinds] using hmem
    have hchunks : Chunker.chunk headings threeHeadings = .ok chunks := chunk_eq_ok_iff.2 hchunks
    have hnear := count_near_estimate (by decide) hchunks
    exact ⟨chunks, hchunks, by decide, hjoinable, by rw [hlength]; decide, hnear.2 rfl hjoinable⟩
  · obtain ⟨chunks, hchunks, -⟩ := Policy.exists_chunk_blockAmongWords
    have hchunks : Chunker.chunk Policy.fencedWords Policy.blockAmongWords = .ok chunks :=
      chunk_eq_ok_iff.2 hchunks
    exact ⟨chunks, hchunks, (count_near_estimate (by decide) hchunks).1⟩

end Assembler

end Chunking
