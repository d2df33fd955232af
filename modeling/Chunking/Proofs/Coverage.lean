import Chunking.Chunker
import Chunking.Proofs.Stretches

/-!
# Coverage

What every chunking that succeeds keeps to.  No text is lost or moved, every chunk is within
the size limit, and where one chunk ends and the next begins no leaf is cut that fits.
-/

namespace Chunking

theorem Assembler.chunk_eq_ok_iff {assembler : Assembler} {text : Text} {chunks : List Chunk} :
    Chunker.chunk assembler text = .ok chunks ↔
      assembler.policy.chunk assembler.cascade text = .ok chunks := by
  simp only [Chunker.chunk]
  cases assembler.policy.chunk assembler.cascade text <;> simp

namespace Policy

variable {policy : Policy} {cascade : Cascade} {text : Text} {chunks : List Chunk}

theorem exists_of_toOption {f : List Chunk → α} {result : Except UnclosedTag (List Chunk)}
    {value : α} (h : result.toOption.map f = some value) :
    ∃ chunks, result = .ok chunks ∧ f chunks = value := by
  cases result with
  | ok chunks => exact ⟨chunks, rfl, Option.some.inj h⟩
  | error tag => cases h

/-- Code blocks and words, in chunks of five characters that repeat at most two. -/
def fencedWords : Assembler :=
  .ofCascade (.ofList [.fence, .word]) ⟨5, 2, by decide, by decide⟩

def blockAmongWords : Text :=
  "ab cd e\n```\nyyy\n```\nzz".toList

theorem exists_chunk_blockAmongWords :
    ∃ chunks, fencedWords.policy.chunk fencedWords.cascade blockAmongWords = .ok chunks ∧
      chunks.map (·.text) = ["ab cd".toList, "cd e\n".toList, "```\ny".toList, "yy\n``".toList,
        "`\n".toList, "zz".toList] := by
  apply exists_of_toOption
  decide +kernel

/--
The chunks are windows on the text, one behind the other.  Without what they repeat they join
to the text, and without overlap they repeat nothing.
-/
theorem chunk_lossless (h : policy.chunk cascade text = .ok chunks) :
    ∃ layout : Layout policy text 0 0 chunks,
      (chunks.mapIdx fun i chunk => chunk.text.drop (layout.overlap i)).flatten = text ∧
        (policy.budget.maxOverlap = 0 → chunks.flatMap (·.text) = text) := by
  obtain ⟨layout, -⟩ := exists_layout_of_chunk h
  refine ⟨layout, layout.flatten_drop_overlap, ?_⟩
  intro hzero
  have harranged := arranged_of_chunk h
  rw [hzero] at harranged
  rw [harranged.flatMap_text, Leaf.joined_withText, joined_leaves_of_chunk h]

theorem chunk_lossless_blockAmongWords :
    ∃ chunks, fencedWords.policy.chunk fencedWords.cascade blockAmongWords = .ok chunks ∧
      ∃ layout : Layout fencedWords.policy blockAmongWords 0 0 chunks,
        (chunks.mapIdx fun i chunk => chunk.text.drop (layout.overlap i)).flatten =
          blockAmongWords ∧
        (fencedWords.policy.budget.maxOverlap = 0 →
          chunks.flatMap (·.text) = blockAmongWords) := by
  obtain ⟨chunks, hchunks, -⟩ := exists_chunk_blockAmongWords
  exact ⟨chunks, hchunks, chunk_lossless hchunks⟩

/-! ## Limits -/

/-- Every chunk has text, and not more of it than the size limit allows. -/
theorem chunk_within_limits (h : policy.chunk cascade text = .ok chunks) :
    ∀ chunk ∈ chunks, 1 ≤ chunk.length ∧ chunk.length ≤ policy.budget.maxSize := by
  intro chunk hchunk
  have htext := ne_nil_of_mem_chunk h hchunk
  exact ⟨List.length_pos_iff.2 htext, (arranged_of_chunk h).length_le chunk hchunk⟩

theorem chunk_within_limits_blockAmongWords :
    ∃ chunks, fencedWords.policy.chunk fencedWords.cascade blockAmongWords = .ok chunks ∧
      ∀ chunk ∈ chunks, 1 ≤ chunk.length ∧ chunk.length ≤ fencedWords.policy.budget.maxSize := by
  obtain ⟨chunks, hchunks, -⟩ := exists_chunk_blockAmongWords
  exact ⟨chunks, hchunks, chunk_within_limits hchunks⟩

end Policy

/-! ## Leaves -/

/--
What a chunk adds is a run of whole leaves, or one slice of a standalone leaf that is longer
than a chunk may be.  No cut is inside of a leaf that fits.
-/
structure Layout.CutsAt {policy : Policy} {text : Text} {chunks : List Chunk}
    (layout : Layout policy text 0 0 chunks) (leaves : List Leaf) : Prop where
  adds : ∀ i (hi : i < chunks.length),
    policy.Adds leaves (layout.cut i) (chunks[i].text.drop (layout.overlap i))
  not_inside : ∀ before leaf after, leaves = before ++ leaf :: after →
    leaf.length ≤ policy.budget.maxSize → ∀ i ≤ chunks.length,
      layout.cut i ≤ (Leaf.joined before).length ∨
        (Leaf.joined before).length + leaf.length ≤ layout.cut i

namespace Policy

variable {policy : Policy} {cascade : Cascade} {text : Text} {chunks : List Chunk}

theorem chunk_cuts_at_leaves (h : policy.chunk cascade text = .ok chunks) :
    Leaf.joined (policy.leaves cascade.boundaries text) = text ∧
      ∃ layout : Layout policy text 0 0 chunks,
        layout.CutsAt (policy.leaves cascade.boundaries text) := by
  obtain ⟨layout, hadds⟩ := exists_layout_of_chunk h
  refine ⟨joined_leaves_of_chunk h, layout, hadds, ?_⟩
  intro before leaf after split fits i hi
  cases i with
  | zero =>
      left
      rw [layout.cut_zero]
      exact Nat.zero_le _
  | succ i =>
      have hstop := layout.length_drop_overlap hi
      rw [← hstop]
      by_cases hinside : (Leaf.joined before).length <
          layout.cut i + (chunks[i].text.drop (layout.overlap i)).length
      · right
        exact (hadds i hi).stop_not_inside split fits hinside
      · left
        exact Nat.le_of_not_lt hinside

theorem chunk_cuts_at_leaves_blockAmongWords :
    ∃ chunks, fencedWords.policy.chunk fencedWords.cascade blockAmongWords = .ok chunks ∧
      Leaf.joined (fencedWords.policy.leaves fencedWords.cascade.boundaries blockAmongWords) =
        blockAmongWords ∧
      ∃ layout : Layout fencedWords.policy blockAmongWords 0 0 chunks,
        layout.CutsAt
          (fencedWords.policy.leaves fencedWords.cascade.boundaries blockAmongWords) := by
  obtain ⟨chunks, hchunks, -⟩ := exists_chunk_blockAmongWords
  exact ⟨chunks, hchunks, chunk_cuts_at_leaves hchunks⟩

end Policy

end Chunking
