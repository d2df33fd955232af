import Chunking.Proofs.Coverage

/-!
# Attribution

What finished chunks say of the text they add, apart from their numbers.  All of it holds
of every leaf there, by its own metadata or by those of a piece around it.  A chunk that
repeats nothing leaves out nothing on which all of these leaves agree.
-/

namespace Chunking

/--
A value that a chunk has is known to every leaf of the stretch that it adds.  If the chunk
repeats nothing, as without overlap, it has every value that is in effect for all of them.
-/
structure Layout.TellsOf {policy : Policy} {text : Text} {chunks : List Chunk}
    (layout : Layout policy text 0 0 chunks) (leaves : List Leaf) : Prop where
  overlap_eq_zero : policy.budget.maxOverlap = 0 → ∀ i < chunks.length, layout.overlap i = 0
  sound : ∀ i (hi : i < chunks.length) key value, Metadata.IsSourceKey key →
    chunks[i].get? key = some value → ∀ leaf : Leaf,
      leaf.Meets leaves (layout.cut i) (layout.cut (i + 1)) → leaf.Knows key value
  complete : ∀ i (hi : i < chunks.length) key value, Metadata.IsSourceKey key →
    layout.overlap i = 0 → (∀ leaf : Leaf,
      leaf.Meets leaves (layout.cut i) (layout.cut (i + 1)) → leaf.effective? key = some value) →
    chunks[i].get? key = some value

namespace Policy

variable {policy : Policy} {cascade : Cascade} {text : Text} {chunks : List Chunk}

theorem chunk_tells_of_leaves (h : policy.chunk cascade text = .ok chunks) :
    ∃ layout : Layout policy text 0 0 chunks,
      layout.TellsOf (policy.leaves cascade.boundaries text) := by
  obtain ⟨layout, hlayout⟩ := exists_telling_layout_of_chunk h
  refine ⟨layout, ?_, ?_, ?_⟩
  · intro hzero i hi
    have hlimit := layout.overlap_le_limit i hi
    omega
  · intro i hi key value hkey hvalue leaf hmeets
    obtain ⟨-, run, -, hrun, htells⟩ := hlayout i hi
    exact htells.sound key value hkey hvalue leaf ((hrun leaf).2 hmeets)
  · intro i hi key value hkey hzero hall
    obtain ⟨-, run, hne, hrun, htells⟩ := hlayout i hi
    exact htells.complete hzero hne key value hkey fun leaf hleaf =>
      hall leaf ((hrun leaf).1 hleaf)

def headedWords : Assembler :=
  .ofCascade (.ofList ((HeadingLevel.all.take 2).map .headingElement ++ [.word]))
    ⟨14, 4, by decide, by decide⟩

def sectionInSection : Text :=
  "<h1>A</h1> one two <h2>B</h2> three four".toList

/-- The inner heading is lost where words before it are repeated, the outer one is not. -/
theorem chunk_tells_of_leaves_sectionInSection :
    ∃ chunks, headedWords.policy.chunk headedWords.cascade sectionInSection = .ok chunks ∧
      chunks.map (·.get? Metadata.headerKey) = [some "A", some "A", none, some "B"] ∧
      ∃ layout : Layout headedWords.policy sectionInSection 0 0 chunks,
        layout.TellsOf
          (headedWords.policy.leaves headedWords.cascade.boundaries sectionInSection) := by
  have hheadings : ∃ chunks,
      headedWords.policy.chunk headedWords.cascade sectionInSection = .ok chunks ∧
      chunks.map (·.get? Metadata.headerKey) = [some "A", some "A", none, some "B"] := by
    apply exists_of_toOption
    decide +kernel
  obtain ⟨chunks, hchunks, hheaders⟩ := hheadings
  exact ⟨chunks, hchunks, hheaders, chunk_tells_of_leaves hchunks⟩

end Policy

end Chunking
