import Chunking.Proofs.Overlaps

/-!
# Neighbours

No two neighbours could have been one chunk, whatever packing, repacking and overlap did to
them.  So a text that fits is one chunk, unless a part of it stands alone.
-/

namespace Chunking.Policy

variable {policy : Policy} {cascade : Cascade} {text : Text} {chunks : List Chunk}

theorem Arranged.joinable {limit : Nat} {lent : Text} {leaves : List Leaf}
    (h : Arranged policy limit lent leaves chunks)
    (hleaves : ∀ leaf ∈ leaves, policy.isStandalone leaf.toPiece = false) :
    ∀ chunk ∈ chunks, policy.isStandalone chunk.toPiece = false := by
  induction h with
  | nil => exact fun _ hmem => absurd hmem List.not_mem_nil
  | joined _ joins _ ih =>
      rw [List.forall_mem_append] at hleaves
      exact List.forall_mem_cons.2 ⟨joins.joinable, ih hleaves.2⟩
  | @standalone _ leaf _ _ _ cuts _ _ =>
      have halone := cuts.alone
      rw [hleaves leaf List.mem_cons_self] at halone
      cases halone

/-! ## Texts that fit -/

section Fits

variable {boundary : Boundary} {finer : List Boundary}

theorem isLeaf_of_mem_divide (closed : (boundary.divide text).unclosed = none)
    (fits : text.length ≤ policy.budget.maxSize) :
    ∀ piece ∈ (boundary.divide text).pieces, policy.isLeaf piece = true := by
  intro piece hpiece
  have hlength : piece.length ≤ text.length := by
    obtain ⟨before, after, hpieces⟩ := List.append_of_mem hpiece
    have hjoined := congrArg List.length (Boundary.joined_divide closed)
    rw [Division.joined, hpieces, List.flatMap_append, List.flatMap_cons, List.length_append,
      List.length_append] at hjoined
    unfold Piece.length
    omega
  have hfits : policy.budget.fits piece.length = true :=
    Budget.fits_iff.2 (Nat.le_trans hlength fits)
  simp [isLeaf, hfits]

/-- Below the first boundary nothing of a text that fits is looked at. -/
theorem exists_chunk_iff_closed (boundaries_eq : cascade.boundaries = boundary :: finer)
    (fits : text.length ≤ policy.budget.maxSize) :
    (∃ chunks, policy.chunk cascade text = .ok chunks) ↔
      (boundary.divide text).unclosed = none := by
  rw [exists_chunk_eq_ok_iff, boundaries_eq, firstUnclosed, Option.or_eq_none_iff,
    and_iff_left_iff_imp, firstStop, List.findSome?_eq_none_iff]
  intro closed piece hpiece
  rw [if_pos (isLeaf_of_mem_divide closed fits piece hpiece)]

theorem joinable_of_fits (boundaries_eq : cascade.boundaries = boundary :: finer)
    (fits : text.length ≤ policy.budget.maxSize)
    (joinable : ∀ piece ∈ (boundary.divide text).pieces, policy.isStandalone piece = false)
    (h : policy.chunk cascade text = .ok chunks) :
    ∀ chunk ∈ chunks, policy.isStandalone chunk.toPiece = false := by
  have closed := (exists_chunk_iff_closed boundaries_eq fits).1 ⟨chunks, h⟩
  refine (arranged_of_chunk h).joinable fun leaf hleaf => ?_
  have hleaf := (List.mem_filter.1 hleaf).1
  rw [boundaries_eq, leaves, List.mem_flatMap] at hleaf
  obtain ⟨piece, hpiece, hleaf⟩ := hleaf
  rw [leavesOf, if_pos (isLeaf_of_mem_divide closed fits piece hpiece), List.mem_singleton] at hleaf
  rw [hleaf]
  exact joinable piece hpiece

end Fits

/-! ## All texts -/

theorem exists_full_layout_of_chunk (h : policy.chunk cascade text = .ok chunks) :
    ∃ layout : Layout policy text 0 0 chunks, ∀ i (hi : i < chunks.length)
      (hnext : i + 1 < chunks.length), policy.isStandalone chunks[i].toPiece = false →
      policy.isStandalone chunks[i + 1].toPiece = false →
      policy.budget.maxSize + layout.cut (i + 1) < chunks[i].length + layout.cut (i + 1 + 1) ∧
        layout.cut (i + 1 + 1) ≤ layout.cut (i + 1) + chunks[i + 1].length := by
  obtain ⟨layout, hlayout⟩ := exists_seamed_layout_of_chunk h
  refine ⟨layout, fun i hi hnext hbefore hchunk => ?_⟩
  obtain ⟨own, htext, -, -, hseam⟩ := hlayout (i + 1) hnext hchunk
  rw [lender?_succ_of_joinable hi hbefore] at hseam
  have hplace := layout.length_drop_overlap hnext
  have hlength : own.length = (chunks[i + 1].text.drop (layout.overlap (i + 1))).length :=
    congrArg List.length htext
  have hfull := hseam.full
  have hown := hseam.own_le
  rw [← hlength] at hplace
  omega

/--
Two neighbours that may be joined are together longer than the size limit, whatever the overlap.
So a text within the limit that does not begin with parts that stand alone is a single chunk.
-/
theorem chunk_leaves_no_room (policy : Policy) (cascade : Cascade) (text : Text) :
    (∀ chunks, policy.chunk cascade text = .ok chunks → ∀ i (hi : i < chunks.length)
      (hnext : i + 1 < chunks.length), policy.isStandalone chunks[i].toPiece = false →
      policy.isStandalone chunks[i + 1].toPiece = false →
      policy.budget.maxSize < chunks[i].length + chunks[i + 1].length) ∧
    ∀ boundary finer, cascade.boundaries = boundary :: finer →
      text ≠ [] → text.length ≤ policy.budget.maxSize →
      (∀ piece ∈ (boundary.divide text).pieces, policy.isStandalone piece = false) →
      ((∃ chunks, policy.chunk cascade text = .ok chunks) ↔
        (boundary.divide text).unclosed = none) ∧
      ∀ chunks, policy.chunk cascade text = .ok chunks →
        ∃ chunk, chunks = [chunk] ∧ chunk.text = text := by
  constructor
  · intro chunks h i hi hnext hbefore hchunk
    obtain ⟨layout, hfull⟩ := exists_full_layout_of_chunk h
    have hroom := hfull i hi hnext hbefore hchunk
    omega
  · intro boundary finer boundaries_eq ne_nil fits joinable
    refine ⟨exists_chunk_iff_closed boundaries_eq fits, fun chunks h => ?_⟩
    have hjoinable := joinable_of_fits boundaries_eq fits joinable h
    obtain ⟨layout, hfull⟩ := exists_full_layout_of_chunk h
    match chunks with
    | [] =>
        have hlength : 0 = text.length := layout.cut_zero.symm.trans layout.cut_length
        exact absurd (List.eq_nil_of_length_eq_zero hlength.symm) ne_nil
    | [chunk] =>
        have htext : chunk.text = text.extract (layout.cut 0 - layout.overlap 0) (layout.cut 1) :=
          layout.text_eq 0 Nat.one_pos
        have hlast : layout.cut 1 = text.length := layout.cut_length
        rw [layout.cut_zero, hlast, Nat.zero_sub, List.extract_eq_take_drop, List.drop_zero,
          Nat.sub_zero, List.take_length] at htext
        exact ⟨chunk, rfl, htext⟩
    | first :: second :: rest =>
        -- The first two chunks are a part of the text, so there was room for both.
        have hroom : policy.budget.maxSize + layout.cut (0 + 1) <
            first.text.length + layout.cut (0 + 1 + 1) :=
          (hfull 0 (Nat.succ_pos _) (Nat.succ_lt_succ (Nat.succ_pos _)) (hjoinable _ (by simp))
            (hjoinable _ (by simp))).1
        have hfirst : layout.cut 0 + (first.text.drop (layout.overlap 0)).length =
            layout.cut (0 + 1) := layout.length_drop_overlap (Nat.succ_pos _)
        have hle : layout.cut (0 + 1 + 1) ≤ text.length :=
          layout.cut_le_length (Nat.succ_le_succ (Nat.succ_le_succ (Nat.zero_le _)))
        rw [Nat.le_zero.1 layout.overlap_zero, List.drop_zero, layout.cut_zero] at hfirst
        omega

theorem chunk_leaves_no_room_blockAmongWords :
    ∃ chunks, fencedWords.policy.chunk fencedWords.cascade blockAmongWords = .ok chunks ∧
      1 < chunks.length ∧
      (∀ i (hi : i < chunks.length) (hnext : i + 1 < chunks.length),
        fencedWords.policy.isStandalone chunks[i].toPiece = false →
        fencedWords.policy.isStandalone chunks[i + 1].toPiece = false →
        fencedWords.policy.budget.maxSize < chunks[i].length + chunks[i + 1].length) ∧
      ∃ chunk, fencedWords.policy.chunk fencedWords.cascade (blockAmongWords.take 5) =
        .ok [chunk] ∧ chunk.text = blockAmongWords.take 5 := by
  obtain ⟨chunks, hchunks, htexts⟩ := exists_chunk_blockAmongWords
  have hlength := congrArg List.length htexts
  rw [List.length_map] at hlength
  refine ⟨chunks, hchunks, by rw [hlength]; decide,
    (chunk_leaves_no_room fencedWords.policy fencedWords.cascade blockAmongWords).1 chunks hchunks,
    ?_⟩
  obtain ⟨hcloses, hsingle⟩ := (chunk_leaves_no_room fencedWords.policy fencedWords.cascade
    (blockAmongWords.take 5)).2 .fence [.word, .character] rfl (by decide) (by decide)
    (by decide +kernel)
  obtain ⟨own, hown⟩ := hcloses.2 (by decide +kernel)
  obtain ⟨chunk, rfl, htext⟩ := hsingle own hown
  exact ⟨chunk, hown, htext⟩

end Chunking.Policy
