import Mathlib.Data.List.Perm.Subperm
import Chunking.Proofs.Overlaps

/-!
# Reach

How far back chunks reach.  What a chunk repeats was added by the chunk before it, so that a
character is in at most two chunks.  The exception is a chunk that opens where a piece of the
first level was divided: what waits in front of such a piece is flushed even if there is room
for the first part of it, and then the end of the chunk before, which the next one repeats, may
itself be repeated.
-/

namespace Chunking

namespace Layout

variable {policy : Policy} {text : Text} {start reach place : Nat} {chunks : List Chunk}

/-! ## What is repeated -/

theorem take_overlap_suffix (layout : Layout policy text start reach chunks) {i first : Nat}
    (h : i < chunks.length) (le : first ≤ layout.cut i - layout.overlap i) :
    chunks[i].text.take (layout.overlap i) <:+ text.extract first (layout.cut i) := by
  have hcut := layout.overlap_le_cut i h
  have hlt := layout.cut_lt i h
  have htake : chunks[i].text.take (layout.overlap i) =
      text.extract (layout.cut i - layout.overlap i) (layout.cut i) := by
    rw [layout.text_eq i h, List.extract_eq_take_drop, List.extract_eq_take_drop, List.take_take]
    congr 1
    omega
  rw [htake, List.extract_eq_take_drop, List.extract_eq_take_drop, ← List.drop_take,
    ← List.drop_take]
  exact List.drop_suffix_drop_left _ le

theorem take_overlap_suffix_before (layout : Layout policy text start reach chunks) {i : Nat}
    (h : i < chunks.length) (next : i + 1 < chunks.length) :
    chunks[i + 1].text.take (layout.overlap (i + 1)) <:+ chunks[i].text := by
  have hlt := layout.cut_lt i h
  have hle := layout.overlap_le_before i next
  have hlength : chunks[i].length = layout.cut (i + 1) - (layout.cut i - layout.overlap i) := by
    have hlast := layout.cut_le_length (Nat.le_of_lt next)
    rw [Piece.length, layout.text_eq i h, List.extract_eq_take_drop, List.length_take,
      List.length_drop]
    omega
  rw [layout.text_eq i h]
  exact layout.take_overlap_suffix next (by omega)

/-! ## Who has a character -/

/-- The chunks that have the character at a place of the text. -/
def holders (layout : Layout policy text start reach chunks) (place : Nat) : List Nat :=
  (List.range chunks.length).filter fun i =>
    layout.cut i - layout.overlap i ≤ place ∧ place < layout.cut (i + 1)

theorem mem_holders {layout : Layout policy text start reach chunks} {i : Nat} :
    i ∈ layout.holders place ↔
      i < chunks.length ∧ layout.cut i - layout.overlap i ≤ place ∧ place < layout.cut (i + 1) := by
  simp [holders]

theorem length_holders_le {layout : Layout policy text start reach chunks} {first count : Nat}
    (h : ∀ i ∈ layout.holders place, first ≤ i ∧ i < first + count) :
    (layout.holders place).length ≤ count := by
  have hnodup : (layout.holders place).Nodup := List.nodup_range.filter _
  have hsubset : layout.holders place ⊆ List.range' first count := fun i hi =>
    List.mem_range'_1.2 (h i hi)
  have hle := (List.subperm_of_subset hnodup hsubset).length_le
  rwa [List.length_range'] at hle

theorem exists_adds (layout : Layout policy text 0 reach chunks) (h : place < text.length) :
    ∃ i ∈ layout.holders place, layout.cut i ≤ place := by
  have hbelow : ∀ count ≤ chunks.length, place < layout.cut count →
      ∃ i ∈ layout.holders place, layout.cut i ≤ place := by
    intro count hcount hplace
    induction count with
    | zero =>
        rw [layout.cut_zero] at hplace
        exact absurd hplace (Nat.not_lt_zero place)
    | succ count ih =>
        by_cases hcut : layout.cut count ≤ place
        · exact ⟨count, mem_holders.2 ⟨hcount, Nat.le_trans (Nat.sub_le _ _) hcut, hplace⟩, hcut⟩
        · exact ih (Nat.le_of_succ_le hcount) (Nat.not_le.1 hcut)
  rw [← layout.cut_length] at h
  exact hbelow chunks.length (Nat.le_refl _) h

section Holders

variable {layout : Layout policy text start reach chunks} {i k : Nat}

theorem holders_near (adds : layout.cut i ≤ place) (hi : i ∈ layout.holders place)
    (hk : k ∈ layout.holders place) : i ≤ k ∧ k ≤ i + policy.budget.maxOverlap := by
  obtain ⟨hilt, -, hinext⟩ := mem_holders.1 hi
  obtain ⟨hklt, hkfrom, hknext⟩ := mem_holders.1 hk
  constructor
  · refine Nat.not_lt.1 fun hlt => ?_
    obtain ⟨count, rfl⟩ := Nat.exists_eq_add_of_lt hlt
    have hcut : layout.cut (k + 1) + count ≤ layout.cut (k + 1 + count) :=
      layout.cut_add_le (by omega)
    rw [Nat.add_right_comm k] at hcut
    omega
  · have hlimit := layout.overlap_le_limit k hklt
    refine Nat.not_lt.1 fun hlt => ?_
    obtain ⟨count, rfl⟩ := Nat.exists_eq_add_of_lt (Nat.lt_of_le_of_lt (Nat.le_add_right i _) hlt)
    have hcut : layout.cut (i + 1) + count ≤ layout.cut (i + 1 + count) :=
      layout.cut_add_le (by omega)
    rw [Nat.add_right_comm i] at hcut
    omega

theorem Confined.holders_next {loose : Nat → Prop} (confined : layout.Confined loose)
    (hi : i ∈ layout.holders place) (hk : k ∈ layout.holders place) :
    k ≤ i + 1 ∨ loose (layout.cut k) := by
  obtain ⟨-, -, hinext⟩ := mem_holders.1 hi
  obtain ⟨hklt, hkfrom, -⟩ := mem_holders.1 hk
  refine (Nat.lt_or_ge (i + 1) k).symm.imp_right fun hlt => ?_
  obtain ⟨count, rfl⟩ := Nat.exists_eq_add_of_lt hlt
  have hcut : layout.cut (i + 1) + count ≤ layout.cut (i + 1 + count) :=
    layout.cut_add_le (by omega)
  refine (confined (i + 1 + count) hklt).resolve_left fun hle => ?_
  omega

end Holders

end Layout

namespace Policy

variable {policy : Policy} {cascade : Cascade} {text : Text} {chunks : List Chunk}

theorem Seam.take_eq {own : Piece} {before chunk : Chunk} {repeated : Nat}
    (h : policy.Seam cascade own (some before) chunk) (ne_nil : own.text ≠ [])
    (drop_eq : own.text = chunk.text.drop repeated) :
    chunk.text.take repeated = [] ∨
      ∃ overlap_pos donor, (policy.within (policy.budget.window overlap_pos)).lastPart? cascade
        before.text = some donor ∧ chunk.text.take repeated = donor.text := by
  have hpos := List.length_pos_iff.2 ne_nil
  have hlength := congrArg List.length drop_eq
  rw [List.length_drop] at hlength
  cases h with
  | bare _ _ text_eq =>
      left
      rw [text_eq] at hlength ⊢
      have hnothing : repeated = 0 := by omega
      rw [hnothing, List.take_zero]
  | @behind _ _ donor _ overlap_pos _ last _ _ _ text_eq =>
      right
      rw [text_eq, List.length_append] at hlength
      have hdonor : repeated = donor.text.length := by omega
      exact ⟨overlap_pos, donor, last, by rw [text_eq, hdonor, List.take_left]⟩

/--
What a chunk repeats is the last part of the chunk before it, and belongs to what that chunk adds
unless the chunk opens where a piece was divided.  A character is in the chunk that adds it and
in the next one, and beyond that only in chunks that open so.
-/
structure RepeatsWhatIsAdded (cascade : Cascade) (layout : Layout policy text 0 0 chunks) :
    Prop where
  borrowed : ∀ i (hi : i < chunks.length) (hnext : i + 1 < chunks.length), ∃ borrowed,
    borrowed = chunks[i + 1].text.take (layout.overlap (i + 1)) ∧
    borrowed <:+ chunks[i].text ∧ borrowed.length ≤ policy.budget.maxOverlap ∧
    (borrowed = [] ∨ ∃ overlap_pos donor,
      (policy.within (policy.budget.window overlap_pos)).lastPart? cascade chunks[i].text =
        some donor ∧ borrowed = donor.text) ∧
    (borrowed <:+ chunks[i].text.drop (layout.overlap i) ∨
      policy.DividesAt cascade.boundaries text (layout.cut (i + 1)))
  holders : ∀ place < text.length, ∃ i ∈ layout.holders place, layout.cut i ≤ place ∧
    (∀ k ∈ layout.holders place, i ≤ k ∧ k ≤ i + policy.budget.maxOverlap ∧
      (k ≤ i + 1 ∨ policy.DividesAt cascade.boundaries text (layout.cut k))) ∧
    ((∀ k ∈ layout.holders place, ¬ policy.DividesAt cascade.boundaries text (layout.cut k)) →
      (layout.holders place).length ≤ 2)

theorem chunk_repeats_what_is_added (h : policy.chunk cascade text = .ok chunks) :
    ∃ layout : Layout policy text 0 0 chunks, RepeatsWhatIsAdded cascade layout := by
  obtain ⟨layout, hconfined, hseams⟩ := exists_confined_layout_of_chunk h
  refine ⟨layout, fun i hi hnext => ⟨_, rfl, ?_, ?_, ?_, ?_⟩, fun place hplace => ?_⟩
  · exact layout.take_overlap_suffix_before hi hnext
  · exact Nat.le_trans (List.length_take_le _ _) (layout.overlap_le_limit _ hnext)
  · cases hbefore : policy.isStandalone chunks[i].toPiece with
    | true => exact .inl (by rw [layout.overlap_after_standalone i hnext hbefore, List.take_zero])
    | false =>
        cases hchunk : policy.isStandalone chunks[i + 1].toPiece with
        | true => exact .inl (by rw [layout.overlap_standalone _ hnext hchunk, List.take_zero])
        | false =>
            obtain ⟨own, htext, ne_nil, -, hseam⟩ := hseams (i + 1) hnext hchunk
            rw [lender?_succ_of_joinable hi hbefore] at hseam
            exact hseam.take_eq ne_nil htext
  · rw [layout.drop_overlap hi]
    exact (hconfined i hnext).imp_left fun hle => layout.take_overlap_suffix hnext (by omega)
  · obtain ⟨i, hi, adds⟩ := layout.exists_adds hplace
    have hnear : ∀ k ∈ layout.holders place, i ≤ k ∧ k ≤ i + policy.budget.maxOverlap :=
      fun k hk => Layout.holders_near adds hi hk
    refine ⟨i, hi, adds, fun k hk => ⟨(hnear k hk).1, (hnear k hk).2, hconfined.holders_next hi hk⟩,
      fun divides => Layout.length_holders_le fun k hk => ⟨(hnear k hk).1, ?_⟩⟩
    have hnext := (hconfined.holders_next hi hk).resolve_right (divides k hk)
    omega

theorem chunk_repeats_what_is_added_blockAmongWords :
    ∃ chunks, fencedWords.policy.chunk fencedWords.cascade blockAmongWords = .ok chunks ∧
      ∃ layout : Layout fencedWords.policy blockAmongWords 0 0 chunks,
        RepeatsWhatIsAdded fencedWords.cascade layout := by
  obtain ⟨chunks, hchunks, -⟩ := exists_chunk_blockAmongWords
  exact ⟨chunks, hchunks, chunk_repeats_what_is_added hchunks⟩

/-! ## Where a piece is divided -/

def sizeFour : Policy :=
  ⟨⟨4, 2, by decide, by decide⟩, [Metadata.codeBlockKind]⟩

/-- Five characters, and six more from the semicolon on. -/
def twoLongPieces : Text :=
  "12xBc; eeee".toList

/-- The pattern finds the `x` only where a text starts, as that of the second chunk does. -/
theorem exists_chunk_twoLongPieces :
    ∃ boundary chunks, Boundary.ofPattern "^x|;.*".toList = .ok boundary ∧
      sizeFour.chunk (.ofList [boundary, .word]) twoLongPieces = .ok chunks ∧
      chunks.map (·.text) =
        ["12xB".toList, "xBc".toList, "Bc; ".toList, "eeee".toList] := by
  have hrun : ((Boundary.ofPattern "^x|;.*".toList).toOption.bind fun boundary =>
      (sizeFour.chunk (.ofList [boundary, .word]) twoLongPieces).toOption.map (·.map (·.text))) =
        some ["12xB".toList, "xBc".toList, "Bc; ".toList, "eeee".toList] := by
    decide +kernel
  obtain ⟨boundary, hboundary, hchunks⟩ := Option.bind_eq_some_iff.1 hrun
  obtain ⟨chunks, hchunks, htexts⟩ := exists_of_toOption hchunks
  refine ⟨boundary, chunks, ?_, hchunks, htexts⟩
  cases hread : Boundary.ofPattern "^x|;.*".toList with
  | ok read =>
      rw [hread] at hboundary
      rw [Option.some.inj hboundary]
  | error fault =>
      rw [hread] at hboundary
      cases hboundary

/-- Where the second piece is divided, the third chunk repeats a letter that the second one
repeats, so that the letter is in three chunks. -/
theorem chunk_repeats_what_is_repeated :
    ∃ boundary chunks, Boundary.ofPattern "^x|;.*".toList = .ok boundary ∧
      sizeFour.chunk (.ofList [boundary, .word]) twoLongPieces = .ok chunks ∧
      twoLongPieces.count 'B' = 1 ∧ (chunks.map (·.text)).countP (·.contains 'B') = 3 ∧
      ¬ ∃ layout : Layout sizeFour twoLongPieces 0 0 chunks,
        ∀ i (hi : i < chunks.length) (hnext : i + 1 < chunks.length),
          chunks[i + 1].text.take (layout.overlap (i + 1)) <:+
            chunks[i].text.drop (layout.overlap i) := by
  obtain ⟨boundary, chunks, hboundary, hchunks, htexts⟩ := exists_chunk_twoLongPieces
  refine ⟨boundary, chunks, hboundary, hchunks, by decide, by rw [htexts]; decide, ?_⟩
  simp only [List.map_eq_cons_iff, List.map_eq_nil_iff] at htexts
  obtain ⟨first, _, rfl, hfirst, second, _, rfl, hsecond, third, _, rfl, hthird, fourth, _, rfl,
    -, rfl⟩ := htexts
  rintro ⟨layout, hrepeats⟩
  have hlt : ∀ i < 4, i < [first, second, third, fourth].length := fun _ hi => hi
  -- No stretch of the text is there twice, so the texts of the chunks say where they lie.
  have hplaces : ∀ start < 12, ∀ stop < 12,
      (twoLongPieces.extract start stop = "12xB".toList → stop = 4) ∧
      (twoLongPieces.extract start stop = "xBc".toList → start = 2 ∧ stop = 5) ∧
      (twoLongPieces.extract start stop = "Bc; ".toList → start = 3) := by
    decide +kernel
  have hcut : ∀ i ≤ 4, layout.cut i < 12 := fun i hi =>
    Nat.lt_succ_of_le (layout.cut_le_length hi)
  have hstart : ∀ i ≤ 4, layout.cut i - layout.overlap i < 12 := fun i hi =>
    Nat.lt_of_le_of_lt (Nat.sub_le _ _) (hcut i hi)
  obtain ⟨hplace, -⟩ := hplaces _ (hstart 0 (by decide)) _ (hcut 1 (by decide))
  have hfirst_end := hplace ((layout.text_eq 0 (hlt 0 (by decide))).symm.trans hfirst)
  obtain ⟨-, hplace, -⟩ := hplaces _ (hstart 1 (by decide)) _ (hcut 2 (by decide))
  have hsecond_place := hplace ((layout.text_eq 1 (hlt 1 (by decide))).symm.trans hsecond)
  obtain ⟨-, -, hplace⟩ := hplaces _ (hstart 2 (by decide)) _ (hcut 3 (by decide))
  have hthird_start := hplace ((layout.text_eq 2 (hlt 2 (by decide))).symm.trans hthird)
  have hsecond_overlap : layout.overlap 1 = 2 := by omega
  have hthird_overlap : layout.overlap 2 = 2 := by omega
  have hsuffix : third.text.take (layout.overlap 2) <:+ second.text.drop (layout.overlap 1) :=
    hrepeats 1 (hlt 1 (by decide)) (hlt 2 (by decide))
  rw [hsecond, hthird, hsecond_overlap, hthird_overlap] at hsuffix
  exact absurd hsuffix (by decide)

end Policy

end Chunking
