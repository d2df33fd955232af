import Chunking.Proofs.Coverage
import Chunking.Proofs.Sewing

/-!
# Overlaps

What a finished chunk borrows is the last part of the chunk before it, as that would be chunked
on its own under the overlap limit.  It borrows nothing only where that part would not fit.
-/

namespace Chunking

open Chunking.Chunk (SameButNumbers)

def Budget.window (budget : Budget) (overlap_pos : 0 < budget.maxOverlap) : Budget :=
  budget.window?.get (Option.isSome_iff_exists.2 (exists_window overlap_pos))

theorem Budget.window_eq_some {budget : Budget} (overlap_pos : 0 < budget.maxOverlap) :
    budget.window? = some (budget.window overlap_pos) :=
  (Option.some_get _).symm

namespace Policy

variable {policy : Policy} {cascade : Cascade}

/--
How a finished chunk with a piece of its own follows the chunk that may lend to it.  The chunk
before has no room for that piece.  Behind borrowed text, the chunk says what its own piece says
and either the borrowed part or, where that part says nothing, the chunk before.
-/
inductive Seam (policy : Policy) (cascade : Cascade) (own : Piece) : Option Chunk → Chunk → Prop
  | opening {chunk} (text_eq : chunk.text = own.text)
      (get?_eq : ∀ key, Metadata.IsSourceKey key → chunk.get? key = own.get? key) :
      Seam policy cascade own none chunk
  | bare {before chunk} (full : policy.budget.maxSize < before.length + own.length)
      (refused : 0 < policy.budget.maxOverlap →
        policy.budget.maxSize < policy.budget.maxOverlap + own.length)
      (text_eq : chunk.text = own.text)
      (get?_eq : ∀ key, Metadata.IsSourceKey key → chunk.get? key = own.get? key) :
      Seam policy cascade own (some before) chunk
  | behind {before chunk donor} (full : policy.budget.maxSize < before.length + own.length)
      (overlap_pos : 0 < policy.budget.maxOverlap)
      (long : policy.budget.maxOverlap < before.length)
      (last : (policy.within (policy.budget.window overlap_pos)).lastPart? cascade before.text =
        some donor)
      (ne_nil : donor.text ≠ []) (suffix : donor.text <:+ before.text)
      (le : donor.length ≤ policy.budget.maxOverlap)
      (text_eq : chunk.text = donor.text ++ own.text)
      (get?_iff : ∀ key, Metadata.IsSourceKey key → ∀ value, chunk.get? key = some value ↔
        (donor.get? key).or (before.get? key) = some value ∧ own.get? key = some value) :
      Seam policy cascade own (some before) chunk

namespace Seam

variable {own : Piece} {chunk other : Chunk} {before behind : Option Chunk}

theorem renumber (h : policy.Seam cascade own before chunk)
    (hbefore : Option.Rel SameButNumbers before behind) (hchunk : chunk.SameButNumbers other) :
    policy.Seam cascade own behind other := by
  cases h with
  | opening text_eq get?_eq =>
      cases hbefore
      exact .opening (hchunk.text_eq.trans text_eq) fun key hkey =>
        (hchunk.get?_eq key hkey).trans (get?_eq key hkey)
  | bare full refused text_eq get?_eq =>
      cases hbefore with
      | some hbefore =>
          rw [Piece.length, ← hbefore.text_eq] at full
          exact .bare full refused (hchunk.text_eq.trans text_eq) fun key hkey =>
            (hchunk.get?_eq key hkey).trans (get?_eq key hkey)
  | behind full overlap_pos long last ne_nil suffix le text_eq get?_iff =>
      cases hbefore with
      | some hbefore =>
          rw [Piece.length, ← hbefore.text_eq] at full long
          rw [← hbefore.text_eq] at last suffix
          refine .behind full overlap_pos long last ne_nil suffix le
            (hchunk.text_eq.trans text_eq) fun key hkey value => ?_
          rw [hchunk.get?_eq key hkey, hbefore.get?_eq key hkey]
          exact get?_iff key hkey value

theorem full {before : Chunk} (h : policy.Seam cascade own (some before) chunk) :
    policy.budget.maxSize < before.length + own.length := by
  cases h with
  | bare full => exact full
  | behind full => exact full

theorem own_le (h : policy.Seam cascade own before chunk) : own.length ≤ chunk.length := by
  cases h with
  | opening text_eq => exact Nat.le_of_eq (congrArg List.length text_eq.symm)
  | bare _ _ text_eq => exact Nat.le_of_eq (congrArg List.length text_eq.symm)
  | behind _ _ _ _ _ _ _ text_eq =>
      rw [Piece.length, Piece.length, text_eq, List.length_append]
      exact Nat.le_add_left _ _

end Seam

theorem Continues.seam {first chunk : Chunk} {own : Piece} {before : Option Chunk}
    (h : policy.Continues (policy.lend cascade.boundaries) first own before chunk.toPiece)
    (first_le : first.length ≤ own.length) (ne_nil : own.text ≠ [])
    (before_ne_nil : ∀ chunk, before = some chunk → chunk.text ≠ []) :
    policy.Seam cascade own before chunk := by
  have hsame : chunk.toPiece = own → ∀ key, Metadata.IsSourceKey key →
      chunk.get? key = own.get? key := fun heq key _ => congrArg (Piece.get? · key) heq
  generalize hpiece : chunk.toPiece = piece at h
  cases h with
  | opening => exact .opening (congrArg Piece.text hpiece) (hsame hpiece)
  | @bare before lent next last full lends refused =>
      rw [Budget.hasRoom_eq_false_iff] at full
      refine .bare (by omega) (fun overlap_pos => ?_) (congrArg Piece.text hpiece)
        (hsame hpiece)
      obtain ⟨donor, final, hlend, hdonor, -, hle⟩ :=
        exists_lent cascade.ends overlap_pos (before_ne_nil before rfl) next
      rw [lends] at hlend
      cases hlend
      have hfull := Budget.hasRoom_eq_false_iff.1 (refused donor rfl hdonor hle)
      omega
  | @behind before donor next last full lends hdonor le room =>
      rw [Budget.hasRoom_eq_false_iff] at full
      rw [Budget.hasRoom_iff] at room
      have overlap_pos : 0 < policy.budget.maxOverlap :=
        Nat.lt_of_lt_of_le (List.length_pos_iff.2 hdonor) le
      have window_eq := Budget.window_eq_some overlap_pos
      -- The chunk before does not fit with the group, so what was lent is not all of it.
      obtain ⟨long, part, hpart, hinherits⟩ :=
        lastPart?_of_lend window_eq (by omega : donor.length < before.length) lends
      have hlength : part.length = donor.length := congrArg List.length hinherits.text_eq
      refine .behind (by omega) overlap_pos long hpart ?_ ?_ ?_ ?_ fun key hkey value => ?_
      · rwa [hinherits.text_eq]
      · rw [hinherits.text_eq]
        exact (lends_lend cascade.ends _ _ _ _ lends le).1
      · rwa [hlength]
      · rw [hpiece, hinherits.text_eq]
        rfl
      · have hdonor_eq : (part.get? key).or (before.get? key) = donor.get? key :=
          (hinherits.get?_eq key hkey).symm
        have hjoined : chunk.get? key = (donor.toPiece.join own).get? key :=
          congrArg (Piece.get? · key) hpiece
        rw [hdonor_eq, hjoined]
        exact Piece.get?_join_of_text hdonor ne_nil

/-! ## Finished chunks -/

variable {text : Text} {chunks : List Chunk}

theorem isStandalone_stamp (chunk : Chunk) (index : Nat) :
    policy.isStandalone (chunk.stamp index).toPiece = policy.isStandalone chunk.toPiece :=
  isStandalone_congr (get?_stamp chunk index (by decide) (by decide))

theorem length_stampAll (chunks : List Chunk) : (stampAll chunks).length = chunks.length :=
  List.length_mapIdx

theorem lt_of_lt_length_stampAll {chunks : List Chunk} {i : Nat}
    (h : i < (stampAll chunks).length) : i < chunks.length := by
  rwa [length_stampAll] at h

theorem getElem_stampAll {chunks : List Chunk} {i : Nat} (h : i < (stampAll chunks).length) :
    (stampAll chunks)[i] = (chunks.get ⟨i, lt_of_lt_length_stampAll h⟩).stamp i :=
  List.getElem_mapIdx

theorem lender?_stampAll (chunks : List Chunk) (i : Nat) :
    Option.Rel SameButNumbers (policy.lender? none chunks i)
      (policy.lender? none (stampAll chunks) i) := by
  cases i with
  | zero => exact .none
  | succ i =>
      rw [lender?_succ, lender?_succ, stampAll, List.getElem?_mapIdx]
      cases chunks[i]? with
      | none => exact .none
      | some chunk =>
          rw [Option.map_some, Option.filter_some, Option.filter_some, isStandalone_stamp]
          split
          · exact .some (Chunk.sameButNumbers_stamp chunk i)
          · exact .none

end Policy

def Layout.stamp {policy : Policy} {text : Text} {start reach : Nat} {chunks : List Chunk}
    (layout : Layout policy text start reach chunks) :
    Layout policy text start reach (Policy.stampAll chunks) where
  cut := layout.cut
  overlap := layout.overlap
  cut_zero := layout.cut_zero
  cut_length := by
    rw [Policy.length_stampAll]
    exact layout.cut_length
  cut_lt i hi := layout.cut_lt i (Policy.lt_of_lt_length_stampAll hi)
  text_eq i hi := by
    rw [Policy.getElem_stampAll hi]
    exact layout.text_eq i _
  overlap_zero := layout.overlap_zero
  overlap_le_cut i hi := layout.overlap_le_cut i (Policy.lt_of_lt_length_stampAll hi)
  overlap_le_limit i hi := layout.overlap_le_limit i (Policy.lt_of_lt_length_stampAll hi)
  overlap_le_before i hi := by
    rw [Policy.getElem_stampAll]
    exact layout.overlap_le_before i (Policy.lt_of_lt_length_stampAll hi)
  overlap_standalone i hi alone := by
    rw [Policy.getElem_stampAll hi, Policy.isStandalone_stamp] at alone
    exact layout.overlap_standalone i _ alone
  overlap_after_standalone i hi alone := by
    rw [Policy.getElem_stampAll, Policy.isStandalone_stamp] at alone
    exact layout.overlap_after_standalone i (Policy.lt_of_lt_length_stampAll hi) alone

theorem Layout.Confined.stamp {policy : Policy} {text : Text} {start reach : Nat}
    {chunks : List Chunk} {loose : Nat → Prop} {layout : Layout policy text start reach chunks}
    (h : layout.Confined loose) : layout.stamp.Confined loose :=
  fun i hi => h i (Policy.lt_of_lt_length_stampAll hi)

namespace Policy

variable {policy : Policy} {cascade : Cascade} {text : Text} {chunks : List Chunk}

/--
The places of finished chunks, and the seams at which they follow one another.  What a chunk
repeats was added by the one before it, unless it opens where a piece was divided.
-/
theorem exists_confined_layout_of_chunk (h : policy.chunk cascade text = .ok chunks) :
    ∃ layout : Layout policy text 0 0 chunks,
      layout.Confined (policy.DividesAt cascade.boundaries text) ∧
      ∀ i (hi : i < chunks.length), policy.isStandalone chunks[i].toPiece = false →
        ∃ own : Piece, own.text = chunks[i].text.drop (layout.overlap i) ∧ own.text ≠ [] ∧
          TellsOf (policy.leaves cascade.boundaries text) (layout.cut i) (layout.cut (i + 1)) 0
            own ∧
          policy.Seam cascade own (policy.lender? none chunks i) chunks[i] := by
  have hjoined := joined_leaves_of_chunk h
  rcases chunk_eq_ok h with ⟨rfl, rfl⟩ | ⟨assembled, last, hassemble, rfl⟩
  · exact ⟨.nil, fun i hi => absurd hi (Nat.not_lt_zero (i + 1)),
      fun i hi => absurd hi (Nat.not_lt_zero i)⟩
  · have hsewn := sewn_of_assemble cascade.ends hassemble
    have hlayout := hsewn.exists_layout (lends_lend cascade.ends) List.nil_suffix
    rw [Leaf.joined_withText, hjoined] at hlayout
    obtain ⟨layout, -, hconfined, hchunks⟩ := hlayout
    refine ⟨layout.stamp, hconfined.stamp, fun i hi joinable => ?_⟩
    rw [getElem_stampAll, isStandalone_stamp] at joinable
    obtain ⟨first, own, htext, ne_nil, first_le, htells, hcontinues⟩ :=
      hchunks i (lt_of_lt_length_stampAll hi) joinable
    have hseam := hcontinues.seam first_le ne_nil fun chunk hchunk =>
      hsewn.ne_nil_of_mem chunk (mem_of_lender? hchunk)
    rw [getElem_stampAll]
    exact ⟨own, htext, ne_nil, htells.of_withText,
      hseam.renumber (lender?_stampAll assembled i) (Chunk.sameButNumbers_stamp _ i)⟩

theorem exists_seamed_layout_of_chunk (h : policy.chunk cascade text = .ok chunks) :
    ∃ layout : Layout policy text 0 0 chunks,
      ∀ i (hi : i < chunks.length), policy.isStandalone chunks[i].toPiece = false →
        ∃ own : Piece, own.text = chunks[i].text.drop (layout.overlap i) ∧ own.text ≠ [] ∧
          TellsOf (policy.leaves cascade.boundaries text) (layout.cut i) (layout.cut (i + 1)) 0
            own ∧
          policy.Seam cascade own (policy.lender? none chunks i) chunks[i] := by
  obtain ⟨layout, -, hseams⟩ := exists_confined_layout_of_chunk h
  exact ⟨layout, hseams⟩

/--
Where two neighbours may be joined, what the second repeats is the last part of the first one's
text, as chunked on its own under the overlap limit and without overlap.  It repeats nothing only
where that limit and its length together are beyond the size limit.
-/
def BorrowsLastPart (cascade : Cascade) (overlap_pos : 0 < policy.budget.maxOverlap)
    (layout : Layout policy text 0 0 chunks) : Prop :=
  ∀ i (hi : i < chunks.length) (hnext : i + 1 < chunks.length),
    policy.isStandalone chunks[i].toPiece = false →
    policy.isStandalone chunks[i + 1].toPiece = false →
    ∃ donor borrowed,
      (policy.within (policy.budget.window overlap_pos)).lastPart? cascade chunks[i].text =
        some donor ∧
      borrowed = chunks[i + 1].text.take (layout.overlap (i + 1)) ∧
      (borrowed = donor.text ∧ policy.budget.maxOverlap < chunks[i].length ∨ borrowed = []) ∧
      (borrowed = [] →
        policy.budget.maxSize - policy.budget.maxOverlap < chunks[i + 1].length) ∧
      (chunks[i + 1].length ≤ policy.budget.maxSize - policy.budget.maxOverlap →
        borrowed ≠ [] ∧ borrowed <:+ chunks[i].text ∧
          borrowed.length ≤ policy.budget.maxOverlap)

theorem chunk_borrows_last_part (overlap_pos : 0 < policy.budget.maxOverlap)
    (h : policy.chunk cascade text = .ok chunks) :
    ∃ layout : Layout policy text 0 0 chunks, BorrowsLastPart cascade overlap_pos layout := by
  obtain ⟨layout, hlayout⟩ := exists_seamed_layout_of_chunk h
  refine ⟨layout, fun i hi hnext hbefore hchunk => ?_⟩
  obtain ⟨own, htext, hown, -, hseam⟩ := hlayout (i + 1) hnext hchunk
  rw [lender?_succ_of_joinable hi hbefore] at hseam
  have hpos := List.length_pos_iff.2 hown
  have hlength := congrArg List.length htext
  rw [List.length_drop] at hlength
  generalize chunks[i + 1] = chunk at hseam htext hlength ⊢
  generalize hrepeated : layout.overlap (i + 1) = repeated at htext hlength ⊢
  cases hseam with
  | bare _ refused text_eq =>
      obtain ⟨donor, hdonor⟩ := exists_lastPart?
        (policy.within (policy.budget.window overlap_pos)) cascade
        (ne_nil_of_mem_chunk h (List.getElem_mem hi))
      have hsize := refused overlap_pos
      have hlimits := policy.budget.overlap_le
      have hsame : chunk.length = own.length := congrArg List.length text_eq
      have hnothing : repeated = 0 := by
        rw [text_eq] at hlength
        omega
      refine ⟨donor, [], hdonor, ?_, .inr rfl, fun _ => by omega, fun hroom => by omega⟩
      rw [hnothing, List.take_zero]
  | @behind _ _ donor _ _ long last ne_nil suffix le text_eq =>
      have hdonor : repeated = donor.text.length := by
        rw [text_eq, List.length_append] at hlength
        omega
      refine ⟨donor, donor.text, last, ?_, .inl ⟨rfl, long⟩, fun hnil => absurd hnil ne_nil,
        fun _ => ⟨ne_nil, suffix, le⟩⟩
      rw [text_eq, hdonor, List.take_left]

/-- The second chunk repeats the word at the end of the first. -/
theorem chunk_borrows_last_part_blockAmongWords :
    ∃ overlap_pos : 0 < fencedWords.policy.budget.maxOverlap, ∃ chunks,
      fencedWords.policy.chunk fencedWords.cascade blockAmongWords = .ok chunks ∧
      ∃ layout : Layout fencedWords.policy blockAmongWords 0 0 chunks,
        BorrowsLastPart fencedWords.cascade overlap_pos layout := by
  have overlap_pos : 0 < fencedWords.policy.budget.maxOverlap := by decide
  obtain ⟨chunks, hchunks, -⟩ := exists_chunk_blockAmongWords
  exact ⟨overlap_pos, chunks, hchunks, chunk_borrows_last_part overlap_pos hchunks⟩

end Policy

end Chunking
