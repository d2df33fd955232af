import Chunking.Proofs.Isolation
import Chunking.Proofs.Overlaps
import Mathlib.Order.Interval.Finset.Nat

/-!
# Numbers

Every number is drawn once and goes to one chunk.  A pass hands chunks on or uses them up for
chunks with numbers drawn meanwhile; what was lent or joined never numbers a second chunk.
-/

namespace Chunking

/-! ## Numbers only grow -/

namespace Numbering

/-- Whatever the outcome, the number that comes next is not smaller than the first one. -/
def Advances (action : Numbering α) : Prop :=
  ∀ first, first ≤ (action.runFrom first).2

variable {action : Numbering α}

theorem Advances.le_of_ok (h : action.Advances) {value : α} {first last : Nat}
    (run : action first = .ok value last) : first ≤ last := by
  have hfirst := h first
  rw [runFrom, run] at hfirst
  exact hfirst

theorem Advances.le_of_error (h : action.Advances) {tag : UnclosedTag} {first last : Nat}
    (run : action first = .error tag last) : first ≤ last := by
  have hfirst := h first
  rw [runFrom, run] at hfirst
  exact hfirst

theorem advances_pure (value : α) : Advances (pure value) := fun first => Nat.le_refl first

theorem advances_draw : draw.Advances := fun first => Nat.le_succ first

theorem Advances.bind {later : α → Numbering β} (h : action.Advances)
    (hlater : ∀ value, (later value).Advances) : (action >>= later).Advances := by
  intro first
  unfold runFrom
  cases haction : action first with
  | ok value middle =>
      rw [bind_of_ok haction]
      exact Nat.le_trans (h.le_of_ok haction) (hlater value middle)
  | error tag last =>
      rw [bind_of_error haction]
      exact h.le_of_error haction

theorem Advances.bind_pure {f : α → β} (h : action.Advances) :
    Advances (action >>= fun value => pure (f value)) :=
  h.bind fun value => advances_pure (f value)

theorem Advances.tryCatch {instead : UnclosedTag → Numbering α} (h : action.Advances)
    (hinstead : ∀ tag, (instead tag).Advances) : Advances (tryCatch action instead) := by
  intro first
  unfold runFrom
  cases haction : action first with
  | ok value last =>
      rw [tryCatch_of_ok haction]
      exact h.le_of_ok haction
  | error tag middle =>
      rw [tryCatch_of_error haction]
      exact Nat.le_trans (h.le_of_error haction) (hinstead tag middle)

end Numbering

namespace Chunk

theorem advances_number (piece : Piece) : (number piece).Advances :=
  Numbering.advances_draw.bind_pure

theorem advances_joinAll (chunks : List Chunk) : (joinAll chunks).Advances := by
  match chunks with
  | [] => exact Numbering.advances_pure none
  | [chunk] => exact Numbering.advances_pure (some chunk)
  | first :: second :: rest => exact (advances_number _).bind_pure

theorem advances_numberSlices (metadata : Metadata) (previous : Option Nat)
    (slices : List Text) : (numberSlices metadata previous slices).Advances := by
  induction slices generalizing previous with
  | nil => exact Numbering.advances_pure []
  | cons slice rest ih =>
      unfold numberSlices
      exact (advances_number _).bind fun chunk => (ih (some chunk.id)).bind_pure

end Chunk

theorem Buffer.advances_flush (waiting : Buffer) : waiting.flush.Advances :=
  Chunk.advances_joinAll waiting.chunks

theorem Boundary.advances_split (boundary : Boundary) (text : Text) :
    (boundary.split text).Advances := by
  intro first
  unfold split Numbering.runFrom
  cases hunclosed : (boundary.divide text).unclosed with
  | none =>
      rw [Division.number_of_closed hunclosed]
      exact Nat.le_add_right _ _
  | some tag =>
      rw [Division.number_of_unclosed hunclosed]
      exact Nat.le_add_right _ _

namespace Policy

variable {policy : Policy}

theorem advances_cutStandalone (chunk : Chunk) : (policy.cutStandalone chunk).Advances := by
  unfold cutStandalone
  split
  · exact Numbering.advances_pure [chunk]
  · exact Chunk.advances_numberSlices _ _ _

theorem advances_withBorrowed (borrowed : Option Chunk) (chunk : Chunk) :
    (policy.withBorrowed borrowed chunk).Advances := by
  unfold withBorrowed
  split
  · exact Numbering.advances_pure chunk
  · split
    · exact Chunk.advances_number _
    · exact Numbering.advances_pure chunk

theorem advances_pack {descend : Chunk → Numbering (List Chunk)}
    (hdescend : ∀ piece, (descend piece).Advances) (waiting : Buffer) (pieces : List Chunk) :
    (policy.pack descend waiting pieces).Advances := by
  induction pieces generalizing waiting with
  | nil => exact waiting.advances_flush.bind_pure
  | cons piece pieces ih =>
      unfold pack
      split
      · refine waiting.advances_flush.bind fun packed => ?_
        exact (advances_cutStandalone piece).bind fun own => (ih .empty).bind_pure
      · split
        · exact ih _
        · refine waiting.advances_flush.bind fun packed => ?_
          split
          · exact (ih _).bind_pure
          · exact (hdescend piece).bind fun parts => (ih _).bind_pure

theorem advances_stitch {lend : Chunk → Numbering (Option Chunk)}
    (hlend : ∀ chunk, (lend chunk).Advances) (waiting : Buffer) (chunks : List Chunk) :
    (policy.stitch lend waiting chunks).Advances := by
  induction chunks generalizing waiting with
  | nil => exact waiting.advances_flush.bind_pure
  | cons chunk chunks ih =>
      unfold stitch
      split
      · exact waiting.advances_flush.bind fun packed => (ih .empty).bind_pure
      · split
        · refine waiting.advances_flush.bind fun packed => ?_
          exact (Chunk.advances_numberSlices _ _ _).bind fun parts => (ih _).bind_pure
        · split
          · exact ih _
          · refine waiting.advances_flush.bind fun packed => ?_
            cases packed with
            | none => exact ih _
            | some packed =>
                refine (hlend packed).bind fun borrowed => ?_
                exact (advances_withBorrowed borrowed chunk).bind fun next => (ih _).bind_pure

theorem advances_settle (boundaries : List Boundary) (piece : Piece) :
    (policy.settle boundaries piece).Advances := by
  induction boundaries generalizing piece with
  | nil =>
      unfold settle
      exact (Chunk.advances_number piece).bind fun chunk => Chunk.advances_numberSlices _ _ _
  | cons boundary finer ih =>
      unfold settle level repack
      refine (boundary.advances_split piece.text).bind fun pieces => ?_
      refine (advances_pack (fun part => ih part.toPiece) .empty pieces).bind fun packed => ?_
      exact (advances_stitch (fun _ => Numbering.advances_pure none) .empty packed).bind_pure

theorem advances_lend (boundaries : List Boundary) (chunk : Chunk) :
    (policy.lend boundaries chunk).Advances := by
  unfold lend
  split
  · exact Numbering.advances_pure none
  · unfold lendWithin
    split
    · exact Numbering.advances_pure none
    · split
      · exact Numbering.advances_pure (some chunk)
      · exact ((advances_settle _ _).tryCatch fun tag => advances_settle _ _).bind_pure

end Policy

/-! ## Chunks that are handed on -/

/--
Chunks that come out between two numbers: some of those that went in, as they are, and some that
are numbered in between.  No chunk comes out more often than it went in, and no number is used
for two of the others.
-/
structure Handed (first last : Nat) (chunks results : List Chunk) : Prop where
  le : first ≤ last
  exists_kept : ∃ kept made : Multiset Chunk, (results : Multiset Chunk) = kept + made ∧
    kept ≤ (chunks : Multiset Chunk) ∧ made.map Chunk.id ≤ Multiset.Ico first last

namespace Handed

variable {first second last : Nat} {chunks results more later : List Chunk}

theorem of_eq (chunks : List Chunk) (h : first ≤ last) : Handed first last chunks chunks :=
  ⟨h, chunks, 0, (add_zero _).symm, le_refl _, Multiset.zero_le _⟩

theorem of_numbered (h : first ≤ last)
    (numbered : (results.map Chunk.id : Multiset Nat) ≤ Multiset.Ico first last) :
    Handed first last chunks results :=
  ⟨h, 0, results, (zero_add _).symm, Multiset.zero_le _, numbered⟩

theorem of_number (chunks : List Chunk) (piece : Piece) :
    Handed first (first + 1) chunks [{ piece with id := first }] :=
  of_numbered (Nat.le_succ first) (by simp)

theorem of_nil (h : Handed first last [] results) (chunks : List Chunk) :
    Handed first last chunks results := by
  obtain ⟨kept, made, hresults, hkept, hmade⟩ := h.exists_kept
  exact ⟨h.le, kept, made, hresults, le_trans hkept (Multiset.zero_le _), hmade⟩

theorem append (h : Handed first second chunks results) (hmore : Handed second last more later) :
    Handed first last (chunks ++ more) (results ++ later) := by
  obtain ⟨kept, made, hresults, hkept, hmade⟩ := h.exists_kept
  obtain ⟨others, numbered, hlater, hothers, hnumbered⟩ := hmore.exists_kept
  refine ⟨Nat.le_trans h.le hmore.le, kept + others, made + numbered, ?_, ?_, ?_⟩
  · rw [← Multiset.coe_add, hresults, hlater, add_add_add_comm]
  · rw [← Multiset.coe_add]
    exact add_le_add hkept hothers
  · rw [Multiset.map_add, ← Multiset.Ico_add_Ico_eq_Ico h.le hmore.le]
    exact add_le_add hmade hnumbered

theorem trans (h : Handed first second chunks results) (hlater : Handed second last results later) :
    Handed first last chunks later := by
  obtain ⟨kept, made, hresults, hkept, hmade⟩ := h.exists_kept
  obtain ⟨others, numbered, hlater_eq, hothers, hnumbered⟩ := hlater.exists_kept
  have hle := Nat.le_trans h.le hlater.le
  rw [hresults] at hothers
  refine ⟨hle, others ∩ kept, (others - kept) + numbered, ?_, ?_, ?_⟩
  · rw [hlater_eq, ← add_assoc, add_comm (others ∩ kept), Multiset.sub_add_inter]
  · exact le_trans Multiset.inter_le_right hkept
  · rw [Multiset.map_add, ← Multiset.Ico_add_Ico_eq_Ico h.le hlater.le]
    have hrest : others - kept ≤ made := tsub_le_iff_left.2 hothers
    exact add_le_add (le_trans (Multiset.map_le_map hrest) hmade) hnumbered

theorem numbered (h : Handed first last [] results) :
    (results.map Chunk.id : Multiset Nat) ≤ Multiset.Ico first last := by
  obtain ⟨kept, made, hresults, hkept, hmade⟩ := h.exists_kept
  rw [Multiset.coe_nil, Multiset.le_zero] at hkept
  rw [hkept, zero_add] at hresults
  rwa [← Multiset.map_coe, hresults]

theorem mem_or_numbered (h : Handed first last chunks results) {chunk : Chunk}
    (mem : chunk ∈ results) : chunk ∈ chunks ∨ first ≤ chunk.id ∧ chunk.id < last := by
  obtain ⟨kept, made, hresults, hkept, hmade⟩ := h.exists_kept
  have hchunk : chunk ∈ kept + made := by
    rw [← hresults]
    exact mem
  refine (Multiset.mem_add.1 hchunk).imp (Multiset.mem_of_le hkept) fun hchunk => ?_
  exact Multiset.mem_Ico.1 (Multiset.mem_of_le hmade (Multiset.mem_map_of_mem Chunk.id hchunk))

theorem nodup (h : Handed first last chunks results) (nodup : (chunks.map Chunk.id).Nodup)
    (drawn : ∀ chunk ∈ chunks, chunk.id < first) : (results.map Chunk.id).Nodup := by
  obtain ⟨kept, made, hresults, hkept, hmade⟩ := h.exists_kept
  rw [← Multiset.coe_nodup, ← Multiset.map_coe, hresults, Multiset.map_add, Multiset.nodup_add]
  refine ⟨Multiset.nodup_of_le (Multiset.map_le_map hkept) (Multiset.coe_nodup.2 nodup),
    Multiset.nodup_of_le hmade (Multiset.nodup_Ico), ?_⟩
  rw [Multiset.disjoint_left]
  intro id hold hnew
  obtain ⟨chunk, hchunk, rfl⟩ := Multiset.mem_map.1 hold
  have hbefore := drawn chunk (Multiset.mem_of_le hkept hchunk)
  have hafter := Multiset.mem_Ico.1 (Multiset.mem_of_le hmade hnew)
  exact absurd hbefore (Nat.not_lt.2 hafter.1)

end Handed

theorem Buffer.handed_flush {waiting : Buffer} {packed : Option Chunk} {first last : Nat}
    (flush : waiting.flush first = .ok packed last) :
    Handed first last waiting.chunks packed.toList := by
  unfold Buffer.flush at flush
  generalize waiting.chunks = chunks at flush
  match chunks with
  | [] =>
      cases flush
      exact .of_eq [] (Nat.le_refl _)
  | [chunk] =>
      cases flush
      exact .of_eq [chunk] (Nat.le_refl _)
  | first :: second :: rest =>
      rw [Chunk.joinAll_cons_cons] at flush
      cases flush
      exact .of_number _ _

theorem Chunk.handed_numberSlices {metadata : Metadata} {previous : Option Nat}
    {slices : List Text} {chunks : List Chunk} {first last : Nat}
    (h : numberSlices metadata previous slices first = .ok chunks last) :
    Handed first last [] chunks := by
  induction slices generalizing previous chunks first with
  | nil =>
      cases h
      exact .of_eq [] (Nat.le_refl _)
  | cons slice rest ih =>
      obtain ⟨later, rfl, hlater⟩ := numberSlices_cons h
      exact (Handed.of_number [] ⟨slice, linkedTo metadata previous⟩).append (ih hlater)

theorem Chunk.handed_consecutive (first : Nat) (pieces : List Piece) :
    Handed first (first + pieces.length) [] (consecutive first pieces) := by
  induction pieces generalizing first with
  | nil => exact .of_eq [] (Nat.le_refl _)
  | cons piece rest ih =>
      have hall := (Handed.of_number [] piece).append (ih (first + 1))
      rwa [Nat.add_right_comm] at hall

theorem Boundary.handed_split {boundary : Boundary} {text : Text} {pieces : List Chunk}
    {first last : Nat} (h : boundary.split text first = .ok pieces last) :
    Handed first last [] pieces := by
  obtain ⟨hclosed, -⟩ := split_eq_ok h
  rw [split, Division.number_of_closed hclosed] at h
  cases h
  exact Chunk.handed_consecutive first _

/-! ## Passes -/

namespace Policy

variable {policy : Policy}

theorem handed_cutStandalone {chunk : Chunk} {own : List Chunk} {first last : Nat}
    (h : policy.cutStandalone chunk first = .ok own last) : Handed first last [chunk] own := by
  unfold cutStandalone at h
  split at h
  · cases h
    exact .of_eq [chunk] (Nat.le_refl _)
  · exact (Chunk.handed_numberSlices h).of_nil [chunk]

theorem handed_withBorrowed {borrowed : Option Chunk} {chunk next : Chunk} {first last : Nat}
    (h : policy.withBorrowed borrowed chunk first = .ok next last) :
    Handed first last [chunk] [next] := by
  unfold withBorrowed at h
  split at h
  · cases h
    exact .of_eq [chunk] (Nat.le_refl _)
  · split at h
    · rw [Chunk.join, Chunk.number_apply] at h
      cases h
      exact .of_number _ _
    · cases h
      exact .of_eq [chunk] (Nat.le_refl _)

theorem handed_reopen {chunk : Chunk} {parts chunks later : List Chunk} {first second last : Nat}
    (hparts : Handed first second [] parts)
    (hlater : Handed second last ((policy.reopen parts).2.chunks ++ chunks) later) :
    Handed first last (chunk :: chunks) ((policy.reopen parts).1 ++ later) := by
  have htaken : Handed first second (chunk :: chunks) (parts ++ chunks) :=
    (hparts.of_nil [chunk]).append (.of_eq chunks (Nat.le_refl second))
  have hdone : Handed second second (policy.reopen parts).1 (policy.reopen parts).1 :=
    .of_eq _ (Nat.le_refl second)
  refine htaken.trans ?_
  have hpass := hdone.append hlater
  rwa [← List.append_assoc, reopen_append] at hpass

theorem handed_of_packs {descend : Chunk → Numbering (List Chunk)}
    (hdescend : ∀ {piece parts first last}, descend piece first = .ok parts last →
      Handed first last [] parts)
    {waiting : Buffer} {pieces chunks : List Chunk} {first last : Nat}
    (run : Packs policy descend waiting pieces first chunks last) :
    Handed first last (waiting.chunks ++ pieces) chunks := by
  induction run with
  | nil flush =>
      rw [List.append_nil]
      exact Buffer.handed_flush flush
  | standalone _ flush cut _ ih =>
      rw [List.append_assoc]
      exact (Buffer.handed_flush flush).append ((handed_cutStandalone cut).append ih)
  | room _ _ _ ih =>
      rw [Buffer.chunks_push, List.append_assoc] at ih
      exact ih
  | start _ _ flush _ _ ih => exact (Buffer.handed_flush flush).append ih
  | divide _ _ flush _ below _ ih =>
      rw [List.append_assoc]
      exact (Buffer.handed_flush flush).append (handed_reopen (hdescend below) ih)

theorem handed_of_stitches {lend : Chunk → Numbering (Option Chunk)}
    (hlend : ∀ chunk, (lend chunk).Advances)
    {waiting : Buffer} {chunks stitched : List Chunk} {first last : Nat}
    (run : Stitches policy lend waiting chunks first stitched last) :
    Handed first last (waiting.chunks ++ chunks) stitched := by
  induction run with
  | nil flush =>
      rw [List.append_nil]
      exact Buffer.handed_flush flush
  | @standalone _ chunk _ _ _ _ _ _ _ flush _ ih =>
      have hchunk := (Buffer.handed_flush flush).append (.of_eq [chunk] (Nat.le_refl _))
      have hall := hchunk.append ih
      rwa [Buffer.chunks_empty, List.nil_append, List.append_assoc, List.append_assoc] at hall
  | long _ _ flush cut _ ih =>
      rw [List.append_assoc]
      exact (Buffer.handed_flush flush).append
        (handed_reopen (Chunk.handed_numberSlices cut) ih)
  | room _ _ _ _ ih =>
      rw [Buffer.chunks_push, List.append_assoc] at ih
      exact ih
  | start _ _ _ flush _ ih => exact (Buffer.handed_flush flush).append ih
  | @seam _ chunk chunks _ _ _ _ _ _ _ _ _ _ _ _ flush lent joined _ ih =>
      -- Lending draws numbers that no chunk keeps.
      have hlent := Handed.of_eq [] ((hlend _).le_of_ok lent)
      have hnext := (handed_withBorrowed joined).append (.of_eq chunks (Nat.le_refl _))
      exact (Buffer.handed_flush flush).append (hlent.append (hnext.trans ih))

/-! ## Levels -/

theorem sublist_id_settled (surroundings : Metadata) (chunks : List Chunk) :
    ((settled surroundings chunks).map Chunk.id).Sublist (chunks.map Chunk.id) := by
  have hinherit : ((chunks.map fun chunk => chunk.inherit surroundings).map Chunk.id) =
      chunks.map Chunk.id := by
    rw [List.map_map]
    rfl
  rw [← hinherit]
  exact List.filter_sublist.map Chunk.id

theorem handed_settle {boundaries : List Boundary} {piece : Piece} {chunks : List Chunk}
    {first last : Nat} (h : policy.settle boundaries piece first = .ok chunks last) :
    Handed first last [] chunks := by
  induction boundaries generalizing piece chunks first last with
  | nil =>
      rw [settle] at h
      obtain ⟨chunk, second, hnumber, hcut⟩ := Numbering.bind_eq_ok_iff.1 h
      have hstart := (Chunk.advances_number piece).le_of_ok hnumber
      exact (Handed.of_eq [] hstart).trans (Chunk.handed_numberSlices hcut)
  | cons boundary finer ih =>
      obtain ⟨pieces, second, packed, third, repacked, hsplit, hpacks, hstitches, rfl⟩ :=
        settle_cons h
      have hrepacked := ((Boundary.handed_split hsplit).trans (handed_of_packs ih hpacks)).trans
        (handed_of_stitches (fun _ => Numbering.advances_pure none) hstitches)
      have hids := (sublist_id_settled piece.metadata repacked).subperm
      exact .of_numbered hrepacked.le (le_trans hids hrepacked.numbered)

/--
A pass over chunks with different numbers gives no two results the same number, and the number
of a chunk to that chunk only: one that is joined or cut lends its number to no result.
-/
def NumbersOnce (pass : List Chunk → Numbering (List Chunk)) : Prop :=
  ∀ chunks first results last, pass chunks first = .ok results last →
    (chunks.map Chunk.id).Nodup → (∀ chunk ∈ chunks, chunk.id < first) →
      (results.map Chunk.id).Nodup ∧ (∀ chunk ∈ results, chunk.id < last) ∧
        ∀ chunk ∈ chunks, chunk ∉ results → chunk.id ∉ results.map Chunk.id

theorem numbersOnce_of_handed {pass : List Chunk → Numbering (List Chunk)}
    (h : ∀ chunks first results last, pass chunks first = .ok results last →
      Handed first last chunks results) : NumbersOnce pass := by
  intro chunks first results last hpass nodup drawn
  have handed := h chunks first results last hpass
  refine ⟨handed.nodup nodup drawn, fun chunk hchunk => ?_, fun chunk hchunk hgone hid => ?_⟩
  · rcases handed.mem_or_numbered hchunk with hchunk | hnumbered
    · exact Nat.lt_of_lt_of_le (drawn chunk hchunk) handed.le
    · exact hnumbered.2
  · obtain ⟨other, hother, heq⟩ := List.mem_map.1 hid
    rcases handed.mem_or_numbered hother with hchunks | hnumbered
    · have hsame : other = chunk := List.inj_on_of_nodup_map nodup hchunks hchunk heq
      rw [hsame] at hother
      exact hgone hother
    · have hbefore := drawn chunk hchunk
      omega

theorem numbersOnce_pack (boundaries : List Boundary) :
    NumbersOnce (policy.pack (fun part => policy.settle boundaries part.toPiece) .empty) :=
  numbersOnce_of_handed fun _ _ _ _ h => handed_of_packs handed_settle (packs_of_pack h)

theorem numbersOnce_stitch {lend : Chunk → Numbering (Option Chunk)}
    (hlend : ∀ chunk, (lend chunk).Advances) : NumbersOnce (policy.stitch lend .empty) :=
  numbersOnce_of_handed fun _ _ _ _ h => handed_of_stitches hlend (stitches_of_stitch h)

/-! ## Finished chunks -/

variable {cascade : Cascade} {text : Text} {chunks : List Chunk}

theorem handed_assemble {boundaries : List Boundary} {assembled : List Chunk} {first last : Nat}
    (h : policy.assemble boundaries text first = .ok assembled last) :
    Handed first last [] assembled := by
  cases boundaries with
  | nil => exact handed_settle h
  | cons boundary finer =>
      obtain ⟨pieces, second, packed, third, stitched, hsplit, hpacks, hstitches, rfl⟩ :=
        assemble_cons h
      have hstitched := ((Boundary.handed_split hsplit).trans
        (handed_of_packs handed_settle hpacks)).trans
        (handed_of_stitches (advances_lend _) hstitches)
      have hids := (sublist_id_settled .empty stitched).subperm
      exact .of_numbered hstitched.le (le_trans hids hstitched.numbered)

theorem id_stampAll (chunks : List Chunk) :
    (stampAll chunks).map Chunk.id = chunks.map Chunk.id := by
  refine List.ext_getElem (by simp [stampAll]) fun i hi _ => ?_
  rw [List.getElem_map, List.getElem_map, getElem_stampAll]
  rfl

theorem get?_index_of_chunk (h : policy.chunk cascade text = .ok chunks) {i : Nat}
    (hi : i < chunks.length) :
    chunks[i].get? Metadata.indexKey = some (Text.decimal i) := by
  rcases chunk_eq_ok h with ⟨-, rfl⟩ | ⟨assembled, last, -, rfl⟩
  · exact absurd hi (Nat.not_lt_zero i)
  · rw [getElem_stampAll hi, get?_stamp_index]

/--
Every number that a chunking draws goes to at most one of its chunks, which also knows it and its
own place.  Neither what a chunk lends nor what is joined to another one gives a number to a
second chunk: this holds of each pass, so of the packing and repacking of each level and of the
stitching in the end.
-/
theorem chunk_numbers_once (h : policy.chunk cascade text = .ok chunks) :
    (chunks.map Chunk.id).Nodup ∧
      (∀ chunk ∈ chunks,
        chunk.id < ((policy.assemble cascade.boundaries text).runFrom 0).2) ∧
      (∀ i (hi : i < chunks.length),
        chunks[i].get? Metadata.idKey = some (Text.decimal chunks[i].id) ∧
          chunks[i].get? Metadata.indexKey = some (Text.decimal i)) ∧
      (∀ finer, NumbersOnce
        (policy.pack (fun part => policy.settle finer part.toPiece) .empty)) ∧
      NumbersOnce policy.repack ∧
      NumbersOnce (policy.stitch (policy.lend cascade.boundaries) .empty) := by
  have hkeys : ∀ i (hi : i < chunks.length),
      chunks[i].get? Metadata.idKey = some (Text.decimal chunks[i].id) ∧
        chunks[i].get? Metadata.indexKey = some (Text.decimal i) := fun i hi =>
    ⟨get?_id_of_mem_chunk h (List.getElem_mem hi), get?_index_of_chunk h hi⟩
  refine ⟨?_, ?_, hkeys, numbersOnce_pack,
    numbersOnce_stitch fun _ => Numbering.advances_pure none, numbersOnce_stitch (advances_lend _)⟩
  · rcases chunk_eq_ok h with ⟨-, rfl⟩ | ⟨assembled, last, hassemble, rfl⟩
    · exact List.nodup_nil
    · rw [id_stampAll]
      exact (handed_assemble hassemble).nodup List.nodup_nil (by simp)
  · rcases chunk_eq_ok h with ⟨-, rfl⟩ | ⟨assembled, last, hassemble, rfl⟩
    · simp
    · intro chunk hchunk
      have hid := List.mem_map_of_mem (f := Chunk.id) hchunk
      rw [id_stampAll] at hid
      obtain ⟨bare, hbare, heq⟩ := List.mem_map.1 hid
      rcases (handed_assemble hassemble).mem_or_numbered hbare with hnil | hnumbered
      · exact absurd hnil List.not_mem_nil
      · rw [← heq, Numbering.runFrom, hassemble]
        exact hnumbered.2

theorem chunk_numbers_once_blockAmongWords :
    ∃ chunks, fencedWords.policy.chunk fencedWords.cascade blockAmongWords = .ok chunks ∧
      (chunks.map Chunk.id).Nodup ∧
      (∀ chunk ∈ chunks, chunk.id <
        ((fencedWords.policy.assemble fencedWords.cascade.boundaries blockAmongWords).runFrom
          0).2) ∧
      ∀ i (hi : i < chunks.length),
        chunks[i].get? Metadata.idKey = some (Text.decimal chunks[i].id) ∧
          chunks[i].get? Metadata.indexKey = some (Text.decimal i) := by
  obtain ⟨chunks, hchunks, -⟩ := exists_chunk_blockAmongWords
  obtain ⟨nodup, drawn, keys, -⟩ := chunk_numbers_once hchunks
  exact ⟨chunks, hchunks, nodup, drawn, keys⟩

end Policy

end Chunking
