import Chunking.Chunker
import Chunking.Proofs.Joining
import Chunking.Proofs.Leaves

/-!
# Failures

Whether a chunking fails, and at which tag, is a matter of the text, the boundaries and
the size limit.  Packing, repacking and lending never fail; a level fails where its own
division does, or else where the first of its long pieces does that fails.
-/

namespace Chunking

/-! ## Where a computation stops -/

namespace Numbering

/-- From every first number, the computation stops at the given tag, or at none. -/
def StopsAt (action : Numbering α) (stop : Option UnclosedTag) : Prop :=
  ∀ first,
    match action first with
    | .ok _ _ => stop = none
    | .error tag _ => stop = some tag

variable {action : Numbering α} {stop : Option UnclosedTag}

theorem stopsAt_pure (value : α) : StopsAt (pure value) none := fun _ => rfl

theorem stopsAt_of_apply {value : Nat → α} {next : Nat → Nat}
    (h : ∀ first, action first = .ok (value first) (next first)) : action.StopsAt none := by
  intro first
  rw [h first]

theorem StopsAt.exists_ok (h : action.StopsAt none) (first : Nat) :
    ∃ value last, action first = .ok value last := by
  have hfirst := h first
  cases haction : action first with
  | ok value last => exact ⟨value, last, rfl⟩
  | error tag last =>
      rw [haction] at hfirst
      cases hfirst

theorem StopsAt.exists_error {tag : UnclosedTag} (h : action.StopsAt (some tag)) (first : Nat) :
    ∃ last, action first = .error tag last := by
  have hfirst := h first
  cases haction : action first with
  | ok value last =>
      rw [haction] at hfirst
      cases hfirst
  | error other last =>
      rw [haction] at hfirst
      cases hfirst
      exact ⟨last, rfl⟩

theorem StopsAt.eq_none_of_ok (h : action.StopsAt stop) {value : α} {first last : Nat}
    (run : action first = .ok value last) : stop = none := by
  have hfirst := h first
  rw [run] at hfirst
  exact hfirst

theorem StopsAt.eq_some_of_error (h : action.StopsAt stop) {tag : UnclosedTag} {first last : Nat}
    (run : action first = .error tag last) : stop = some tag := by
  have hfirst := h first
  rw [run] at hfirst
  exact hfirst

theorem StopsAt.bind {later : α → Numbering β} {next : Option UnclosedTag}
    (h : action.StopsAt stop) (hlater : ∀ value, (later value).StopsAt next) :
    (action >>= later).StopsAt (stop.or next) := by
  intro first
  cases stop with
  | none =>
      obtain ⟨value, middle, haction⟩ := h.exists_ok first
      rw [bind_of_ok haction]
      exact hlater value middle
  | some tag =>
      obtain ⟨last, haction⟩ := h.exists_error first
      rw [bind_of_error haction]
      rfl

theorem StopsAt.bind_none {later : α → Numbering β} (h : action.StopsAt none)
    (hlater : ∀ value, (later value).StopsAt stop) : (action >>= later).StopsAt stop :=
  h.bind hlater

theorem StopsAt.bind_pure {f : α → β} (h : action.StopsAt stop) :
    StopsAt (action >>= fun value => pure (f value)) stop := by
  have hbind := h.bind fun value => stopsAt_pure (f value)
  rwa [Option.or_none] at hbind

theorem stopsAt_tryCatch {instead : UnclosedTag → Numbering α}
    (h : ∀ tag, (instead tag).StopsAt none) : StopsAt (tryCatch action instead) none := by
  intro first
  cases haction : action first with
  | ok value last => rw [tryCatch_of_ok haction]
  | error tag middle =>
      obtain ⟨value, last, hinstead⟩ := (h tag).exists_ok middle
      rw [tryCatch_of_error haction, hinstead]

end Numbering

/-! ## Steps that never fail -/

theorem Chunk.stopsAt_joinAll (chunks : List Chunk) : (joinAll chunks).StopsAt none := by
  match chunks with
  | [] => exact Numbering.stopsAt_pure none
  | [chunk] => exact Numbering.stopsAt_pure (some chunk)
  | first :: second :: rest =>
      exact Numbering.stopsAt_of_apply fun next => joinAll_cons_cons first second rest next

theorem Buffer.stopsAt_flush (waiting : Buffer) : waiting.flush.StopsAt none :=
  Chunk.stopsAt_joinAll waiting.chunks

theorem Chunk.stopsAt_numberSlices (metadata : Metadata) (previous : Option Nat)
    (slices : List Text) : (numberSlices metadata previous slices).StopsAt none := by
  induction slices generalizing previous with
  | nil => exact Numbering.stopsAt_pure []
  | cons slice rest ih =>
      unfold numberSlices
      refine (Numbering.stopsAt_of_apply fun next => number_apply _ next).bind_none ?_
      intro chunk
      exact (ih (some chunk.id)).bind_pure

theorem Boundary.stopsAt_split (boundary : Boundary) (text : Text) :
    (boundary.split text).StopsAt (boundary.divide text).unclosed := by
  intro first
  unfold split
  cases hunclosed : (boundary.divide text).unclosed with
  | none => rw [Division.number_of_closed hunclosed]
  | some tag => rw [Division.number_of_unclosed hunclosed]

namespace Policy

variable {policy : Policy}

theorem stopsAt_cutStandalone (chunk : Chunk) : (policy.cutStandalone chunk).StopsAt none := by
  unfold cutStandalone
  split
  · exact Numbering.stopsAt_pure [chunk]
  · exact Chunk.stopsAt_numberSlices _ _ _

theorem stopsAt_withBorrowed (borrowed : Option Chunk) (chunk : Chunk) :
    (policy.withBorrowed borrowed chunk).StopsAt none := by
  unfold withBorrowed
  split
  · exact Numbering.stopsAt_pure chunk
  · split
    · exact Numbering.stopsAt_of_apply fun next => Chunk.number_apply _ next
    · exact Numbering.stopsAt_pure chunk

theorem stopsAt_stitch {lend : Chunk → Numbering (Option Chunk)}
    (hlend : ∀ chunk, (lend chunk).StopsAt none) (waiting : Buffer) (chunks : List Chunk) :
    (policy.stitch lend waiting chunks).StopsAt none := by
  induction chunks generalizing waiting with
  | nil => exact waiting.stopsAt_flush.bind_pure
  | cons chunk chunks ih =>
      unfold stitch
      split
      · exact waiting.stopsAt_flush.bind_none fun packed => (ih .empty).bind_pure
      · split
        · refine waiting.stopsAt_flush.bind_none fun packed => ?_
          refine (Chunk.stopsAt_numberSlices _ _ _).bind_none fun parts => ?_
          exact (ih _).bind_pure
        · split
          · exact ih _
          · refine waiting.stopsAt_flush.bind_none fun packed => ?_
            cases packed with
            | none => exact ih _
            | some packed =>
                refine (hlend packed).bind_none fun borrowed => ?_
                refine (stopsAt_withBorrowed borrowed chunk).bind_none fun next => ?_
                exact (ih _).bind_pure

/-! ## The first unclosed tag -/

/-- Where the pieces of a level stop, the long ones in the way given by `below`. -/
def firstStop (policy : Policy) (below : Text → Option UnclosedTag) (pieces : List Piece) :
    Option UnclosedTag :=
  pieces.findSome? fun piece => if policy.isLeaf piece then none else below piece.text

/-- The first tag that is not closed where a text is divided at the given boundaries. -/
def firstUnclosed (policy : Policy) : List Boundary → Text → Option UnclosedTag
  | [], _ => none
  | boundary :: finer, text =>
      (boundary.divide text).unclosed.or
        (policy.firstStop (policy.firstUnclosed finer) (boundary.divide text).pieces)

theorem firstStop_cons_leaf {below : Text → Option UnclosedTag} {piece : Piece}
    (h : policy.isLeaf piece = true) (pieces : List Piece) :
    policy.firstStop below (piece :: pieces) = policy.firstStop below pieces := by
  simp [firstStop, h]

theorem firstStop_cons_long {below : Text → Option UnclosedTag} {piece : Piece}
    (h : policy.isLeaf piece = false) (pieces : List Piece) :
    policy.firstStop below (piece :: pieces) =
      (below piece.text).or (policy.firstStop below pieces) := by
  unfold firstStop
  rw [List.findSome?_cons, h, if_neg Bool.false_ne_true]
  cases below piece.text <;> rfl

theorem stopsAt_pack {descend : Chunk → Numbering (List Chunk)}
    {below : Text → Option UnclosedTag}
    (hdescend : ∀ piece, (descend piece).StopsAt (below piece.text)) (waiting : Buffer)
    (pieces : List Chunk) :
    (policy.pack descend waiting pieces).StopsAt
      (policy.firstStop below (pieces.map Chunk.toPiece)) := by
  induction pieces generalizing waiting with
  | nil => exact waiting.stopsAt_flush.bind_pure
  | cons piece pieces ih =>
      rw [List.map_cons]
      unfold pack
      split
      · next alone =>
          rw [firstStop_cons_leaf (by simp [isLeaf, alone])]
          refine waiting.stopsAt_flush.bind_none fun packed => ?_
          refine (stopsAt_cutStandalone piece).bind_none fun own => ?_
          exact (ih .empty).bind_pure
      · next joinable =>
          have joinable := Bool.eq_false_iff.2 joinable
          split
          · next room =>
              have hroom := Budget.hasRoom_iff.1 room
              have hfits : policy.budget.fits piece.length = true :=
                Budget.fits_iff.2 (Nat.le_trans (Nat.le_add_left _ _) hroom)
              rw [firstStop_cons_leaf (by simp [isLeaf, hfits])]
              exact ih _
          · refine waiting.stopsAt_flush.bind_none fun packed => ?_
            split
            · next fits =>
                rw [firstStop_cons_leaf (by simp [isLeaf, fits])]
                exact (ih _).bind_pure
            · next long =>
                rw [firstStop_cons_long (isLeaf_eq_false joinable (Bool.eq_false_iff.2 long))]
                exact (hdescend piece).bind fun parts => (ih _).bind_pure

/-! ## Levels -/

theorem stopsAt_level {boundary : Boundary} {finer : List Boundary}
    {descend : Chunk → Numbering (List Chunk)} {packAgain : List Chunk → Numbering (List Chunk)}
    (hdescend : ∀ piece, (descend piece).StopsAt (policy.firstUnclosed finer piece.text))
    (hagain : ∀ packed, (packAgain packed).StopsAt none) (piece : Piece) :
    (policy.level boundary descend packAgain piece).StopsAt
      (policy.firstUnclosed (boundary :: finer) piece.text) := by
  intro first
  have hsplit := boundary.stopsAt_split piece.text
  simp only [level, monadLift_self]
  rw [firstUnclosed]
  cases hunclosed : (boundary.divide piece.text).unclosed with
  | some tag =>
      rw [hunclosed] at hsplit
      obtain ⟨last, herror⟩ := hsplit.exists_error first
      rw [Numbering.bind_of_error herror, Option.some_or]
  | none =>
      rw [hunclosed] at hsplit
      obtain ⟨pieces, second, hok⟩ := hsplit.exists_ok first
      obtain ⟨-, hpieces⟩ := Boundary.split_eq_ok hok
      have hpack := policy.stopsAt_pack hdescend .empty pieces
      rw [hpieces] at hpack
      rw [Numbering.bind_of_ok hok, Option.none_or]
      have hlevel := hpack.bind fun packed =>
        (hagain packed).bind_pure (f := settled piece.metadata)
      rw [Option.or_none] at hlevel
      exact hlevel second

theorem stopsAt_settle (boundaries : List Boundary) (piece : Piece) :
    (policy.settle boundaries piece).StopsAt (policy.firstUnclosed boundaries piece.text) := by
  induction boundaries generalizing piece with
  | nil =>
      unfold settle
      refine (Numbering.stopsAt_of_apply fun next => Chunk.number_apply _ next).bind_none ?_
      exact fun chunk => Chunk.stopsAt_numberSlices _ _ _
  | cons boundary finer ih =>
      exact stopsAt_level (fun part => ih part.toPiece)
        (stopsAt_stitch (fun _ => Numbering.stopsAt_pure none) .empty) piece

theorem firstUnclosed_of_plain {boundaries : List Boundary}
    (plain : ∀ boundary ∈ boundaries, boundary.isElement = false) (text : Text) :
    policy.firstUnclosed boundaries text = none := by
  induction boundaries generalizing text with
  | nil => rfl
  | cons boundary finer ih =>
      obtain ⟨hboundary, hfiner⟩ := List.forall_mem_cons.1 plain
      rw [firstUnclosed, Boundary.unclosed_divide hboundary, Option.none_or, firstStop,
        List.findSome?_eq_none_iff]
      intro piece _
      split
      · rfl
      · exact ih hfiner piece.text

theorem firstUnclosed_cons_eq_none {boundary : Boundary} {finer : List Boundary} {text : Text}
    (h : policy.firstUnclosed (boundary :: finer) text = none) {piece : Piece}
    (mem : piece ∈ (boundary.divide text).pieces) (long : policy.isLeaf piece = false) :
    policy.firstUnclosed finer piece.text = none := by
  rw [firstUnclosed, Option.or_eq_none_iff, firstStop, List.findSome?_eq_none_iff] at h
  have hpiece := h.2 piece mem
  rwa [long, if_neg Bool.false_ne_true] at hpiece

theorem joined_leaves_of_firstUnclosed {boundaries : List Boundary} {text : Text}
    (h : policy.firstUnclosed boundaries text = none) :
    Leaf.joined (policy.leaves boundaries text) = text := by
  have hstops := policy.stopsAt_settle boundaries { text }
  rw [h] at hstops
  obtain ⟨chunks, last, hsettle⟩ := hstops.exists_ok 0
  exact joined_leaves_of_settle hsettle

/-- Lending never fails.  What cuts through an element is divided without looking for them. -/
theorem stopsAt_lend (boundaries : List Boundary) (chunk : Chunk) :
    (policy.lend boundaries chunk).StopsAt none := by
  unfold lend
  split
  · exact Numbering.stopsAt_pure none
  · next window _ =>
      unfold lendWithin
      split
      · exact Numbering.stopsAt_pure none
      · split
        · exact Numbering.stopsAt_pure (some chunk)
        · refine (Numbering.stopsAt_tryCatch fun tag => ?_).bind_pure
          have hsettle := (policy.within window).stopsAt_settle
            (boundaries.filter fun boundary => !boundary.isElement) chunk.toPiece
          rwa [firstUnclosed_of_plain] at hsettle
          intro boundary hboundary
          simpa using (List.mem_filter.1 hboundary).2

theorem stopsAt_assemble (boundaries : List Boundary) (text : Text) :
    (policy.assemble boundaries text).StopsAt (policy.firstUnclosed boundaries text) := by
  cases boundaries with
  | nil => exact stopsAt_settle [] { text }
  | cons boundary finer =>
      exact stopsAt_level (fun part => stopsAt_settle finer part.toPiece)
        (stopsAt_stitch (stopsAt_lend (boundary :: finer)) .empty) { text }

/-! ## Chunkings that fail -/

theorem firstUnclosed_nil (boundaries : List Boundary) :
    policy.firstUnclosed boundaries [] = none := by
  cases boundaries with
  | nil => rfl
  | cons boundary finer =>
      have hunclosed := boundary.unclosed_divide_nil
      have hjoined := Boundary.joined_divide hunclosed
      rw [firstUnclosed, hunclosed, Option.none_or, firstStop, List.findSome?_eq_none_iff]
      intro piece hpiece
      have hfits : policy.budget.fits piece.length = true := by
        rw [Budget.fits_iff, Piece.length, List.flatMap_eq_nil_iff.1 hjoined piece hpiece]
        exact Nat.zero_le _
      rw [if_pos (by simp [isLeaf, hfits])]

variable {cascade : Cascade} {text : Text}

theorem chunk_eq_error_iff {tag : UnclosedTag} :
    policy.chunk cascade text = .error tag ↔
      policy.firstUnclosed cascade.boundaries text = some tag := by
  unfold chunk
  split
  · next hempty =>
      rw [List.isEmpty_iff.1 hempty, firstUnclosed_nil]
      simp
  · have hassemble := policy.stopsAt_assemble cascade.boundaries text
    unfold Numbering.runFrom
    cases hunclosed : policy.firstUnclosed cascade.boundaries text with
    | none =>
        rw [hunclosed] at hassemble
        obtain ⟨chunks, last, hok⟩ := hassemble.exists_ok 0
        simp [hok]
    | some other =>
        rw [hunclosed] at hassemble
        obtain ⟨last, herror⟩ := hassemble.exists_error 0
        simp [herror]

theorem exists_chunk_eq_ok_iff :
    (∃ chunks, policy.chunk cascade text = .ok chunks) ↔
      policy.firstUnclosed cascade.boundaries text = none := by
  rw [Option.eq_none_iff_forall_ne_some]
  cases h : policy.chunk cascade text with
  | ok chunks =>
      have herror : ∀ tag, ¬ policy.chunk cascade text = .error tag := by simp [h]
      simpa [chunk_eq_error_iff] using herror
  | error tag =>
      simp [chunk_eq_error_iff.1 h]

/-! ## Failures at other limits -/

/-- The limits of a policy decide about a piece only through its size limit. -/
theorem isLeaf_of_maxSize_le {smaller larger : Budget} {standalone : List String}
    (size_le : smaller.maxSize ≤ larger.maxSize) {piece : Piece}
    (h : isLeaf ⟨smaller, standalone⟩ piece = true) : isLeaf ⟨larger, standalone⟩ piece = true := by
  unfold isLeaf at h ⊢
  rw [Bool.or_eq_true] at h ⊢
  rcases h with alone | fits
  · exact .inl alone
  · exact .inr (Budget.fits_iff.2 (Nat.le_trans (Budget.fits_iff.1 fits) size_le))

/-- Under a larger limit fewer pieces are divided, and so no tag is met that was not met before. -/
theorem firstUnclosed_of_maxSize_le {smaller larger : Budget} {standalone : List String}
    (size_le : smaller.maxSize ≤ larger.maxSize) {boundaries : List Boundary} {text : Text}
    (h : firstUnclosed ⟨smaller, standalone⟩ boundaries text = none) :
    firstUnclosed ⟨larger, standalone⟩ boundaries text = none := by
  induction boundaries generalizing text with
  | nil => rfl
  | cons boundary finer ih =>
      rw [firstUnclosed, Option.or_eq_none_iff, firstStop, List.findSome?_eq_none_iff] at h ⊢
      refine ⟨h.1, fun piece hpiece => ?_⟩
      have hsmaller := h.2 piece hpiece
      split
      · rfl
      · next hlarger =>
          rw [if_neg (mt (isLeaf_of_maxSize_le size_le) hlarger)] at hsmaller
          exact ih hsmaller

theorem firstUnclosed_of_maxSize_eq {one other : Budget} (size_eq : one.maxSize = other.maxSize)
    (standalone : List String) (boundaries : List Boundary) (text : Text) :
    firstUnclosed ⟨one, standalone⟩ boundaries text =
      firstUnclosed ⟨other, standalone⟩ boundaries text := by
  have hleaf : isLeaf ⟨one, standalone⟩ = isLeaf ⟨other, standalone⟩ := by
    funext piece
    simp only [isLeaf, isStandalone, Budget.fits, size_eq]
  induction boundaries generalizing text with
  | nil => rfl
  | cons boundary finer ih =>
      simp only [firstUnclosed, firstStop, hleaf, ih]

/--
A text that can be divided under a size limit can be divided under every larger one,
whatever the two overlaps are.
-/
theorem chunk_succeeds_of_maxSize_le {smaller larger : Budget}
    (size_le : smaller.maxSize ≤ larger.maxSize) {standalone : List String}
    (h : ∃ chunks, chunk ⟨smaller, standalone⟩ cascade text = .ok chunks) :
    ∃ chunks, chunk ⟨larger, standalone⟩ cascade text = .ok chunks := by
  rw [exists_chunk_eq_ok_iff] at h ⊢
  exact firstUnclosed_of_maxSize_le size_le h

def elementCascade : Cascade :=
  .ofList [.paragraphElement, .element ⟨['b'], by decide, by decide⟩, .word]

def boldInParagraph : Text :=
  "<p>one</p> <p>two <b>three</b> four</p>".toList

/-- Under the smaller limit the second paragraph is divided at its bold element. -/
theorem chunk_succeeds_of_maxSize_le_boldInParagraph :
    (∃ chunks, chunk ⟨⟨10, 10, by decide, by decide⟩, []⟩ elementCascade boldInParagraph =
      .ok chunks) ∧
    ∃ chunks, chunk ⟨⟨30, 4, by decide, by decide⟩, []⟩ elementCascade boldInParagraph =
      .ok chunks := by
  have hsmaller : ∃ chunks,
      chunk ⟨⟨10, 10, by decide, by decide⟩, []⟩ elementCascade boldInParagraph = .ok chunks :=
    exists_chunk_eq_ok_iff.2 (by decide +kernel)
  have size_le : Budget.maxSize ⟨10, 10, by decide, by decide⟩ ≤
      Budget.maxSize ⟨30, 4, by decide, by decide⟩ := by decide
  exact ⟨hsmaller, chunk_succeeds_of_maxSize_le size_le hsmaller⟩

end Policy

end Chunking
