import Chunking.Proofs.Lending
import Chunking.Proofs.Renumbering
import Chunking.Proofs.Stretches

/-!
# Endings

The end that a chunk lends is narrowed out of it by an inner level.  That level shares its
numbers with the run around it, is told what the chunk says, and is repeated without elements
where it stops at a tag.  The same end is found by chunking the text of the chunk on its own.
-/

namespace Chunking

def Cascade.withoutElements (cascade : Cascade) : Cascade where
  boundaries := cascade.boundaries.filter fun boundary => !boundary.isElement
  ends := Policy.getLast?_withoutElements cascade.ends

/-- The chunk is the other one with the metadata of its surroundings under its own, but for
numbers. -/
structure Chunk.Inherits (surroundings : Metadata) (chunk own : Chunk) : Prop where
  text_eq : own.text = chunk.text
  get?_eq : ∀ key, Metadata.IsSourceKey key →
    chunk.get? key = (own.get? key).or (surroundings.get? key)

theorem Chunk.Inherits.renumber {surroundings : Metadata} {chunk own other : Chunk}
    (h : chunk.Inherits surroundings own) (same : own.SameButNumbers other) :
    chunk.Inherits surroundings other where
  text_eq := same.text_eq.trans h.text_eq
  get?_eq key hkey := by rw [h.get?_eq key hkey, same.get?_eq key hkey]

theorem Chunk.forall₂_inherits_renumber {surroundings : Metadata} {chunks own others : List Chunk}
    (h : List.Forall₂ (Inherits surroundings) chunks own)
    (same : List.Forall₂ SameButNumbers own others) :
    List.Forall₂ (Inherits surroundings) chunks others :=
  forall₂_trans (fun _ _ _ hchunk hother => hchunk.renumber hother) h same

open Chunking.Numbering (Agree agree_pure)

namespace Policy

variable {policy : Policy}

/-- The last chunk of a text.  If a tag is not closed there, elements are not looked for. -/
def lastPart? (policy : Policy) (cascade : Cascade) (text : Text) : Option Chunk :=
  ((policy.chunk cascade text).toOption.or
    (policy.chunk cascade.withoutElements text).toOption).bind List.getLast?

/-! ## An inner level and a text on its own -/

theorem forall₂_inherits_settled {chunks others : List Chunk}
    (h : List.Forall₂ policy.Alike chunks others) (surroundings : Metadata) :
    List.Forall₂ (Chunk.Inherits surroundings) (settled surroundings chunks)
      (settled .empty others) := by
  unfold settled
  induction h with
  | nil => exact .nil
  | @cons chunk other _ _ hchunk _ ih =>
      have htext : (other.inherit .empty).text = (chunk.inherit surroundings).text :=
        hchunk.resembles.text_eq
      rw [List.map_cons, List.map_cons, List.filter_cons, List.filter_cons, htext]
      split
      · refine .cons ⟨htext, fun key hkey => ?_⟩ ih
        have hown : (other.inherit .empty).get? key = chunk.get? key := by
          unfold Chunk.inherit Piece.inherit
          rw [Metadata.inherit_empty]
          exact hchunk.resembles.get?_eq key hkey.1
        rw [hown]
        exact Metadata.get?_inherit chunk.metadata surroundings key
      · exact ih

theorem agree_settle_assemble {boundaries : List Boundary}
    (ends : boundaries.getLast? = some .character) (overlap_eq : policy.budget.maxOverlap = 0)
    (piece : Piece) :
    Agree (List.Forall₂ (Chunk.Inherits piece.metadata)) (policy.settle boundaries piece)
      (policy.assemble boundaries piece.text) := by
  cases boundaries with
  | nil => cases ends
  | cons boundary finer =>
      have hlend : ∀ packed other, policy.Same packed other → Agree (Option.Rel Chunk.Resembles)
          (lendNothing packed) (policy.lend (boundary :: finer) other) := by
        intro packed other _
        rw [lend_of_overlap_eq overlap_eq]
        exact agree_pure .none
      have text_eq : ({ text := piece.text } : Piece).text = piece.text := rfl
      exact agree_level ends text_eq agree_settle
        (fun hpacked => agree_stitch hlend hpacked sameWaiting_empty)
        fun hrepacked => forall₂_inherits_settled hrepacked piece.metadata

variable {cascade : Cascade} {piece : Piece} {first last : Nat}

theorem exists_chunk_of_settle (overlap_eq : policy.budget.maxOverlap = 0)
    (ne_nil : piece.text ≠ []) {parts : List Chunk}
    (h : policy.settle cascade.boundaries piece first = .ok parts last) :
    ∃ chunks, policy.chunk cascade piece.text = .ok chunks ∧
      List.Forall₂ (Chunk.Inherits piece.metadata) parts chunks := by
  have hclosed := (policy.stopsAt_settle cascade.boundaries piece).eq_none_of_ok h
  obtain ⟨chunks, hchunks⟩ := exists_chunk_eq_ok_iff.2 hclosed
  refine ⟨chunks, hchunks, ?_⟩
  rcases chunk_eq_ok hchunks with ⟨hnil, -⟩ | ⟨assembled, final, hassemble, rfl⟩
  · exact absurd hnil ne_nil
  · have hassembled := agree_settle_assemble cascade.ends overlap_eq piece
      ⟨first, last, h⟩ ⟨0, final, hassemble⟩
    exact Chunk.forall₂_inherits_renumber hassembled (forall₂_stampAll assembled)

theorem exists_last_of_settle (cascade : Cascade) (overlap_eq : policy.budget.maxOverlap = 0)
    (ne_nil : piece.text ≠ []) {parts : List Chunk} {donor : Chunk}
    (h : policy.settle cascade.boundaries piece first = .ok parts last)
    (hdonor : parts.getLast? = some donor) :
    ∃ chunks own, policy.chunk cascade piece.text = .ok chunks ∧ chunks.getLast? = some own ∧
      donor.Inherits piece.metadata own := by
  obtain ⟨chunks, hchunks, hparts⟩ := exists_chunk_of_settle overlap_eq ne_nil h
  have hlast := forall₂_getLast? hparts
  rw [hdonor] at hlast
  generalize hown : chunks.getLast? = own? at hlast
  cases hlast with
  | some hinherits => exact ⟨chunks, _, hchunks, hown, hinherits⟩

theorem chunk_eq_error_of_settle {tag : UnclosedTag}
    (h : policy.settle cascade.boundaries piece first = .error tag last) :
    policy.chunk cascade piece.text = .error tag :=
  chunk_eq_error_iff.2 ((policy.stopsAt_settle cascade.boundaries piece).eq_some_of_error h)

/-! ## The last part of a text -/

theorem exists_lastPart? (policy : Policy) (cascade : Cascade) {text : Text}
    (ne_nil : text ≠ []) :
    ∃ own, policy.lastPart? cascade text = some own := by
  have hlast : ∀ {cascade : Cascade} {chunks : List Chunk},
      policy.chunk cascade text = .ok chunks → ∃ own, chunks.getLast? = some own := by
    intro cascade chunks h
    refine Option.isSome_iff_exists.1 (List.getLast?_isSome.2 ?_)
    rintro rfl
    obtain ⟨layout, -⟩ := exists_layout_of_chunk h
    have hlength : 0 = text.length := layout.cut_zero.symm.trans layout.cut_length
    exact ne_nil (List.eq_nil_of_length_eq_zero hlength.symm)
  unfold lastPart?
  cases h : policy.chunk cascade text with
  | ok chunks => exact hlast h
  | error tag =>
      have hplain : policy.firstUnclosed cascade.withoutElements.boundaries text = none :=
        firstUnclosed_of_plain (fun boundary hboundary => by
          simpa using (List.mem_filter.1 hboundary).2) text
      obtain ⟨chunks, hchunks⟩ := exists_chunk_eq_ok_iff.2 hplain
      rw [hchunks]
      exact hlast hchunks

/-- An end that a chunk lends and that is not the chunk itself is the last part of its text. -/
theorem lastPart?_of_lend {before donor : Chunk} {window : Budget}
    (window_eq : policy.budget.window? = some window) (shorter : donor.length < before.length)
    (lends : policy.lend cascade.boundaries before first = .ok (some donor) last) :
    policy.budget.maxOverlap < before.length ∧
      ∃ own, (policy.within window).lastPart? cascade before.text = some own ∧
        donor.Inherits before.metadata own := by
  have overlap_eq : (policy.within window).budget.maxOverlap = 0 :=
    (Budget.maxOverlap_window window_eq).2
  have hlong : ∀ {other : Budget}, policy.budget.window? = some other →
      other.fits before.length = false → other = window ∧
        policy.budget.maxOverlap < before.length := by
    intro other hother long
    rw [window_eq, Option.some.injEq] at hother
    subst hother
    rw [Budget.fits_eq_false_iff, Budget.maxSize_window window_eq] at long
    exact ⟨rfl, long⟩
  unfold lastPart?
  generalize hlent : some donor = lent at lends
  cases lent_of_lend lends with
  | nothing => cases hlent
  | whole =>
      cases hlent
      exact absurd shorter (Nat.lt_irrefl _)
  | narrowed some_window ne_nil long run =>
      obtain ⟨rfl, long⟩ := hlong some_window long
      obtain ⟨chunks, own, hchunks, hown, hinherits⟩ :=
        exists_last_of_settle cascade overlap_eq ne_nil run hlent.symm
      rw [hchunks]
      exact ⟨long, own, hown, hinherits⟩
  | withoutElements some_window ne_nil long failed run =>
      obtain ⟨rfl, long⟩ := hlong some_window long
      obtain ⟨chunks, own, hchunks, hown, hinherits⟩ :=
        exists_last_of_settle cascade.withoutElements overlap_eq ne_nil run hlent.symm
      rw [chunk_eq_error_of_settle failed, hchunks]
      exact ⟨long, own, hown, hinherits⟩

end Policy

end Chunking
