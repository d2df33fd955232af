import Chunking.Proofs.Failures
import Chunking.Proofs.Levels
import Chunking.Proofs.Recording

/-!
# Lending

A chunk always has an end to lend.  If the chunk cuts through an element, looking for
elements fails, and the end is found without doing so.  Nothing of that shows in whether
the chunking of a text fails.
-/

namespace Chunking

namespace Policy

variable {policy : Policy}

theorem exists_last_part {boundaries : List Boundary}
    (ends : boundaries.getLast? = some .character) {piece : Piece} {parts : List Chunk}
    {first last : Nat} (ne_nil : piece.text ≠ [])
    (h : policy.settle boundaries piece first = .ok parts last) :
    ∃ donor, parts.getLast? = some donor ∧ donor.text ≠ [] ∧ donor.text <:+ piece.text ∧
      donor.length ≤ policy.budget.maxSize := by
  obtain ⟨htext, hparts⟩ := texts_of_settle ends h
  have hne : parts ≠ [] := by
    rintro rfl
    exact ne_nil htext.symm
  have hlast := List.getLast?_eq_some_getLast hne
  obtain ⟨hdonor, hlength⟩ := hparts _ (List.getLast_mem hne)
  exact ⟨_, hlast, hdonor, suffix_of_settle ends h hlast, hlength⟩

/-- With an overlap limit, every chunk that has text lends an end of it within that limit. -/
theorem exists_lent {boundaries : List Boundary} (ends : boundaries.getLast? = some .character)
    (overlap_pos : 0 < policy.budget.maxOverlap) {chunk : Chunk} (ne_nil : chunk.text ≠ [])
    (first : Nat) :
    ∃ donor last, policy.lend boundaries chunk first = .ok (some donor) last ∧
      donor.text ≠ [] ∧ donor.text <:+ chunk.text ∧
      donor.length ≤ policy.budget.maxOverlap := by
  obtain ⟨window, hwindow⟩ := Budget.exists_window overlap_pos
  obtain ⟨lent, last, hlend⟩ := (policy.stopsAt_lend boundaries chunk).exists_ok first
  have hsize := Budget.maxSize_window hwindow
  have hnarrowed : ∀ {boundaries : List Boundary} {parts : List Chunk} {first last : Nat},
      boundaries.getLast? = some .character →
      (policy.within window).settle boundaries chunk.toPiece first = .ok parts last →
      ∃ donor, parts.getLast? = some donor ∧ donor.text ≠ [] ∧ donor.text <:+ chunk.text ∧
        donor.length ≤ policy.budget.maxOverlap := by
    intro boundaries parts first last ends hparts
    rw [← hsize]
    exact exists_last_part ends ne_nil hparts
  cases lent_of_lend hlend with
  | nothing hnothing => simp [hwindow, ne_nil] at hnothing
  | whole window_eq _ fits =>
      rw [hwindow, Option.some.injEq] at window_eq
      subst window_eq
      rw [Budget.fits_iff, hsize] at fits
      exact ⟨chunk, _, hlend, ne_nil, List.suffix_refl _, fits⟩
  | narrowed window_eq _ _ run =>
      rw [hwindow, Option.some.injEq] at window_eq
      subst window_eq
      obtain ⟨donor, hlast, hdonor⟩ := hnarrowed ends run
      rw [hlast] at hlend
      exact ⟨donor, last, hlend, hdonor⟩
  | withoutElements window_eq _ _ _ run =>
      rw [hwindow, Option.some.injEq] at window_eq
      subst window_eq
      obtain ⟨donor, hlast, hdonor⟩ := hnarrowed (getLast?_withoutElements ends) run
      rw [hlast] at hlend
      exact ⟨donor, last, hlend, hdonor⟩

end Policy

/-! ## The depth -/

namespace Recording

def depthAfter : EStateM.Result UnclosedTag Record α → Nat
  | .ok _ record => record.depth
  | .error _ record => record.depth

theorem Follows.depthAfter {regular : Event → Prop} {depth : Nat} {callers : List Call}
    {recording : Recording α} {action : Numbering α}
    (h : Follows regular depth callers recording action) (next : Nat) (events : List Event) :
    depthAfter (recording ⟨next, depth, callers, events⟩) = depth := by
  obtain ⟨more, -, hrecording⟩ := h next events
  rw [hrecording, Numbering.recorded]
  cases action next <;> rfl

theorem governs_all : Governs (fun _ _ => True) (fun _ => True) := by
  constructor <;> intros <;> trivial

theorem depthAfter_assemble (purpose : Purpose) (policy : Policy) (boundaries : List Boundary)
    (piece : Piece) (record : Record) :
    depthAfter (assemble purpose policy boundaries piece record) = record.depth := by
  obtain ⟨next, depth, callers, events⟩ := record
  have hperforms := @performs_assemble _ _ callers ⟨purpose, policy, boundaries, piece, depth⟩
    governs_all trivial
  exact (hperforms.follows trivial fun _ => trivial).depthAfter next events

end Recording

namespace Policy

/--
The overlap has no part in whether a chunking fails, nor at which tag.  A chunk with text
always lends an end of it within the limit, and no level leaves the depth changed, whether
it succeeds or fails.
-/
theorem failure_independent_of_overlap {one other : Budget}
    (size_eq : one.maxSize = other.maxSize) (standalone : List String) (cascade : Cascade) :
    (∀ text tag, chunk ⟨one, standalone⟩ cascade text = .error tag ↔
      chunk ⟨other, standalone⟩ cascade text = .error tag) ∧
    (0 < one.maxOverlap → ∀ flushed : Chunk, flushed.text ≠ [] → ∀ record,
      ∃ donor after, Recording.lend ⟨one, standalone⟩ cascade.boundaries flushed record =
          .ok (some donor) after ∧ after.depth = record.depth ∧
        donor.text ≠ [] ∧ donor.text <:+ flushed.text ∧ donor.length ≤ one.maxOverlap) ∧
    ∀ purpose policy boundaries piece record,
      Recording.depthAfter (Recording.assemble purpose policy boundaries piece record) =
        record.depth := by
  refine ⟨fun text tag => ?_, fun overlap_pos flushed ne_nil record => ?_,
    Recording.depthAfter_assemble⟩
  · rw [chunk_eq_error_iff, chunk_eq_error_iff, firstUnclosed_of_maxSize_eq size_eq]
  · obtain ⟨next, depth, callers, events⟩ := record
    obtain ⟨donor, last, hlend, hdonor⟩ :=
      (Policy.mk one standalone).exists_lent cascade.ends overlap_pos ne_nil next
    have hfollows : Recording.Follows (fun _ => True) depth callers
        (Recording.lend ⟨one, standalone⟩ cascade.boundaries flushed)
        (lend ⟨one, standalone⟩ cascade.boundaries flushed) :=
      Recording.follows_lend Recording.governs_all fun _ _ _ _ _ => trivial
    obtain ⟨more, -, hrecording⟩ := hfollows.of_ok hlend events
    exact ⟨donor, _, hrecording, rfl, hdonor⟩

def cutParagraph : Chunk :=
  ⟨{ text := "<p>one two three ".toList }, 0⟩

/-- The end of a cut paragraph is found on the second attempt. -/
theorem failure_independent_of_overlap_cutParagraph :
    Recording.depthAfter (Recording.assemble .text ⟨⟨8, 0, by decide, by decide⟩, []⟩
      elementCascade.boundaries cutParagraph.toPiece ⟨1, 0, [], []⟩) = 0 ∧
    (chunk ⟨⟨20, 8, by decide, by decide⟩, []⟩ elementCascade cutParagraph.text =
      .error ⟨.paragraph⟩) ∧
    (chunk ⟨⟨20, 0, by decide, by decide⟩, []⟩ elementCascade cutParagraph.text =
      .error ⟨.paragraph⟩) ∧
    ∃ donor after, Recording.lend ⟨⟨20, 8, by decide, by decide⟩, []⟩ elementCascade.boundaries
        cutParagraph ⟨1, 0, [], []⟩ = .ok (some donor) after ∧ after.depth = 0 ∧
      donor.text ≠ [] ∧ donor.text <:+ cutParagraph.text ∧ donor.length ≤ 8 := by
  have size_eq : Budget.maxSize ⟨20, 8, by decide, by decide⟩ =
      Budget.maxSize ⟨20, 0, by decide, by decide⟩ := rfl
  obtain ⟨hfails, hlends, hdepth⟩ := failure_independent_of_overlap size_eq [] elementCascade
  have herror : chunk ⟨⟨20, 8, by decide, by decide⟩, []⟩ elementCascade cutParagraph.text =
      .error ⟨.paragraph⟩ := chunk_eq_error_iff.2 (by decide +kernel)
  exact ⟨hdepth _ _ _ _ _, herror, (hfails _ _).1 herror,
    hlends (by decide) cutParagraph (by decide) ⟨1, 0, [], []⟩⟩

end Policy

end Chunking
