import Chunking.Proofs.Agreement

/-!
# Renumbering

Finished chunks apart from their numbers.  A linked chunk is linked to the one right before
it, so where the same chunks of two lists are linked, the links differ just as the numbers
of the chunks do.
-/

namespace Chunking

namespace Chunk

/-! ## Links to the chunk before -/

/-- A chunk that is linked is linked to the one right before it; `previous` is the one before
the first. -/
def Chained (previous : Option Nat) : List Chunk → Prop
  | [] => True
  | chunk :: rest =>
      (chunk.get? Metadata.previousKey = none ∨
        chunk.get? Metadata.previousKey = previous.map Text.decimal) ∧
      Chained (some chunk.id) rest

theorem Linked.chained {previous : Option Nat} {chunks : List Chunk}
    (h : Linked previous chunks) : Chained previous chunks := by
  induction chunks generalizing previous with
  | nil => trivial
  | cons chunk rest ih => exact ⟨.inr h.1, ih h.2⟩

namespace Chained

variable {previous : Option Nat} {chunks more : List Chunk}

theorem first {chunk : Chunk} (h : Chained none (chunk :: chunks)) :
    chunk.get? Metadata.previousKey = none := by
  rcases h.1 with hlink | hlink <;> exact hlink

theorem weaken (h : Chained none chunks) : Chained previous chunks := by
  cases chunks with
  | nil => trivial
  | cons chunk rest => exact ⟨.inl h.first, h.2⟩

theorem append (h : Chained previous chunks) (hmore : Chained none more) :
    Chained previous (chunks ++ more) := by
  induction chunks generalizing previous with
  | nil => exact hmore.weaken
  | cons chunk rest ih => exact ⟨h.1, ih h.2⟩

theorem split (h : Chained previous (chunks ++ more)) :
    Chained previous chunks ∧ ∃ before, Chained before more := by
  induction chunks generalizing previous with
  | nil => exact ⟨trivial, previous, h⟩
  | cons chunk rest ih =>
      obtain ⟨hrest, hmore⟩ := ih h.2
      exact ⟨⟨h.1, hrest⟩, hmore⟩

end Chained

/-! ## Chunks without their numbers -/

/-- The chunks have the same text, what they have from pieces is the same, and both are linked
or neither is. -/
structure SameButNumbers (chunk other : Chunk) : Prop where
  text_eq : other.text = chunk.text
  get?_eq : ∀ key, Metadata.IsSourceKey key → other.get? key = chunk.get? key
  linked_iff : other.get? Metadata.previousKey = none ↔ chunk.get? Metadata.previousKey = none

namespace SameButNumbers

variable {chunk other third : Chunk}

theorem symm (h : chunk.SameButNumbers other) : other.SameButNumbers chunk :=
  ⟨h.text_eq.symm, fun key hkey => (h.get?_eq key hkey).symm, h.linked_iff.symm⟩

theorem trans (h : chunk.SameButNumbers other) (hother : other.SameButNumbers third) :
    chunk.SameButNumbers third :=
  ⟨hother.text_eq.trans h.text_eq, fun key hkey =>
    (hother.get?_eq key hkey).trans (h.get?_eq key hkey), hother.linked_iff.trans h.linked_iff⟩

end SameButNumbers

theorem sameButNumbers_stamp (chunk : Chunk) (index : Nat) :
    chunk.SameButNumbers (chunk.stamp index) where
  text_eq := rfl
  get?_eq key hkey := Policy.get?_stamp chunk index hkey.2.1 hkey.2.2
  linked_iff := by rw [Policy.get?_stamp chunk index (by decide) (by decide)]

/-! ## Lists of chunks without their numbers -/

/-- The chunks are the same up to their numbers, and up to links that follow the numbers. -/
structure Renumbered (own chunks : List Chunk) : Prop where
  same : List.Forall₂ SameButNumbers own chunks
  own_chained : Chained none own
  chained : Chained none chunks

theorem forall₂_sameButNumbers_symm {own chunks : List Chunk}
    (h : List.Forall₂ SameButNumbers own chunks) : List.Forall₂ SameButNumbers chunks own :=
  (h.imp fun _ _ same => same.symm).flip

theorem forall₂_sameButNumbers_trans {own chunks others : List Chunk}
    (h : List.Forall₂ SameButNumbers own chunks)
    (hothers : List.Forall₂ SameButNumbers chunks others) :
    List.Forall₂ SameButNumbers own others :=
  forall₂_trans (fun _ _ _ same hother => same.trans hother) h hothers

/-- The first chunk of a stretch is not linked if it is not where the stretch was made. -/
theorem renumbered_of_chained {previous : Option Nat} {own chunks : List Chunk}
    (same : List.Forall₂ SameButNumbers own chunks) (own_chained : Chained none own)
    (chained : Chained previous chunks) : Renumbered own chunks := by
  refine ⟨same, own_chained, ?_⟩
  cases same with
  | nil => trivial
  | cons hchunk _ => exact ⟨.inl (hchunk.linked_iff.2 own_chained.first), chained.2⟩

theorem exists_renumbered {apart : α → List Chunk → Prop} {items : List α}
    {groups : List (List Chunk)} {chunks : List Chunk} {previous : Option Nat}
    (h : List.Forall₂ (fun item group => ∃ own, apart item own ∧
      List.Forall₂ SameButNumbers own group ∧ Chained none own) items groups)
    (same : List.Forall₂ SameButNumbers groups.flatten chunks)
    (chained : Chained previous chunks) :
    ∃ stretches, chunks = stretches.flatten ∧
      List.Forall₂ (fun item stretch => ∃ own, apart item own ∧ Renumbered own stretch) items
        stretches := by
  induction h generalizing chunks previous with
  | nil => exact ⟨[], List.forall₂_nil_left_iff.1 same, .nil⟩
  | @cons item group _ _ hgroup _ ih =>
      obtain ⟨own, hown, hsame, hchained⟩ := hgroup
      obtain ⟨stretch, rest, rfl, hstretch, hrest⟩ := Policy.exists_of_forall₂_append same
      obtain ⟨hfirst, before, hlater⟩ := chained.split
      obtain ⟨stretches, rfl, hstretches⟩ := ih hrest hlater
      exact ⟨stretch :: stretches, rfl, .cons ⟨own, hown, renumbered_of_chained
        (forall₂_sameButNumbers_trans hsame hstretch) hchained hfirst⟩ hstretches⟩

end Chunk

namespace Policy

open Chunking.Chunk (Chained SameButNumbers)

variable {policy : Policy}

theorem Alike.sameButNumbers {chunk other : Chunk} (h : policy.Alike chunk other) :
    chunk.SameButNumbers other :=
  ⟨h.resembles.text_eq, fun key hkey => h.resembles.get?_eq key hkey.1, h.linked_iff⟩

theorem forall₂_stampAll (chunks : List Chunk) :
    List.Forall₂ SameButNumbers chunks (stampAll chunks) := by
  have hmap : ∀ f : Nat → Chunk → Chunk, (∀ index chunk, SameButNumbers chunk (f index chunk)) →
      List.Forall₂ SameButNumbers chunks (chunks.mapIdx f) := by
    intro f hf
    induction chunks generalizing f with
    | nil => exact .nil
    | cons chunk rest ih =>
        rw [List.mapIdx_cons]
        exact .cons (hf 0 chunk) (ih _ fun index => hf (index + 1))
  exact hmap _ fun index chunk => Chunk.sameButNumbers_stamp chunk index

theorem Arranged.chained {limit : Nat} {lent : Text} {leaves : List Leaf} {chunks : List Chunk}
    (h : Arranged policy limit lent leaves chunks) : Chained none chunks := by
  induction h with
  | nil => trivial
  | joined _ joins _ ih => exact ⟨.inl joins.unlinked, ih.weaken⟩
  | standalone cuts _ ih => exact cuts.linked.chained.append ih

theorem chained_of_chunk {cascade : Cascade} {text : Text} {chunks : List Chunk}
    (h : policy.chunk cascade text = .ok chunks) : Chained none chunks :=
  (arranged_of_chunk h).chained

end Policy

end Chunking
