import Mathlib.Data.List.Chain
import Chunking.Proofs.Failures
import Chunking.Proofs.Tightness

/-!
# Packing once more

Chunks are spaced if no two neighbours that may be joined would fit into one chunk.  A pass
without overlap spaces its chunks, and it leaves just the spaced ones as they are.  So what was
packed once stays the same however often it is packed, and at whatever level.
-/

namespace Chunking.Policy

variable {policy : Policy} {chunks packed : List Chunk}

/-! ## Spaced chunks -/

/-- Two neighbours that may be joined are too long for one chunk. -/
def Spaced (policy : Policy) (chunks : List Chunk) : Prop :=
  chunks.IsChain fun chunk next => policy.isStandalone chunk.toPiece = false →
    policy.isStandalone next.toPiece = false → policy.budget.maxSize < chunk.length + next.length

instance : Decidable (policy.Spaced chunks) :=
  inferInstanceAs (Decidable (List.IsChain _ chunks))

theorem Tight.spaced {start : Nat} {before : Option Nat}
    (h : policy.Tight (fun _ => False) start before chunks) : policy.Spaced chunks := by
  induction h with
  | nil => exact .nil
  | @joinable _ _ chunk chunks _ _ _ later ih =>
      refine List.isChain_cons.2 ⟨fun next hnext _ hjoinable => ?_, ih⟩
      obtain ⟨rest, rfl⟩ := List.head?_eq_some_iff.1 hnext
      exact (later.full_head hjoinable chunk.length rfl).resolve_right id
  | standalone alone _ ih =>
      refine List.isChain_cons.2 ⟨fun next _ hjoinable => ?_, ih⟩
      rw [alone] at hjoinable
      cases hjoinable

theorem Spaced.tight (h : policy.Spaced chunks)
    (fits : ∀ chunk ∈ chunks, chunk.length ≤ policy.budget.maxSize) (start : Nat) :
    policy.Tight (fun _ => False) start none chunks := by
  induction chunks generalizing start with
  | nil => exact .nil
  | cons chunk chunks ih =>
      obtain ⟨hchunk, hfits⟩ := List.forall_mem_cons.1 fits
      obtain ⟨hnext, hspaced⟩ := List.isChain_cons.1 h
      have hlater := ih hspaced hfits (start + chunk.length)
      cases halone : policy.isStandalone chunk.toPiece with
      | true => exact .standalone halone hlater
      | false =>
          refine .joinable halone hchunk (fun _ hnone => nomatch hnone) (hlater.behind ?_)
          exact fun next hmem => hnext next hmem halone

/-! ## What a pass keeps -/

namespace Groups

variable {before : Option Chunk}

theorem flatMap_text (h : Groups policy lendNothing before chunks packed) :
    packed.flatMap (·.text) = chunks.flatMap (·.text) := by
  induction h with
  | nil => rfl
  | standalone _ _ ih => rw [List.flatMap_cons, ih, List.flatMap_cons]
  | group _ _ continues _ ih =>
      rw [List.flatMap_cons, continues.eq_of_lendNothing, ih, Piece.text_joinAll,
        List.flatMap_append, ← List.map_cons, List.flatMap_map]

theorem filter_isStandalone (h : Groups policy lendNothing before chunks packed) :
    packed.filter (policy.isStandalone ·.toPiece) =
      chunks.filter (policy.isStandalone ·.toPiece) := by
  induction h with
  | nil => rfl
  | standalone _ _ ih => rw [List.filter_cons, List.filter_cons, ih]
  | @group _ first rest chunk chunks _ joinable _ continues _ ih =>
      have hchunk : policy.isStandalone chunk.toPiece = false := by
        rw [continues.eq_of_lendNothing]
        exact isStandalone_joined joinable
      have hgroup : (first :: rest).filter (policy.isStandalone ·.toPiece) = [] := by
        rw [List.filter_eq_nil_iff]
        exact fun part hpart => Bool.eq_false_iff.1 (joinable part hpart)
      rw [List.filter_append, hgroup, List.nil_append, List.filter_cons, hchunk, ih,
        if_neg Bool.false_ne_true]

end Groups

/-! ## A pass without overlap -/

theorem groups_of_repack (fits : ∀ chunk ∈ chunks, chunk.length ≤ policy.budget.maxSize)
    {first last : Nat} (h : policy.repack chunks first = .ok packed last) :
    Groups policy lendNothing none chunks packed :=
  (groups_of_stitches (stitches_of_stitch h) fits).1 rfl

theorem repack_of_spaced (fits : ∀ chunk ∈ chunks, chunk.length ≤ policy.budget.maxSize)
    (spaced : policy.Spaced chunks) (next : Nat) :
    policy.repack chunks next = .ok chunks next :=
  repack_of_tight (spaced.tight fits 0) next

/--
Chunks that fit can be packed without overlap, and then they stay as they are when they are packed
again, with no number drawn.  The text and the standalone chunks are those from before, in order.
What is packed is spaced, and only what was spaced already does not change.
-/
theorem stitch_keeps_stitched (overlap_eq : policy.budget.maxOverlap = 0)
    (fits : ∀ chunk ∈ chunks, chunk.length ≤ policy.budget.maxSize)
    (boundaries others : List Boundary) (first : Nat) :
    ∃ packed last,
      policy.stitch (policy.lend boundaries) .empty chunks first = .ok packed last ∧
      (∀ next, policy.stitch (policy.lend others) .empty packed next = .ok packed next) ∧
      packed.flatMap (·.text) = chunks.flatMap (·.text) ∧
      packed.filter (policy.isStandalone ·.toPiece) =
        chunks.filter (policy.isStandalone ·.toPiece) ∧
      policy.Spaced packed ∧ (packed = chunks ↔ policy.Spaced chunks) := by
  -- Nothing is lent, whatever the boundaries are, so both passes pack as an inner level does.
  rw [lend_of_overlap_eq overlap_eq, lend_of_overlap_eq overlap_eq]
  have hstops : (policy.repack chunks).StopsAt none :=
    stopsAt_stitch (fun _ => Numbering.stopsAt_pure none) .empty chunks
  obtain ⟨packed, last, hrun⟩ := hstops.exists_ok first
  have hgroups := groups_of_repack fits hrun
  have htight : policy.Tight (fun _ => False) 0 none packed := tight_of_groups hgroups 0
  refine ⟨packed, last, hrun, repack_of_tight htight, hgroups.flatMap_text,
    hgroups.filter_isStandalone, htight.spaced, ?_⟩
  constructor
  · rintro rfl
    exact htight.spaced
  · intro hspaced
    rw [repack_of_spaced fits hspaced first] at hrun
    cases hrun
    rfl

def blocksApart : Policy :=
  ⟨⟨3, 0, by decide, by decide⟩, [Metadata.codeBlockKind]⟩

/-- The first three chunks fit into one, and one without text stands between two code blocks. -/
def scatteredChunks : List Chunk :=
  let block := Metadata.ofList [(Metadata.kindKey, Metadata.codeBlockKind)]
  Chunk.consecutive 0 [⟨[], .ofList [("k", "a")]⟩, ⟨['a', 'b'], .ofList [("k", "b")]⟩,
    ⟨['c'], .empty⟩, ⟨['x'], block⟩, ⟨[], .empty⟩, ⟨[], block⟩, ⟨['d', 'e', 'f'], .empty⟩,
    ⟨['g'], .empty⟩]

/-- The first pass joins three chunks to one with the number 8, and the second one draws none. -/
theorem stitch_keeps_stitched_scatteredChunks :
    blocksApart.budget.maxOverlap = 0 ∧
      (∀ chunk ∈ scatteredChunks, chunk.length ≤ blocksApart.budget.maxSize) ∧
      ¬blocksApart.Spaced scatteredChunks ∧
      ∃ packed,
        blocksApart.stitch (blocksApart.lend [.word, .character]) .empty scatteredChunks 8 =
          .ok packed 9 ∧
        packed.map Chunk.id = [8, 3, 4, 5, 6, 7] ∧
        ∀ next, blocksApart.stitch (blocksApart.lend [.character]) .empty packed next =
          .ok packed next := by
  have hfits : ∀ chunk ∈ scatteredChunks, chunk.length ≤ blocksApart.budget.maxSize := by
    decide +kernel
  obtain ⟨packed, last, hpacked, hkeeps, -⟩ :=
    @stitch_keeps_stitched blocksApart scatteredChunks rfl hfits [.word, .character] [.character] 8
  obtain ⟨chunks, hchunks, hids⟩ : ∃ chunks : List Chunk,
      blocksApart.stitch (blocksApart.lend [.word, .character]) .empty scatteredChunks 8 =
        .ok chunks 9 ∧ chunks.map Chunk.id = [8, 3, 4, 5, 6, 7] := ⟨_, rfl, rfl⟩
  rw [hchunks] at hpacked
  cases hpacked
  exact ⟨rfl, hfits, by decide +kernel, packed, hchunks, hids, hkeeps⟩

end Chunking.Policy
