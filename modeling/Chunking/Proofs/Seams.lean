import Chunking.Proofs.Levels

/-!
# Seams

A stitching run joins its chunks in groups.  Where a group ends in front of a chunk that may be
joined, there was no room for that chunk; it opens the next group, which may stand behind what
the chunk before it lends.
-/

namespace Chunking

/-! ## What waits -/

namespace Buffer

/-- What the buffer would be flushed to, as a piece. -/
def joined? (waiting : Buffer) : Option Piece :=
  match waiting.chunks with
  | [] => none
  | first :: rest => some (first.toPiece.joinAll (rest.map Chunk.toPiece))

theorem joined?_single (chunk : Chunk) : (single chunk).joined? = some chunk.toPiece :=
  congrArg some (Piece.joinAll_nil chunk.toPiece)

theorem toPiece_flush {waiting : Buffer} {packed : Option Chunk} {first last : Nat}
    (flush : waiting.flush first = .ok packed last) :
    packed.map Chunk.toPiece = waiting.joined? := by
  unfold Buffer.flush at flush
  unfold joined?
  split
  · next hchunks =>
      rw [hchunks] at flush
      cases flush
      rfl
  · next head rest hchunks =>
      rw [hchunks] at flush
      obtain ⟨chunk, rfl, hpiece⟩ := Chunk.joinAll_cons flush
      exact congrArg some hpiece

theorem size_of_joined? {waiting : Buffer} {piece : Piece} (h : waiting.joined? = some piece) :
    waiting.size = piece.length := by
  unfold joined? at h
  split at h
  · cases h
  · next first rest hchunks =>
      cases h
      exact Policy.Waits.size_eq hchunks

theorem joined?_push_of_empty {waiting : Buffer} {chunk : Chunk} {piece : Piece}
    (h : waiting.joined? = some piece) (htext : chunk.text = []) :
    (waiting.push chunk).joined? = some piece := by
  unfold joined? at h ⊢
  split at h
  · cases h
  · next first rest hchunks =>
      rw [chunks_push, hchunks, List.cons_append]
      dsimp only
      rw [List.map_append, List.map_singleton, Piece.joinAll_append_of_empty htext, h]

theorem joined?_push_of_text {waiting : Buffer} {chunk : Chunk} {piece : Piece}
    (h : waiting.joined? = some piece) (htext : chunk.text ≠ []) :
    (waiting.push chunk).joined? = some (piece.join chunk.toPiece) := by
  unfold joined? at h ⊢
  split at h
  · cases h
  · next first rest hchunks =>
      cases h
      rw [chunks_push, hchunks, List.cons_append]
      dsimp only
      rw [List.map_append, List.map_singleton, Piece.joinAll_append_of_text htext]

end Buffer

namespace Policy

variable {policy : Policy} {lend : Chunk → Numbering (Option Chunk)}

/-! ## Groups behind a chunk -/

/--
What a group becomes that opens with `first` and joins to `own`, behind the chunk before it if
that one may be joined too.
-/
inductive Continues (policy : Policy) (lend : Chunk → Numbering (Option Chunk)) (first : Chunk)
    (own : Piece) : Option Chunk → Piece → Prop
  | opening : Continues policy lend first own none own
  | bare {before lent next last}
      (full : policy.budget.hasRoom before.length first.length = false)
      (lends : lend before next = .ok lent last)
      (refused : ∀ donor, lent = some donor → donor.text ≠ [] →
        donor.length ≤ policy.budget.maxOverlap →
        policy.budget.hasRoom donor.length first.length = false) :
      Continues policy lend first own (some before) own
  | behind {before donor next last}
      (full : policy.budget.hasRoom before.length first.length = false)
      (lends : lend before next = .ok (some donor) last) (ne_nil : donor.text ≠ [])
      (le : donor.length ≤ policy.budget.maxOverlap)
      (room : policy.budget.hasRoom donor.length first.length = true) :
      Continues policy lend first own (some before) (donor.toPiece.join own)

namespace Continues

variable {first : Chunk} {own piece : Piece} {before : Option Chunk}

theorem length_le (h : policy.Continues lend first own before piece) :
    own.length ≤ piece.length := by
  cases h with
  | opening => exact Nat.le_refl _
  | bare => exact Nat.le_refl _
  | @behind _ donor =>
      show own.text.length ≤ (donor.text ++ own.text).length
      rw [List.length_append]
      exact Nat.le_add_left _ _

theorem full {before : Chunk} (h : policy.Continues lend first own (some before) piece) :
    policy.budget.hasRoom before.length first.length = false := by
  cases h with
  | bare full => exact full
  | behind full => exact full

theorem join (h : policy.Continues lend first own before piece) (more : Piece) :
    policy.Continues lend first (own.join more) before (piece.join more) := by
  cases h with
  | opening => exact .opening
  | bare full lends refused => exact .bare full lends refused
  | behind full lends ne_nil le room =>
      rw [Piece.join_assoc]
      exact .behind full lends ne_nil le room

theorem of_withBorrowed {before chunk next : Chunk} {lent : Option Chunk} {first last third : Nat}
    (full : policy.budget.hasRoom before.length chunk.length = false)
    (lends : lend before first = .ok lent last)
    (joined : policy.withBorrowed lent chunk last = .ok next third) :
    policy.Continues lend chunk chunk.toPiece (some before) next.toPiece := by
  unfold withBorrowed at joined
  split at joined
  · cases joined
    exact .bare full lends fun donor hdonor => nomatch hdonor
  · next donor =>
      split at joined
      · next hlimits =>
          simp only [Bool.and_eq_true, decide_eq_true_eq] at hlimits
          obtain ⟨⟨hdonor, hoverlap⟩, hroom⟩ := hlimits
          rw [Chunk.join_eq_ok joined]
          exact .behind full lends (by simpa using hdonor) hoverlap hroom
      · next hlimits =>
          cases joined
          refine .bare full lends fun other hother hne hle => ?_
          cases hother
          simpa [hne, hle] using hlimits

end Continues

/-! ## A run in groups -/

/--
The chunks that a stitching run joins to each of its results.  Standalone chunks pass as they
are; what comes behind one of them does not continue anything.
-/
inductive Groups (policy : Policy) (lend : Chunk → Numbering (Option Chunk)) :
    Option Chunk → List Chunk → List Chunk → Prop
  | nil {before} : Groups policy lend before [] []
  | standalone {before chunk chunks stitched}
      (alone : policy.isStandalone chunk.toPiece = true)
      (later : Groups policy lend none chunks stitched) :
      Groups policy lend before (chunk :: chunks) (chunk :: stitched)
  | group {before first rest chunk chunks stitched}
      (joinable : ∀ part ∈ first :: rest, policy.isStandalone part.toPiece = false)
      (fits : chunk.length ≤ policy.budget.maxSize)
      (continues : policy.Continues lend first (first.toPiece.joinAll (rest.map Chunk.toPiece))
        before chunk.toPiece)
      (later : Groups policy lend (some chunk) chunks stitched) :
      Groups policy lend before (first :: rest ++ chunks) (chunk :: stitched)

/-- The group that was begun behind `before` waits in the buffer. -/
structure Gathers (policy : Policy) (lend : Chunk → Numbering (Option Chunk))
    (before : Option Chunk) (first : Chunk) (rest : List Chunk) (waiting : Buffer) : Prop where
  joinable : ∀ part ∈ first :: rest, policy.isStandalone part.toPiece = false
  fits : waiting.size ≤ policy.budget.maxSize
  continues : ∃ piece, waiting.joined? = some piece ∧
    policy.Continues lend first (first.toPiece.joinAll (rest.map Chunk.toPiece)) before piece

namespace Gathers

variable {before : Option Chunk} {first chunk : Chunk} {rest : List Chunk} {waiting : Buffer}

theorem single {next : Chunk} (joinable : policy.isStandalone chunk.toPiece = false)
    (continues : policy.Continues lend chunk chunk.toPiece before next.toPiece)
    (fits : next.length ≤ policy.budget.maxSize) :
    policy.Gathers lend before chunk [] (.single next) where
  joinable := by simpa using joinable
  fits := by
    rw [Buffer.size_of_joined? (Buffer.joined?_single next)]
    exact fits
  continues := by
    refine ⟨next.toPiece, Buffer.joined?_single next, ?_⟩
    rw [List.map_nil, Piece.joinAll_nil]
    exact continues

theorem push (h : policy.Gathers lend before first rest waiting)
    (joinable : policy.isStandalone chunk.toPiece = false)
    (room : policy.budget.hasRoom waiting.size chunk.length = true) :
    policy.Gathers lend before first (rest ++ [chunk]) (waiting.push chunk) where
  joinable := by
    rw [← List.cons_append, List.forall_mem_append]
    exact ⟨h.joinable, by simpa using joinable⟩
  fits := Budget.hasRoom_iff.1 room
  continues := by
    obtain ⟨piece, hpiece, hcontinues⟩ := h.continues
    rw [List.map_append, List.map_singleton]
    by_cases htext : chunk.text = []
    · rw [Piece.joinAll_append_of_empty htext]
      exact ⟨piece, Buffer.joined?_push_of_empty hpiece htext, hcontinues⟩
    · rw [Piece.joinAll_append_of_text htext]
      exact ⟨_, Buffer.joined?_push_of_text hpiece htext, hcontinues.join chunk.toPiece⟩

theorem flush {packed : Option Chunk} {start next : Nat}
    (h : policy.Gathers lend before first rest waiting)
    (flush : waiting.flush start = .ok packed next) :
    ∃ chunk, packed = some chunk ∧ chunk.length = waiting.size ∧
      ∀ {chunks stitched}, Groups policy lend (some chunk) chunks stitched →
        Groups policy lend before (first :: rest ++ chunks) (chunk :: stitched) := by
  obtain ⟨piece, hpiece, hcontinues⟩ := h.continues
  have hpacked := Buffer.toPiece_flush flush
  rw [hpiece, Option.map_eq_some_iff] at hpacked
  obtain ⟨chunk, rfl, rfl⟩ := hpacked
  have hsize := Buffer.size_of_joined? hpiece
  have hfits := h.fits
  rw [hsize] at hfits
  exact ⟨chunk, rfl, hsize.symm, .group h.joinable hfits hcontinues⟩

end Gathers

theorem groups_of_stitches {waiting : Buffer} {chunks stitched : List Chunk} {start last : Nat}
    (run : Stitches policy lend waiting chunks start stitched last)
    (fits : ∀ chunk ∈ chunks, chunk.length ≤ policy.budget.maxSize) :
    (waiting = .empty → Groups policy lend none chunks stitched) ∧
      ∀ {before first rest}, policy.Gathers lend before first rest waiting →
        Groups policy lend before (first :: rest ++ chunks) stitched := by
  -- An empty buffer has room for any chunk that fits, so only a group that was begun meets
  -- a chunk without room.
  induction run with
  | nil flush =>
      constructor
      · rintro rfl
        cases flush
        exact .nil
      · intro before first rest gathers
        obtain ⟨chunk, rfl, -, hgroup⟩ := gathers.flush flush
        exact hgroup .nil
  | standalone alone flush _ ih =>
      have hlater := (ih (List.forall_mem_cons.1 fits).2).1 rfl
      constructor
      · rintro rfl
        cases flush
        exact .standalone alone hlater
      · intro before first rest gathers
        obtain ⟨chunk, rfl, -, hgroup⟩ := gathers.flush flush
        exact hgroup (.standalone alone hlater)
  | long _ long =>
      have hlong := Budget.fits_eq_false_iff.1 long
      exact absurd ((List.forall_mem_cons.1 fits).1) (Nat.not_le.2 hlong)
  | room joinable _ room _ ih =>
      obtain ⟨hchunk, hrest⟩ := List.forall_mem_cons.1 fits
      obtain ⟨-, hgathers⟩ := ih hrest
      constructor
      · rintro rfl
        exact hgathers (.single joinable .opening hchunk)
      · intro before first rest gathers
        have hmore := hgathers (gathers.push joinable room)
        rwa [← List.cons_append, List.append_assoc] at hmore
  | start _ _ full flush _ _ =>
      have hfull := Budget.hasRoom_eq_false_iff.1 full
      have hchunk := (List.forall_mem_cons.1 fits).1
      constructor
      · rintro rfl
        rw [Buffer.size_empty, Nat.zero_add] at hfull
        exact absurd hchunk (Nat.not_le.2 hfull)
      · intro before first rest gathers
        obtain ⟨chunk, hsome, -⟩ := gathers.flush flush
        cases hsome
  | seam joinable _ full flush lends joined _ ih =>
      obtain ⟨hchunk, hrest⟩ := List.forall_mem_cons.1 fits
      constructor
      · rintro rfl
        cases flush
      · intro before first rest gathers
        obtain ⟨packed, hsome, hlength, hgroup⟩ := gathers.flush flush
        cases hsome
        rw [← hlength] at full
        have hcontinues := Continues.of_withBorrowed full lends joined
        refine hgroup ((ih hrest).2 (.single joinable hcontinues ?_))
        rcases withBorrowed_eq_ok joined with rfl | ⟨donor, rfl, -, -, hroom, hnext⟩
        · exact hchunk
        · rw [hnext]
          show (donor.text ++ _).length ≤ _
          rw [List.length_append]
          exact hroom

end Policy

end Chunking
