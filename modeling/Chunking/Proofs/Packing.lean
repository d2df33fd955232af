import Chunking.Proofs.Arrangement

/-!
# Packing keeps arrangements

What waits in a buffer is described by the chunk it would be flushed to.  With that, each
step of a packing pass moves leaves from the pieces ahead to what waits, or from what
waits to the chunks behind, and the whole run arranges the leaves it was given.
-/

namespace Chunking.Policy

variable {policy : Policy} {limit : Nat}

/-! ## What waits -/

/-- Flushed now, the buffer would give a chunk that holds the run behind the borrowed text. -/
def Waits (policy : Policy) (borrowed : Text) (run : List Leaf) (waiting : Buffer) : Prop :=
  match waiting.chunks with
  | [] => borrowed = [] ∧ run = []
  | first :: rest =>
      policy.Joins borrowed run (first.toPiece.joinAll (rest.map Chunk.toPiece))

theorem waits_empty : policy.Waits [] [] .empty :=
  ⟨rfl, rfl⟩

theorem waits_single {borrowed : Text} {run : List Leaf} {chunk : Chunk}
    (joins : policy.Joins borrowed run chunk.toPiece) :
    policy.Waits borrowed run (.single chunk) := by
  show policy.Joins borrowed run (chunk.toPiece.joinAll [])
  rwa [Piece.joinAll_nil]

namespace Waits

variable {borrowed : Text} {run more : List Leaf} {waiting : Buffer}

theorem size_eq {first : Chunk} {rest : List Chunk} (h : waiting.chunks = first :: rest) :
    waiting.size = (first.toPiece.joinAll (rest.map Chunk.toPiece)).length := by
  unfold Piece.length
  rw [waiting.size_eq, h, Piece.text_joinAll, ← List.map_cons, List.flatMap_map]

theorem size_le (h : policy.Waits borrowed run waiting) :
    waiting.size ≤ policy.budget.maxSize := by
  unfold Waits at h
  split at h
  · next hchunks => simp [waiting.size_eq, hchunks]
  · next first rest hchunks =>
      rw [size_eq hchunks]
      exact h.length_le

theorem push {chunk : Chunk} (h : policy.Waits borrowed run waiting)
    (joins : policy.Joins [] more chunk.toPiece)
    (room : policy.budget.hasRoom waiting.size chunk.length = true) :
    policy.Waits borrowed (run ++ more) (waiting.push chunk) := by
  unfold Waits at h ⊢
  rw [Buffer.chunks_push]
  split at h
  · next hchunks =>
      obtain ⟨rfl, rfl⟩ := h
      rw [hchunks]
      exact waits_single joins
  · next first rest hchunks =>
      rw [hchunks, List.cons_append]
      show policy.Joins borrowed (run ++ more)
        (first.toPiece.joinAll ((rest ++ [chunk]).map Chunk.toPiece))
      rw [List.map_append, List.map_singleton]
      by_cases htext : chunk.text = []
      · rw [joins.run_eq_nil htext, List.append_nil, Piece.joinAll_append_of_empty htext]
        exact h
      · have hroom := Budget.hasRoom_iff.1 room
        rw [size_eq hchunks] at hroom
        rw [Piece.joinAll_append_of_text htext]
        exact h.join joins hroom

theorem flush {packed : Option Chunk} {first last : Nat} (h : policy.Waits borrowed run waiting)
    (flush : waiting.flush first = .ok packed last) :
    (packed = none ∧ borrowed = [] ∧ run = []) ∨
      ∃ chunk, packed = some chunk ∧ policy.Joins borrowed run chunk.toPiece := by
  unfold Buffer.flush at flush
  unfold Waits at h
  split at h
  · next hchunks =>
      rw [hchunks] at flush
      cases flush
      exact .inl ⟨rfl, h⟩
  · next head rest hchunks =>
      rw [hchunks] at flush
      obtain ⟨chunk, hpacked, hpiece⟩ := Chunk.joinAll_cons flush
      rw [← hpiece] at h
      exact .inr ⟨chunk, hpacked, h⟩

theorem arranged {lent : Text} {packed : Option Chunk} {leaves : List Leaf} {chunks : List Chunk}
    {first last : Nat} (h : policy.Waits borrowed run waiting)
    (flush : waiting.flush first = .ok packed last) (borrows : Borrows limit lent borrowed run)
    (later : Arranged policy limit [] leaves chunks) :
    Arranged policy limit lent (run ++ leaves) (packed.toList ++ chunks) := by
  rcases h.flush flush with ⟨rfl, rfl, rfl⟩ | ⟨chunk, rfl, joins⟩
  · exact later.lengthen List.nil_suffix
  · exact .joined borrows joins (later.lengthen List.nil_suffix)

end Waits

/-! ## Packing the pieces of a level -/

theorem Cuts.isStandalone_of_mem {leaf : Leaf} {group : List Chunk} {chunk : Chunk}
    (h : policy.Cuts leaf group) (mem : chunk ∈ group) :
    policy.isStandalone chunk.toPiece = true := by
  obtain ⟨kind, hmem, hkind⟩ := isStandalone_eq_true_iff.1 h.alone
  exact isStandalone_eq_true_iff.2 ⟨kind, hmem, h.keeps chunk mem _ _ hkind⟩

theorem cuts_of_cutStandalone {chunk : Chunk} {own : List Chunk} {first last : Nat}
    (alone : policy.isStandalone chunk.toPiece = true) (bare : chunk.toPiece.IsBare)
    (ne_nil : chunk.text ≠ []) (h : policy.cutStandalone chunk first = .ok own last) :
    policy.Cuts (.ofPiece chunk.toPiece) own := by
  unfold cutStandalone at h
  split at h
  · next fits =>
      cases h
      have hle : chunk.text.length ≤ policy.budget.maxSize := Budget.fits_iff.1 fits
      refine ⟨alone, ne_nil, bare, ?_, ⟨bare.1, trivial⟩, ?_, ?_⟩
      · show [chunk.text] = Text.slices _ _ chunk.text
        rw [Text.slices_of_ne_nil _ ne_nil, List.take_of_length_le hle,
          List.drop_of_length_le hle, Text.slices_nil]
      · intro other hother key value hvalue
        rw [List.mem_singleton.1 hother]
        exact hvalue
      · intro other hother
        rw [List.mem_singleton.1 hother]
        exact .of_leaf chunk.toPiece
  · obtain ⟨htexts, hlinked, hkeys⟩ := Chunk.numberSlices_spec bare.1 h
    refine ⟨alone, ne_nil, bare, htexts, hlinked, ?_, ?_⟩
    · intro other hother key value hvalue
      have hne : key ≠ Metadata.previousKey := by
        rintro rfl
        exact Option.some_ne_none value (hvalue.symm.trans bare.1)
      rw [hkeys other hother key hne]
      exact hvalue
    · intro other hother
      exact (Tells.of_leaf chunk.toPiece).congr fun key hkey => hkeys other hother key hkey.1

theorem Arranged.split_last {lent : Text} {leaves : List Leaf} {init : List Chunk} {last : Chunk}
    (joinable : policy.isStandalone last.toPiece = false)
    (h : Arranged policy 0 lent leaves (init ++ [last])) :
    ∃ done run, leaves = done ++ run ∧ Arranged policy 0 lent done init ∧
      policy.Joins [] run last.toPiece := by
  generalize hparts : init ++ [last] = parts at h
  -- `last` is the chunk at hand only where nothing follows; a slice cannot be it.
  induction h generalizing init with
  | nil => simp at hparts
  | @joined _ borrowed run chunk _ _ borrows joins later ih =>
      cases init with
      | nil =>
          rw [List.nil_append, List.cons.injEq] at hparts
          obtain ⟨rfl, rfl⟩ := hparts
          rw [later.leaves_eq_nil, List.append_nil]
          rw [borrows.eq_nil] at joins
          exact ⟨[], run, rfl, .nil, joins⟩
      | cons head init =>
          rw [List.cons_append, List.cons.injEq] at hparts
          obtain ⟨rfl, hparts⟩ := hparts
          obtain ⟨done, rest, rfl, hdone, hjoins⟩ := ih hparts
          exact ⟨run ++ done, rest, (List.append_assoc ..).symm,
            .joined borrows joins hdone, hjoins⟩
  | @standalone _ leaf group _ chunks cuts later ih =>
      rcases List.eq_nil_or_concat chunks with rfl | ⟨before, other, rfl⟩
      · have hmem : last ∈ group := by
          rw [List.append_nil] at hparts
          rw [← hparts]
          simp
        rw [cuts.isStandalone_of_mem hmem] at joinable
        cases joinable
      · rw [List.concat_eq_append, ← List.append_assoc] at hparts
        obtain ⟨rfl, hlast⟩ := List.append_inj' hparts rfl
        rw [List.concat_eq_append] at ih
        obtain ⟨done, rest, rfl, hdone, hjoins⟩ := ih (by rw [hlast])
        exact ⟨leaf :: done, rest, rfl, .standalone cuts hdone, hjoins⟩

/-- Only the last chunk of a divided piece is opened again, and only if it may be joined. -/
theorem Arranged.reopen {lent : Text} {leaves : List Leaf} {parts : List Chunk}
    (h : Arranged policy 0 lent leaves parts) :
    ∃ done run, leaves = done ++ run ∧ Arranged policy 0 lent done (policy.reopen parts).1 ∧
      policy.Waits [] run (policy.reopen parts).2 := by
  rcases List.eq_nil_or_concat parts with rfl | ⟨init, last, rfl⟩
  · exact ⟨[], [], h.leaves_eq_nil, .nil, waits_empty⟩
  · rw [List.concat_eq_append] at h ⊢
    unfold Policy.reopen
    rw [List.getLast?_concat]
    by_cases alone : policy.isStandalone last.toPiece = true
    · simp only [alone, if_true]
      exact ⟨leaves, [], (List.append_nil leaves).symm, h, waits_empty⟩
    · simp only [alone, Bool.false_eq_true, if_false, List.dropLast_concat]
      obtain ⟨done, run, hleaves, hdone, hjoins⟩ := h.split_last (Bool.eq_false_iff.2 alone)
      exact ⟨done, run, hleaves, hdone, waits_single hjoins⟩

/-- What packing relies on of a piece: no chunk keys, text if it stands alone, and an
arrangement of its leaves if it has to be divided. -/
structure Ready (policy : Policy) (descend : Chunk → Numbering (List Chunk))
    (below : Text → List Leaf) (piece : Chunk) : Prop where
  bare : piece.toPiece.IsBare
  ne_nil : policy.isStandalone piece.toPiece = true → piece.text ≠ []
  divided : policy.isLeaf piece.toPiece = false →
    ∀ first parts last, descend piece first = .ok parts last →
      Arranged policy 0 [] (Leaf.withText (policy.leavesOf below piece.toPiece)) parts

def textLeaves (policy : Policy) (below : Text → List Leaf) (pieces : List Chunk) : List Leaf :=
  Leaf.withText ((pieces.map Chunk.toPiece).flatMap (policy.leavesOf below))

theorem textLeaves_cons (below : Text → List Leaf) (piece : Chunk) (pieces : List Chunk) :
    policy.textLeaves below (piece :: pieces) =
      Leaf.withText (policy.leavesOf below piece.toPiece) ++ policy.textLeaves below pieces := by
  unfold textLeaves
  rw [List.map_cons, List.flatMap_cons, Leaf.withText_append]

theorem joins_of_fits {piece : Chunk} (joinable : policy.isStandalone piece.toPiece = false)
    (bare : piece.toPiece.IsBare) (fits : policy.budget.fits piece.length = true)
    (below : Text → List Leaf) :
    policy.Joins [] (Leaf.withText (policy.leavesOf below piece.toPiece)) piece.toPiece := by
  rw [leavesOf_fits fits]
  exact .of_leaf joinable bare.1 (Budget.fits_iff.1 fits)

theorem arranged_of_packs {descend : Chunk → Numbering (List Chunk)} {below : Text → List Leaf}
    {waiting : Buffer} {waited : List Leaf} {pieces chunks : List Chunk} {first last : Nat}
    (run : Packs policy descend waiting pieces first chunks last)
    (waits : policy.Waits [] waited waiting)
    (ready : ∀ piece ∈ pieces, policy.Ready descend below piece) :
    Arranged policy 0 [] (waited ++ policy.textLeaves below pieces) chunks := by
  -- What waits borrows nothing, so each flush is an arrangement in front of what follows.
  have hflush : ∀ {waiting packed waited leaves chunks first last},
      policy.Waits [] waited waiting → Buffer.flush waiting first = .ok packed last →
      Arranged policy 0 [] leaves chunks →
      Arranged policy 0 [] (waited ++ leaves) (packed.toList ++ chunks) :=
    fun waits flush later => waits.arranged flush .nothing later
  induction run generalizing waited with
  | nil flush =>
      have h := hflush waits flush .nil
      rw [List.append_nil (Option.toList _)] at h
      exact h
  | standalone alone flush cut _ ih =>
      obtain ⟨piece, pieces⟩ := List.forall_mem_cons.1 ready
      have hcuts := cuts_of_cutStandalone alone piece.bare (piece.ne_nil alone) cut
      rw [textLeaves_cons, leavesOf_standalone alone, Leaf.withText_singleton hcuts.ne_nil,
        List.append_assoc]
      exact hflush waits flush (.standalone hcuts (ih waits_empty pieces))
  | room joinable room _ ih =>
      obtain ⟨piece, pieces⟩ := List.forall_mem_cons.1 ready
      have hroom := Budget.hasRoom_iff.1 room
      have hfits := Budget.fits_iff.2 (Nat.le_trans (Nat.le_add_left _ _) hroom)
      have hlater := ih (waits.push (joins_of_fits joinable piece.bare hfits below) room) pieces
      rwa [textLeaves_cons, ← List.append_assoc]
  | start joinable full flush fits _ ih =>
      obtain ⟨piece, pieces⟩ := List.forall_mem_cons.1 ready
      have hlater := ih (waits_single (joins_of_fits joinable piece.bare fits below)) pieces
      rw [textLeaves_cons]
      exact hflush waits flush hlater
  | divide joinable full flush long below _ ih =>
      obtain ⟨piece, pieces⟩ := List.forall_mem_cons.1 ready
      have hparts := piece.divided (isLeaf_eq_false joinable long) _ _ _ below
      obtain ⟨done, growing, hleaves, hdone, hwaits⟩ := hparts.reopen
      rw [textLeaves_cons, hleaves, List.append_assoc, List.append_assoc]
      exact hflush waits flush (hdone.append (ih hwaits pieces))

/-! ## Stitching packed chunks -/

theorem withBorrowed_eq_ok {borrowed : Option Chunk} {chunk next : Chunk} {first last : Nat}
    (h : policy.withBorrowed borrowed chunk first = .ok next last) :
    next = chunk ∨ ∃ donor, borrowed = some donor ∧ donor.text ≠ [] ∧
      donor.length ≤ policy.budget.maxOverlap ∧
      donor.length + chunk.length ≤ policy.budget.maxSize ∧
      next.toPiece = donor.toPiece.join chunk.toPiece := by
  unfold withBorrowed at h
  split at h
  · cases h
    exact .inl rfl
  · next donor =>
      split at h
      · next hlimits =>
          simp only [Bool.and_eq_true, decide_eq_true_eq, Budget.hasRoom_iff] at hlimits
          obtain ⟨⟨hdonor, hoverlap⟩, hroom⟩ := hlimits
          exact .inr ⟨donor, rfl, by simpa using hdonor, hoverlap, hroom, Chunk.join_eq_ok h⟩
      · cases h
        exact .inl rfl

theorem Stitches.group {lend : Chunk → Numbering (Option Chunk)} {waiting : Buffer}
    {group chunks stitched : List Chunk} {first last : Nat} (hgroup : group ≠ [])
    (alone : ∀ chunk ∈ group, policy.isStandalone chunk.toPiece = true)
    (run : Stitches policy lend waiting (group ++ chunks) first stitched last) :
    ∃ packed second later, waiting.flush first = .ok packed second ∧
      Stitches policy lend .empty chunks second later last ∧
      stitched = packed.toList ++ (group ++ later) := by
  induction group generalizing waiting first stitched with
  | nil => exact absurd rfl hgroup
  | cons chunk group ih =>
      obtain ⟨hchunk, halone⟩ := List.forall_mem_cons.1 alone
      cases run with
      | standalone _ flush run =>
          by_cases hnil : group = []
          · subst hnil
            exact ⟨_, _, _, flush, run, rfl⟩
          · obtain ⟨packed, second, later, hflush, hrun, rfl⟩ := ih hnil halone run
            rw [Buffer.flush_empty] at hflush
            cases hflush
            exact ⟨_, _, later, flush, hrun, rfl⟩
      | long joinable => simp [hchunk] at joinable
      | room joinable => simp [hchunk] at joinable
      | start joinable => simp [hchunk] at joinable
      | seam joinable => simp [hchunk] at joinable

/-- What is lent at a seam is the end of the chunk before it, and short enough. -/
def Lends (policy : Policy) (limit : Nat) (lend : Chunk → Numbering (Option Chunk)) : Prop :=
  ∀ packed first donor last, lend packed first = .ok (some donor) last →
    donor.length ≤ policy.budget.maxOverlap →
    donor.text <:+ packed.text ∧ donor.length ≤ limit

theorem lends_lendNothing : policy.Lends 0 lendNothing := by
  intro packed first donor last h
  cases h

theorem arranged_of_stitches {lend : Chunk → Numbering (Option Chunk)}
    (lends : policy.Lends limit lend) {source : Text} {leaves : List Leaf} {chunks : List Chunk}
    (input : Arranged policy 0 source leaves chunks) {waiting : Buffer} {lent borrowed : Text}
    {waited : List Leaf} {stitched : List Chunk} {first last : Nat}
    (waits : policy.Waits borrowed waited waiting) (borrows : Borrows limit lent borrowed waited)
    (run : Stitches policy lend waiting chunks first stitched last) :
    Arranged policy limit lent (waited ++ leaves) stitched := by
  -- The input decides which steps the run can take: a chunk with leaves that may be joined
  -- is never beyond the limit, and the slices of a leaf all pass alone.
  induction input generalizing waiting lent borrowed waited stitched first with
  | nil =>
      cases run with
      | nil flush =>
          have h := waits.arranged flush borrows .nil
          rwa [List.append_nil (Option.toList _)] at h
  | @joined _ none' run' chunk _ _ hnone joins _ ih =>
      rw [hnone.eq_nil] at joins
      cases run with
      | standalone alone => simp [joins.joinable] at alone
      | long _ long =>
          have hlong := Budget.fits_eq_false_iff.1 long
          exact absurd joins.length_le (Nat.not_le.2 hlong)
      | room _ _ room run =>
          rw [← List.append_assoc]
          exact ih (waits.push joins room) (borrows.append _) run
      | start _ _ _ flush run =>
          rcases waits.flush flush with ⟨-, rfl, rfl⟩ | ⟨packed, hpacked, -⟩
          · exact ih (waits_single joins) .nothing run
          · cases hpacked
      | seam _ _ full flush lent joined run =>
          rcases waits.flush flush with ⟨hpacked, -⟩ | ⟨packed, hpacked, hjoins⟩
          · cases hpacked
          · cases hpacked
            refine .joined borrows hjoins ?_
            rcases withBorrowed_eq_ok joined with rfl | ⟨donor, rfl, hdonor, hoverlap, hroom, hnext⟩
            · exact ih (waits_single joins) .nothing run
            · -- Without room, the chunk at the seam has text, and so it holds some leaf.
              have hchunk : chunk.text ≠ [] := by
                intro hnil
                have hfull := Budget.hasRoom_eq_false_iff.1 full
                have hsize := waits.size_le
                simp only [Piece.length, hnil, List.length_nil] at hfull
                omega
              have hfresh : run' ≠ [] := by
                rintro rfl
                exact hchunk joins.text_eq
              obtain ⟨hends, hlimit⟩ := lends _ _ donor _ lent hoverlap
              have hborrow := joins.borrow hchunk hdonor hroom
              rw [← hnext] at hborrow
              exact ih (waits_single hborrow) ⟨hends, hlimit, fun _ => hfresh⟩ run
  | @standalone _ leaf group leaves _ cuts _ ih =>
      obtain ⟨packed, second, later, flush, hrun, rfl⟩ :=
        run.group cuts.group_ne_nil fun chunk hchunk => cuts.isStandalone_of_mem hchunk
      have hlater : Arranged policy limit [] leaves later := ih waits_empty .nothing hrun
      exact waits.arranged flush borrows (.standalone cuts hlater)

theorem arranged_of_stitching {lend : Chunk → Numbering (Option Chunk)}
    (lends : policy.Lends limit lend) {source : Text} {leaves : List Leaf}
    {chunks stitched : List Chunk} {first last : Nat}
    (input : Arranged policy 0 source leaves chunks)
    (run : Stitches policy lend .empty chunks first stitched last) :
    Arranged policy limit [] leaves stitched :=
  arranged_of_stitches lends input waits_empty .nothing run

end Chunking.Policy
