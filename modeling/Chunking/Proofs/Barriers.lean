import Chunking.Proofs.Coverage
import Chunking.Proofs.Fences
import Chunking.Proofs.Renumbering

/-!
# Barriers

At a standalone piece nothing waits and nothing is lent, in packing and in stitching alike.
So what comes before it, the piece itself, and what comes behind it are chunked as if each
were alone.  For fenced blocks this cuts a whole text into parts that are chunked on their
own, since the text between two blocks is one piece also on its own.
-/

namespace Chunking.Policy

open Chunking.Chunk (Chained SameButNumbers Renumbered)

variable {policy : Policy}

/-! ## Passes over standalone pieces -/

section Passes

variable {descend : Chunk → Numbering (List Chunk)} {lend : Chunk → Numbering (Option Chunk)}
  {piece chunk : Chunk}

/-- What waits in front of a standalone piece is finished there. -/
theorem pack_append_standalone (alone : policy.isStandalone piece.toPiece = true)
    (waiting : Buffer) (before after : List Chunk) :
    policy.pack descend waiting (before ++ piece :: after) = (do
      let packed ← policy.pack descend waiting before
      let later ← policy.pack descend .empty (piece :: after)
      return packed ++ later) := by
  induction before generalizing waiting with
  | nil => simp [pack, alone, Buffer.flush_empty]
  | cons head before ih =>
      rw [List.cons_append]
      generalize policy.pack descend .empty (piece :: after) = run at ih ⊢
      unfold pack
      split
      · simp only [ih, bind_assoc, pure_bind, List.append_assoc]
      · split
        · exact ih _
        · split <;> simp only [ih, bind_assoc, pure_bind, List.append_assoc]

theorem pack_standalone_cons (alone : policy.isStandalone piece.toPiece = true)
    (pieces : List Chunk) :
    policy.pack descend .empty (piece :: pieces) = (do
      let own ← policy.cutStandalone piece
      let later ← policy.pack descend .empty pieces
      return own ++ later) := by
  simp [pack, alone, Buffer.flush_empty]

theorem pack_standalone (alone : policy.isStandalone piece.toPiece = true) :
    policy.pack descend .empty [piece] = policy.cutStandalone piece := by
  simp [pack, alone, Buffer.flush_empty]

theorem stitch_append_standalone (alone : policy.isStandalone chunk.toPiece = true)
    (waiting : Buffer) (before after : List Chunk) :
    policy.stitch lend waiting (before ++ chunk :: after) = (do
      let stitched ← policy.stitch lend waiting before
      let later ← policy.stitch lend .empty (chunk :: after)
      return stitched ++ later) := by
  induction before generalizing waiting with
  | nil => simp [stitch, alone, Buffer.flush_empty]
  | cons head before ih =>
      rw [List.cons_append]
      generalize policy.stitch lend .empty (chunk :: after) = run at ih ⊢
      unfold stitch
      split
      · simp only [ih, bind_assoc, pure_bind, List.append_assoc, List.cons_append]
      · split
        · simp only [ih, bind_assoc, pure_bind, List.append_assoc]
        · split
          · exact ih _
          · rw [bind_assoc]
            congr 1
            funext packed
            cases packed with
            | none => exact ih _
            | some packed => simp only [ih, bind_assoc, pure_bind, List.cons_append]

theorem stitch_standalone_append {group : List Chunk}
    (alone : ∀ chunk ∈ group, policy.isStandalone chunk.toPiece = true) (chunks : List Chunk) :
    policy.stitch lend .empty (group ++ chunks) = (do
      let later ← policy.stitch lend .empty chunks
      return group ++ later) := by
  induction group with
  | nil => simp
  | cons chunk group ih =>
      rw [List.forall_mem_cons] at alone
      rw [List.cons_append, stitch, if_pos alone.1, ih alone.2]
      simp [Buffer.flush_empty]

theorem stitch_standalone {group : List Chunk}
    (alone : ∀ chunk ∈ group, policy.isStandalone chunk.toPiece = true) :
    policy.stitch lend .empty group = pure group := by
  rw [← List.append_nil group, stitch_standalone_append alone]
  simp [stitch, Buffer.flush_empty]

end Passes

/-! ## A level as its pieces, one by one -/

section Level

variable {boundary : Boundary} {finer : List Boundary}

/-- The outermost level makes the chunks out of the parts. -/
def Makes (policy : Policy) (boundary : Boundary) (finer : List Boundary)
    (parts chunks : List Chunk) : Prop :=
  ∃ packed stitched,
    (policy.pack (fun part => policy.settle finer part.toPiece) .empty parts).Gives packed ∧
    (policy.stitch (policy.lend (boundary :: finer)) .empty packed).Gives stitched ∧
    chunks = settled .empty stitched

theorem makes_of_assemble {text : Text} {chunks : List Chunk}
    (h : (policy.assemble (boundary :: finer) text).Gives chunks) :
    ∃ parts, parts.map Chunk.toPiece = (boundary.divide text).pieces ∧
      policy.Makes boundary finer parts chunks := by
  obtain ⟨parts, ⟨first, last, hparts⟩, h⟩ := h.of_bind
  obtain ⟨packed, hpacked, h⟩ := h.of_bind
  obtain ⟨stitched, hstitched, h⟩ := h.of_bind
  exact ⟨parts, (Boundary.split_eq_ok hparts).2, packed, stitched, hpacked, hstitched,
    Numbering.gives_pure_iff.1 h⟩

theorem cuts_of_marked {part : Chunk} {own : List Chunk}
    (marked : Piece.Marked part.text part.metadata)
    (alone : policy.isStandalone part.toPiece = true) (h : (policy.cutStandalone part).Gives own) :
    policy.Cuts (.ofPiece part.toPiece) own := by
  obtain ⟨first, last, h⟩ := h
  obtain ⟨kind, -, hkind⟩ := isStandalone_eq_true_iff.1 alone
  exact cuts_of_cutStandalone alone (isBare_of_marked marked) (marked.ne_nil_of_kind hkind) h

/-- A standalone part takes nothing from the parts behind it. -/
theorem Makes.split_behind {first : Chunk} {rest chunks : List Chunk}
    (marked : Piece.Marked first.text first.metadata)
    (alone : policy.isStandalone first.toPiece = true)
    (h : policy.Makes boundary finer (first :: rest) chunks) :
    ∃ own later, chunks = own ++ later ∧ policy.Makes boundary finer [first] own ∧
      policy.Makes boundary finer rest later := by
  obtain ⟨packed, stitched, hpacked, hstitched, rfl⟩ := h
  rw [pack_standalone_cons alone] at hpacked
  obtain ⟨own, hown, hpacked⟩ := hpacked.of_bind
  obtain ⟨later, hlater, hpacked⟩ := hpacked.of_bind
  rw [Numbering.gives_pure_iff.1 hpacked] at hstitched
  have hgroup : ∀ chunk ∈ own, policy.isStandalone chunk.toPiece = true :=
    fun chunk => (cuts_of_marked marked alone hown).isStandalone_of_mem
  rw [stitch_standalone_append hgroup] at hstitched
  obtain ⟨after, hafter, hstitched⟩ := hstitched.of_bind
  rw [Numbering.gives_pure_iff.1 hstitched, settled_append]
  refine ⟨_, _, rfl, ⟨own, own, ?_, ?_, rfl⟩, later, after, hlater, hafter, rfl⟩
  · rwa [pack_standalone alone]
  · rw [stitch_standalone hgroup, Numbering.gives_pure_iff]

theorem Makes.split_before {second : Chunk} {before rest chunks : List Chunk}
    (marked : Piece.Marked second.text second.metadata)
    (alone : policy.isStandalone second.toPiece = true)
    (h : policy.Makes boundary finer (before ++ second :: rest) chunks) :
    ∃ own later, chunks = own ++ later ∧ policy.Makes boundary finer before own ∧
      policy.Makes boundary finer (second :: rest) later := by
  obtain ⟨packed, stitched, hpacked, hstitched, rfl⟩ := h
  rw [pack_append_standalone alone] at hpacked
  obtain ⟨own, hown, hpacked⟩ := hpacked.of_bind
  obtain ⟨later, hlater, hpacked⟩ := hpacked.of_bind
  rw [Numbering.gives_pure_iff.1 hpacked] at hstitched
  -- What is packed behind begins with a chunk of the standalone part.
  have hbehind := hlater
  rw [pack_standalone_cons alone] at hlater
  obtain ⟨group, hgroup, hlater⟩ := hlater.of_bind
  obtain ⟨more, -, hlater⟩ := hlater.of_bind
  have hcuts := cuts_of_marked marked alone hgroup
  obtain ⟨head, tail, rfl⟩ := List.exists_cons_of_ne_nil hcuts.group_ne_nil
  have hhead := hcuts.isStandalone_of_mem List.mem_cons_self
  rw [Numbering.gives_pure_iff.1 hlater, List.cons_append] at hstitched hbehind
  rw [stitch_append_standalone hhead] at hstitched
  obtain ⟨front, hfront, hstitched⟩ := hstitched.of_bind
  obtain ⟨after, hafter, hstitched⟩ := hstitched.of_bind
  rw [Numbering.gives_pure_iff.1 hstitched, settled_append]
  exact ⟨_, _, rfl, ⟨own, front, hown, hfront, rfl⟩, _, after, hbehind, hafter, rfl⟩

/-- Parts of which no two next to each other can be joined are chunked each on its own. -/
theorem Makes.exists_groups {parts chunks : List Chunk}
    (marked : ∀ part ∈ parts, Piece.Marked part.text part.metadata)
    (chain : parts.IsChain fun first second =>
      policy.isStandalone first.toPiece = true ∨ policy.isStandalone second.toPiece = true)
    (h : policy.Makes boundary finer parts chunks) :
    ∃ groups, chunks = groups.flatten ∧
      List.Forall₂ (fun part group => policy.Makes boundary finer [part] group) parts groups := by
  induction chain generalizing chunks with
  | nil =>
      obtain ⟨packed, stitched, hpacked, hstitched, rfl⟩ := h
      rw [Numbering.gives_pure_iff.1 hpacked] at hstitched
      rw [Numbering.gives_pure_iff.1 hstitched]
      exact ⟨[], rfl, .nil⟩
  | singleton part => exact ⟨[chunks], by simp, .cons h .nil⟩
  | @cons_cons first second rest alone _ ih =>
      rw [List.forall_mem_cons] at marked
      have hsplit : ∃ own later, chunks = own ++ later ∧ policy.Makes boundary finer [first] own ∧
          policy.Makes boundary finer (second :: rest) later := by
        rcases alone with alone | alone
        · exact h.split_behind marked.1 alone
        · rw [← List.singleton_append] at h
          exact h.split_before (marked.2 second List.mem_cons_self) alone
      obtain ⟨own, later, rfl, hown, hlater⟩ := hsplit
      obtain ⟨groups, rfl, hgroups⟩ := ih marked.2 hlater
      exact ⟨own :: groups, rfl, .cons hown hgroups⟩

theorem Makes.alike {text : Text} {part other : Chunk} {group own : List Chunk}
    (ends : (boundary :: finer).getLast? = some .character)
    (mem : part.toPiece ∈ (boundary.divide text).pieces) (toPiece_eq : other.toPiece = part.toPiece)
    (h : policy.Makes boundary finer [part] group)
    (hother : policy.Makes boundary finer [other] own) :
    List.Forall₂ policy.Alike group own := by
  obtain ⟨packed, stitched, hpacked, hstitched, rfl⟩ := h
  obtain ⟨more, others, hmore, hothers, rfl⟩ := hother
  have hunlinked : part.get? Metadata.previousKey = none := unlinked_of_mem_divide mem
  have hpack := policy.agree_pack (by simpa using toPiece_eq)
    (by simpa using hunlinked) (fun piece hpiece hlong => ?_) sameWaiting_empty hpacked hmore
  · exact alike_settled (agree_stitch (fun _ _ same => agree_lend ends same) hpack
      sameWaiting_empty hstitched hothers) rfl
  · rw [List.mem_singleton.1 hpiece] at hlong ⊢
    exact agree_settle (getLast?_of_long ends mem hlong) hunlinked

end Level

/-! ## Fenced blocks -/

/--
The chunks of one piece of a text that is divided at its blocks: a block that fits as it is, a
longer block in fragments, and other text chunked on its own.
-/
def apart (policy : Policy) (cascade : Cascade) (piece : Piece) :
    Except UnclosedTag (List Chunk) :=
  if Fence.IsBlock piece then
    if policy.budget.fits piece.length then .ok [{ piece with id := 0 }]
    else ((policy.fragments piece).runFrom 0).1
  else policy.chunk cascade piece.text

variable {cascade : Cascade} {finer : List Boundary} {text : Text} {piece : Piece}

theorem apart_block (block : Fence.IsBlock piece) :
    policy.apart cascade piece =
      ((policy.cutStandalone { piece with id := 0 }).runFrom 0).1 := by
  unfold apart cutStandalone
  rw [if_pos block]
  split <;> rfl

def MakesApart (policy : Policy) (cascade : Cascade) (piece : Piece) (group : List Chunk) : Prop :=
  ∃ own, policy.apart cascade piece = .ok own ∧ List.Forall₂ SameButNumbers own group ∧
    Chained none own

theorem Makes.apart_of_block {part : Chunk} {group : List Chunk}
    (marked : Piece.Marked part.text part.metadata)
    (alone : policy.isStandalone part.toPiece = true) (block : Fence.IsBlock part.toPiece)
    (h : policy.Makes .fence finer [part] group) :
    policy.MakesApart cascade part.toPiece group := by
  obtain ⟨packed, stitched, hpacked, hstitched, rfl⟩ := h
  rw [pack_standalone alone] at hpacked
  have hcuts := cuts_of_marked marked alone hpacked
  rw [stitch_standalone fun chunk => hcuts.isStandalone_of_mem] at hstitched
  rw [Numbering.gives_pure_iff.1 hstitched, settled_empty fun chunk => hcuts.ne_nil_of_mem]
  -- The same part again, with numbers that begin at zero.
  obtain ⟨fresh, hfresh⟩ : ∃ fresh : Chunk, fresh = { part with id := 0 } := ⟨_, rfl⟩
  have hpiece : fresh.toPiece = part.toPiece := by rw [hfresh]
  obtain ⟨own, last, hown⟩ := (policy.stopsAt_cutStandalone fresh).exists_ok 0
  have hunlinked := (isBare_of_marked marked).1
  have halike := agree_cutStandalone alone hunlinked hpiece hpacked ⟨0, last, hown⟩
  have hown_cuts : policy.Cuts (.ofPiece fresh.toPiece) own :=
    cuts_of_marked (by rwa [hpiece]) (by rwa [hpiece]) ⟨0, last, hown⟩
  refine ⟨own, ?_, Chunk.forall₂_sameButNumbers_symm (halike.imp fun _ _ => Alike.sameButNumbers),
    hown_cuts.linked.chained⟩
  rw [apart_block block, ← hfresh, Numbering.runFrom, hown]

theorem Makes.apart_of_plain {part : Chunk} {group own : List Chunk}
    (boundaries_eq : cascade.boundaries = .fence :: finer)
    (mem : part.toPiece ∈ (Fence.divide text).pieces) (plain : ¬Fence.IsBlock part.toPiece)
    (run : policy.chunk cascade part.text = .ok own)
    (h : policy.Makes .fence finer [part] group) :
    policy.MakesApart cascade part.toPiece group := by
  refine ⟨own, by rwa [apart, if_neg plain], ?_, chained_of_chunk run⟩
  have hends := cascade.ends
  rw [boundaries_eq] at hends
  rcases chunk_eq_ok run with ⟨hnil, -⟩ | ⟨assembled, last, hassemble, rfl⟩
  · exact absurd hnil (Fence.ne_nil_of_mem_divide mem)
  · rw [boundaries_eq] at hassemble
    obtain ⟨parts, hparts, hmakes⟩ := makes_of_assemble ⟨0, last, hassemble⟩
    have hdivide : (Boundary.fence.divide part.text).pieces = [part.toPiece] :=
      Fence.divide_of_plain mem plain
    rw [hdivide, List.map_eq_singleton_iff] at hparts
    obtain ⟨other, rfl, hother⟩ := hparts
    have hsame := (h.alike hends mem hother hmakes).imp fun _ _ => Alike.sameButNumbers
    exact Chunk.forall₂_sameButNumbers_symm
      (Chunk.forall₂_sameButNumbers_trans hsame (forall₂_stampAll assembled))

theorem isStandalone_of_block (alone : Metadata.codeBlockKind ∈ policy.standalone)
    (block : Fence.IsBlock piece) : policy.isStandalone piece = true :=
  isStandalone_eq_true_iff.2 ⟨Metadata.codeBlockKind, alone, block⟩

theorem boundaries_eq_of_head? {boundary : Boundary}
    (h : cascade.boundaries.head? = some boundary) :
    cascade.boundaries = boundary :: cascade.boundaries.tail :=
  (List.cons_head?_tail h).symm

theorem firstUnclosed_fence_eq_none_iff :
    policy.firstUnclosed (.fence :: finer) text = none ↔
      ∀ piece ∈ (Fence.divide text).pieces, policy.isLeaf piece = false →
        policy.firstUnclosed finer piece.text = none := by
  rw [firstUnclosed, Boundary.unclosed_divide rfl, Option.none_or, firstStop,
    List.findSome?_eq_none_iff]
  refine forall₂_congr fun piece _ => ?_
  cases policy.isLeaf piece <;> simp

theorem exists_chunk_iff_apart (boundaries_eq : cascade.boundaries = .fence :: finer)
    (alone : Metadata.codeBlockKind ∈ policy.standalone) :
    (∃ chunks, policy.chunk cascade text = .ok chunks) ↔
      ∀ piece ∈ (Fence.divide text).pieces, ¬Fence.IsBlock piece →
        ∃ own, policy.chunk cascade piece.text = .ok own := by
  simp only [exists_chunk_eq_ok_iff, boundaries_eq]
  rw [firstUnclosed_fence_eq_none_iff]
  refine forall₂_congr fun piece hpiece => ?_
  by_cases block : Fence.IsBlock piece
  · have hleaf : policy.isLeaf piece = true := by
      simp [isLeaf, isStandalone_of_block alone block]
    simp [hleaf, block]
  · have hdivide := Fence.divide_of_plain hpiece block
    rw [firstUnclosed_fence_eq_none_iff, hdivide, List.forall_mem_singleton]
    simp [block]

theorem Makes.exists_apart {parts chunks : List Chunk}
    (boundaries_eq : cascade.boundaries = .fence :: finer)
    (alone : Metadata.codeBlockKind ∈ policy.standalone)
    (hparts : parts.map Chunk.toPiece = (Fence.divide text).pieces)
    (hplain : ∀ piece ∈ (Fence.divide text).pieces, ¬Fence.IsBlock piece →
      ∃ own, policy.chunk cascade piece.text = .ok own)
    (h : policy.Makes .fence finer parts chunks) :
    ∃ groups, chunks = groups.flatten ∧
      List.Forall₂ (fun part group => policy.MakesApart cascade part.toPiece group) parts
        groups := by
  have hmem : ∀ part ∈ parts, part.toPiece ∈ (Fence.divide text).pieces := by
    intro part hpart
    rw [← hparts]
    exact List.mem_map_of_mem hpart
  have hmarked : ∀ part ∈ parts, Piece.Marked part.text part.metadata := fun part hpart =>
    Fence.marked_divide text part.toPiece (hmem part hpart)
  have hchain := Fence.isChain_divide text
  rw [← hparts, List.isChain_map] at hchain
  have halone : ∀ {piece : Piece}, Fence.IsBlock piece → policy.isStandalone piece = true :=
    isStandalone_of_block alone
  obtain ⟨groups, rfl, hgroups⟩ :=
    h.exists_groups hmarked (hchain.imp fun _ _ => Or.imp halone halone)
  refine ⟨groups, rfl, ?_⟩
  refine ((List.forall₂_and_left parts groups).2 ⟨hmem, hgroups⟩).imp ?_
  rintro part group ⟨hpart, hgroup⟩
  by_cases block : Fence.IsBlock part.toPiece
  · exact hgroup.apart_of_block (Fence.marked_divide text _ hpart) (halone block) block
  · obtain ⟨own, run⟩ := hplain part.toPiece hpart block
    exact hgroup.apart_of_plain boundaries_eq hpart block run

/--
Fenced blocks are barriers.  A text can be chunked just where each part between its blocks can
be chunked on its own.  The chunks then are, one piece after the other and up to their numbers,
those of the blocks and of the parts between them, each made without the rest of the text.
-/
theorem chunk_apart_at_blocks (first : cascade.boundaries.head? = some .fence)
    (alone : Metadata.codeBlockKind ∈ policy.standalone) (text : Text) :
    ((∃ chunks, policy.chunk cascade text = .ok chunks) ↔
      ∀ piece ∈ (Fence.divide text).pieces, ¬Fence.IsBlock piece →
        ∃ own, policy.chunk cascade piece.text = .ok own) ∧
    ∀ chunks, policy.chunk cascade text = .ok chunks →
      ∃ groups, chunks = groups.flatten ∧
        List.Forall₂ (fun piece group =>
          ∃ own, policy.apart cascade piece = .ok own ∧ Renumbered own group)
          (Fence.divide text).pieces groups := by
  have boundaries_eq := boundaries_eq_of_head? first
  have hsuccess : (∃ chunks, policy.chunk cascade text = .ok chunks) ↔
      ∀ piece ∈ (Fence.divide text).pieces, ¬Fence.IsBlock piece →
        ∃ own, policy.chunk cascade piece.text = .ok own :=
    exists_chunk_iff_apart boundaries_eq alone
  refine ⟨hsuccess, fun chunks h => ?_⟩
  have hchained := chained_of_chunk h
  have hplain := hsuccess.1 ⟨chunks, h⟩
  rcases chunk_eq_ok h with ⟨rfl, rfl⟩ | ⟨assembled, last, hassemble, rfl⟩
  · exact ⟨[], rfl, by simp [Fence.divide_nil]⟩
  · rw [boundaries_eq] at hassemble
    obtain ⟨parts, hparts, hmakes⟩ := makes_of_assemble ⟨0, last, hassemble⟩
    obtain ⟨groups, rfl, hgroups⟩ := hmakes.exists_apart boundaries_eq alone hparts hplain
    obtain ⟨stretches, hflatten, hstretches⟩ :=
      Chunk.exists_renumbered hgroups (forall₂_stampAll groups.flatten) hchained
    refine ⟨stretches, hflatten, ?_⟩
    rw [show (Fence.divide text).pieces = parts.map Chunk.toPiece from hparts.symm,
      List.forall₂_map_left_iff]
    exact hstretches

theorem chunk_apart_at_blocks_blockAmongWords :
    fencedWords.cascade.boundaries.head? = some .fence ∧
    Metadata.codeBlockKind ∈ fencedWords.policy.standalone ∧
    (∀ piece ∈ (Fence.divide blockAmongWords).pieces, ¬Fence.IsBlock piece →
      ∃ own, fencedWords.policy.chunk fencedWords.cascade piece.text = .ok own) ∧
    ∃ chunks, fencedWords.policy.chunk fencedWords.cascade blockAmongWords = .ok chunks ∧
      ∃ groups, chunks = groups.flatten ∧
        List.Forall₂ (fun piece group => ∃ own,
          fencedWords.policy.apart fencedWords.cascade piece = .ok own ∧ Renumbered own group)
          (Fence.divide blockAmongWords).pieces groups := by
  have hfirst : fencedWords.cascade.boundaries.head? = some .fence := by decide
  have halone : Metadata.codeBlockKind ∈ fencedWords.policy.standalone := by decide
  obtain ⟨chunks, hchunks, -⟩ := exists_chunk_blockAmongWords
  obtain ⟨hsuccess, hgroups⟩ := chunk_apart_at_blocks hfirst halone blockAmongWords
  exact ⟨hfirst, halone, hsuccess.1 ⟨chunks, hchunks⟩, chunks, hchunks, hgroups chunks hchunks⟩

end Chunking.Policy
