import Chunking.Proofs.Packing

/-!
# Every level arranges its leaves

One level packs the pieces of a text and packs the result once more, so it arranges the
leaves of the text.  A level that is run to lend the end of a chunk does so too, and the
last of its chunks is an end of that chunk.
-/

namespace Chunking.Policy

variable {policy : Policy}

/-! ## Pieces of a level -/

theorem isBare_of_marked {piece : Piece} (h : Piece.Marked piece.text piece.metadata) :
    piece.IsBare := by
  have hkey : ∀ {key : String}, key ≠ Metadata.kindKey → key ≠ Metadata.languageKey →
      key.toList.head? ≠ some 'h' → piece.get? key = none :=
    fun hkind hlanguage hhead =>
      h.get?_eq_none hkind hlanguage (Metadata.ne_header_of_head? hhead)
  exact ⟨hkey (by decide) (by decide) (by decide), hkey (by decide) (by decide) (by decide),
    hkey (by decide) (by decide) (by decide)⟩

/-- What a level finds out about the leaves of a piece. -/
def ArrangesBelow (policy : Policy) (finer : List Boundary) : Prop :=
  ∀ piece chunks first last, policy.isStandalone piece = false →
    piece.get? Metadata.previousKey = none → policy.settle finer piece first = .ok chunks last →
    Arranged policy 0 []
      (Leaf.withText ((policy.leaves finer piece.text).map (.under piece))) chunks

/-- At the last level no piece is too long, so below a piece that is there is a level. -/
theorem getLast?_of_long {boundary : Boundary} {finer : List Boundary} {text : Text} {piece : Piece}
    (ends : (boundary :: finer).getLast? = some .character)
    (mem : piece ∈ (boundary.divide text).pieces) (long : policy.isLeaf piece = false) :
    finer.getLast? = some .character := by
  cases finer with
  | nil =>
      rw [List.getLast?_singleton, Option.some.injEq] at ends
      rw [ends] at mem
      have hfits : policy.budget.fits piece.length = true := by
        rw [Budget.fits_iff, Boundary.length_of_mem_divide_character mem]
        exact policy.budget.size_pos
      simp [isLeaf, hfits] at long
  | cons next finer => rwa [List.getLast?_cons_cons] at ends

theorem ready_of_split {boundary : Boundary} {finer : List Boundary} {text : Text}
    {pieces : List Chunk} {first second : Nat}
    (ends : (boundary :: finer).getLast? = some .character)
    (below : finer.getLast? = some .character → policy.ArrangesBelow finer)
    (split : boundary.split text first = .ok pieces second) :
    ∀ piece ∈ pieces, policy.Ready (fun part => policy.settle finer part.toPiece)
      (policy.leaves finer) piece := by
  intro piece hpiece
  have hmem := Boundary.mem_divide_of_split split hpiece
  have hmarked := boundary.marked_divide text piece.toPiece hmem
  have hbare := isBare_of_marked hmarked
  refine ⟨hbare, ?_, ?_⟩
  · intro alone
    obtain ⟨kind, -, hkind⟩ := isStandalone_eq_true_iff.1 alone
    exact hmarked.ne_nil_of_kind hkind
  · intro long first parts last hparts
    have hjoinable : policy.isStandalone piece.toPiece = false := by
      simp [isLeaf] at long
      exact long.1
    have hends := getLast?_of_long ends hmem long
    rw [leavesOf_long long]
    exact below hends piece.toPiece parts first last hjoinable hbare.1 hparts

theorem textLeaves_of_split {boundary : Boundary} {finer : List Boundary} {text : Text}
    {pieces : List Chunk} {first second : Nat}
    (split : boundary.split text first = .ok pieces second) :
    policy.textLeaves (policy.leaves finer) pieces =
      Leaf.withText (policy.leaves (boundary :: finer) text) := by
  obtain ⟨-, hpieces⟩ := Boundary.split_eq_ok split
  unfold textLeaves
  rw [hpieces, leaves]

/-! ## Inner levels -/

theorem exists_arranged_of_settle {boundary : Boundary} {finer : List Boundary}
    (ends : (boundary :: finer).getLast? = some .character)
    (below : finer.getLast? = some .character → policy.ArrangesBelow finer) {piece : Piece}
    {chunks : List Chunk} {first last : Nat}
    (h : policy.settle (boundary :: finer) piece first = .ok chunks last) :
    ∃ repacked, chunks = settled piece.metadata repacked ∧
      Arranged policy 0 [] (Leaf.withText (policy.leaves (boundary :: finer) piece.text))
        repacked := by
  obtain ⟨pieces, second, packed, third, repacked, hsplit, hpack, hrepack, hchunks⟩ :=
    settle_cons h
  have hpacked := arranged_of_packs hpack waits_empty (ready_of_split ends below hsplit)
  have hrepacked := arranged_of_stitching lends_lendNothing hpacked hrepack
  rw [List.nil_append, textLeaves_of_split hsplit] at hrepacked
  exact ⟨repacked, hchunks, hrepacked⟩

theorem arrangesBelow {boundaries : List Boundary}
    (ends : boundaries.getLast? = some .character) : policy.ArrangesBelow boundaries := by
  induction boundaries with
  | nil => cases ends
  | cons boundary finer ih =>
      intro piece chunks first last joinable unlinked h
      obtain ⟨repacked, rfl, hrepacked⟩ := exists_arranged_of_settle ends ih h
      rw [Leaf.withText_map_under]
      exact hrepacked.settled (Leaf.surrounds_under piece) joinable unlinked

theorem settled_append (surroundings : Metadata) (chunks more : List Chunk) :
    Policy.settled surroundings (chunks ++ more) =
      Policy.settled surroundings chunks ++ Policy.settled surroundings more := by
  unfold Policy.settled
  rw [List.map_append, List.filter_append]

theorem settled_empty {chunks : List Chunk} (h : ∀ chunk ∈ chunks, chunk.text ≠ []) :
    Policy.settled .empty chunks = chunks := by
  unfold Policy.settled
  simp only [Chunk.inherit, Piece.inherit, Metadata.inherit_empty, List.map_id']
  rw [List.filter_eq_self]
  simpa using h

theorem mem_settled {surroundings : Metadata} {chunks : List Chunk} {chunk : Chunk}
    (h : chunk ∈ Policy.settled surroundings chunks) :
    chunk.text ≠ [] ∧ ∃ before ∈ chunks, chunk.text = before.text := by
  obtain ⟨hmem, htext⟩ := List.mem_filter.1 h
  obtain ⟨before, hbefore, rfl⟩ := List.mem_map.1 hmem
  exact ⟨by simpa using htext, before, hbefore, rfl⟩

theorem flatMap_settled (surroundings : Metadata) (chunks : List Chunk) :
    (Policy.settled surroundings chunks).flatMap (·.text) = chunks.flatMap (·.text) := by
  induction chunks with
  | nil => rfl
  | cons chunk chunks ih =>
      unfold Policy.settled at ih ⊢
      rw [List.map_cons, List.filter_cons, List.flatMap_cons, ← ih]
      cases htext : chunk.text <;> simp [Chunk.inherit, Piece.inherit, htext]

theorem texts_of_settle {boundaries : List Boundary}
    (ends : boundaries.getLast? = some .character) {piece : Piece} {parts : List Chunk}
    {first last : Nat} (h : policy.settle boundaries piece first = .ok parts last) :
    parts.flatMap (·.text) = piece.text ∧
      ∀ part ∈ parts, part.text ≠ [] ∧ part.length ≤ policy.budget.maxSize := by
  cases boundaries with
  | nil => cases ends
  | cons boundary finer =>
      have hjoined := joined_leaves_of_settle h
      obtain ⟨repacked, rfl, harranged⟩ := exists_arranged_of_settle ends arrangesBelow h
      refine ⟨?_, fun part hpart => ?_⟩
      · rw [flatMap_settled, harranged.flatMap_text, Leaf.joined_withText, hjoined]
      · obtain ⟨hne, before, hbefore, htext⟩ := mem_settled hpart
        have hlength := harranged.length_le before hbefore
        unfold Piece.length at hlength ⊢
        exact ⟨hne, htext ▸ hlength⟩

theorem suffix_of_settle {boundaries : List Boundary}
    (ends : boundaries.getLast? = some .character) {piece : Piece} {parts : List Chunk}
    {donor : Chunk} {first last : Nat}
    (h : policy.settle boundaries piece first = .ok parts last)
    (hlast : parts.getLast? = some donor) : donor.text <:+ piece.text := by
  obtain ⟨htext, -⟩ := texts_of_settle ends h
  obtain ⟨init, rfl⟩ := List.getLast?_eq_some_iff.1 hlast
  rw [List.flatMap_append, List.flatMap_singleton] at htext
  exact ⟨_, htext⟩

/-! ## Lending -/

theorem getLast?_withoutElements {boundaries : List Boundary}
    (ends : boundaries.getLast? = some .character) :
    (boundaries.filter fun boundary => !boundary.isElement).getLast? = some .character := by
  obtain ⟨init, rfl⟩ := List.getLast?_eq_some_iff.1 ends
  rw [List.filter_append]
  exact List.getLast?_concat

/-- What a chunk lends is an end of it, found with or without looking for elements. -/
theorem lends_lend {boundaries : List Boundary} (ends : boundaries.getLast? = some .character) :
    policy.Lends policy.budget.maxOverlap (policy.lend boundaries) := by
  intro packed first donor last h hoverlap
  refine ⟨?_, hoverlap⟩
  generalize hlent : some donor = lent at h
  cases lent_of_lend h with
  | nothing => cases hlent
  | whole =>
      cases hlent
      exact List.suffix_refl _
  | narrowed _ _ _ run => exact suffix_of_settle ends run hlent.symm
  | withoutElements _ _ _ _ run =>
      exact suffix_of_settle (getLast?_withoutElements ends) run hlent.symm

/-! ## The outermost level -/

theorem arranged_of_assemble {boundaries : List Boundary}
    (ends : boundaries.getLast? = some .character) {text : Text} {chunks : List Chunk}
    {first last : Nat} (h : policy.assemble boundaries text first = .ok chunks last) :
    Arranged policy policy.budget.maxOverlap [] (Leaf.withText (policy.leaves boundaries text))
      chunks := by
  cases boundaries with
  | nil => cases ends
  | cons boundary finer =>
      obtain ⟨pieces, second, packed, third, stitched, hsplit, hpack, hstitch, rfl⟩ :=
        assemble_cons h
      have hready : ∀ piece ∈ pieces, policy.Ready (fun part => policy.settle finer part.toPiece)
          (policy.leaves finer) piece := ready_of_split ends arrangesBelow hsplit
      have hpacked := arranged_of_packs hpack waits_empty hready
      have hstitched := arranged_of_stitching (lends_lend ends) hpacked hstitch
      rw [List.nil_append, textLeaves_of_split hsplit] at hstitched
      have hempty : policy.isStandalone { text := [] } = false := rfl
      have hsettled := hstitched.settled (Leaf.surrounds_plain []) hempty rfl
      rwa [List.map_id] at hsettled

theorem joined_leaves_of_chunk {cascade : Cascade} {text : Text} {chunks : List Chunk}
    (h : policy.chunk cascade text = .ok chunks) :
    Leaf.joined (policy.leaves cascade.boundaries text) = text := by
  rcases chunk_eq_ok h with ⟨rfl, rfl⟩ | ⟨assembled, last, hassemble, rfl⟩
  · exact joined_leaves_nil _
  · exact joined_leaves_of_assemble hassemble

theorem ne_nil_of_mem_chunk {cascade : Cascade} {text : Text} {chunks : List Chunk} {chunk : Chunk}
    (h : policy.chunk cascade text = .ok chunks) (mem : chunk ∈ chunks) : chunk.text ≠ [] := by
  rcases chunk_eq_ok h with ⟨-, rfl⟩ | ⟨assembled, last, hassemble, rfl⟩
  · cases mem
  · obtain ⟨i, hi, rfl⟩ := List.mem_mapIdx.1 mem
    have hends := cascade.ends
    generalize cascade.boundaries = boundaries at hends hassemble
    cases boundaries with
    | nil => cases hends
    | cons boundary finer =>
        obtain ⟨-, -, -, -, stitched, -, -, -, rfl⟩ := assemble_cons hassemble
        have htext := (mem_settled (List.getElem_mem hi)).1
        exact htext

theorem arranged_of_chunk {cascade : Cascade} {text : Text} {chunks : List Chunk}
    (h : policy.chunk cascade text = .ok chunks) :
    Arranged policy policy.budget.maxOverlap []
      (Leaf.withText (policy.leaves cascade.boundaries text)) chunks := by
  rcases chunk_eq_ok h with ⟨rfl, rfl⟩ | ⟨assembled, last, hassemble, rfl⟩
  · rw [Leaf.withText_eq_nil (joined_leaves_nil _)]
    exact .nil
  · have harranged := arranged_of_assemble cascade.ends hassemble
    have hstamped := harranged.enrich (Leaf.surrounds_plain []) fun index chunk =>
      enriches_stamp index chunk
    rwa [List.map_id] at hstamped

end Chunking.Policy
