import Chunking.Proofs.Coverage

/-!
# Isolation

Standalone leaves stay by themselves, at every level and whatever the overlap.  Among the
finished chunks they are found again in their order, whole or in linked slices.
-/

namespace Chunking.Policy

variable {policy : Policy}

/-! ## Standalone leaves -/

def standaloneLeaves (policy : Policy) (leaves : List Leaf) : List Leaf :=
  leaves.filter fun leaf => policy.isStandalone leaf.toPiece

theorem standaloneLeaves_cons {leaf : Leaf} {leaves : List Leaf}
    (alone : policy.isStandalone leaf.toPiece = true) :
    policy.standaloneLeaves (leaf :: leaves) = leaf :: policy.standaloneLeaves leaves := by
  unfold standaloneLeaves
  rw [List.filter_cons, if_pos alone]

theorem standaloneLeaves_append_of_joinable {run leaves : List Leaf}
    (joinable : ∀ leaf ∈ run, policy.isStandalone leaf.toPiece = false) :
    policy.standaloneLeaves (run ++ leaves) = policy.standaloneLeaves leaves := by
  have hrun : (run.filter fun leaf => policy.isStandalone leaf.toPiece) = [] := by
    rw [List.filter_eq_nil_iff]
    intro leaf hleaf
    rw [joinable leaf hleaf]
    exact Bool.false_ne_true
  unfold standaloneLeaves
  rw [List.filter_append, hrun, List.nil_append]

theorem ne_nil_of_mem_leaves {boundaries : List Boundary} {text : Text} {leaf : Leaf}
    (h : leaf ∈ policy.leaves boundaries text) (alone : policy.isStandalone leaf.toPiece = true) :
    leaf.text ≠ [] := by
  induction boundaries generalizing text leaf with
  | nil =>
      rw [leaves, List.mem_singleton] at h
      rw [h] at alone
      cases alone
  | cons boundary finer ih =>
      rw [leaves, List.mem_flatMap] at h
      obtain ⟨piece, hpiece, hleaf⟩ := h
      unfold leavesOf at hleaf
      split at hleaf
      · rw [List.mem_singleton] at hleaf
        subst hleaf
        have hmarked := boundary.marked_divide text piece hpiece
        obtain ⟨kind, -, hkind⟩ := isStandalone_eq_true_iff.1 alone
        exact hmarked.ne_nil_of_kind hkind
      · obtain ⟨inner, hinner, rfl⟩ := List.mem_map.1 hleaf
        have htext := ih hinner alone
        exact htext

theorem standaloneLeaves_withText (boundaries : List Boundary) (text : Text) :
    policy.standaloneLeaves (Leaf.withText (policy.leaves boundaries text)) =
      policy.standaloneLeaves (policy.leaves boundaries text) := by
  unfold standaloneLeaves Leaf.withText
  rw [List.filter_filter]
  apply List.filter_congr
  intro leaf hleaf
  cases alone : policy.isStandalone leaf.toPiece with
  | false => rfl
  | true =>
      have htext := ne_nil_of_mem_leaves hleaf alone
      simpa using htext

/-! ## The chunks of one leaf -/

/--
The chunks are one standalone leaf: the leaf itself if it fits, and else its slices in order,
each but the first linked to the one before it.
-/
structure Isolates (policy : Policy) (leaf : Leaf) (group : List Chunk) : Prop where
  text_eq : group.flatMap (·.text) = leaf.text
  whole : leaf.length ≤ policy.budget.maxSize →
    ∃ chunk, group = [chunk] ∧ chunk.text = leaf.text ∧ chunk.get? Metadata.previousKey = none
  length_eq : group.length = (leaf.length + policy.budget.maxSize - 1) / policy.budget.maxSize
  full : ∀ i (h : i + 1 < group.length), group[i].length = policy.budget.maxSize
  unlinked : ∀ h : 0 < group.length, group[0].get? Metadata.previousKey = none
  linked : ∀ i (h : i + 1 < group.length),
    group[i + 1].get? Metadata.previousKey = some (Text.decimal group[i].id)
  keeps : ∀ chunk ∈ group, ∀ key value, leaf.get? key = some value → chunk.get? key = some value

namespace Cuts

variable {leaf : Leaf} {group : List Chunk}

theorem text_getElem (h : policy.Cuts leaf group) {i : Nat} (hi : i < group.length) :
    i * policy.budget.maxSize < leaf.length ∧
      group[i].text =
        (leaf.text.drop (i * policy.budget.maxSize)).take policy.budget.maxSize := by
  have hslice := congrArg (·[i]?) h.texts_eq
  simp only [List.getElem?_map, List.getElem?_eq_getElem hi, Option.map_some,
    Text.getElem?_slices] at hslice
  split at hslice
  · next hlt => exact ⟨hlt, Option.some.inj hslice⟩
  · cases hslice

theorem eq_singleton (h : policy.Cuts leaf group) (fits : leaf.length ≤ policy.budget.maxSize) :
    ∃ chunk, group = [chunk] ∧ chunk.text = leaf.text ∧
      chunk.get? Metadata.previousKey = none := by
  have htexts := h.texts_eq
  rw [Text.slices_of_ne_nil _ h.ne_nil, List.take_of_length_le fits, List.drop_of_length_le fits,
    Text.slices_nil, List.map_eq_singleton_iff] at htexts
  obtain ⟨chunk, rfl, htext⟩ := htexts
  exact ⟨chunk, rfl, htext, h.linked.1⟩

theorem isolates (h : policy.Cuts leaf group) : policy.Isolates leaf group := by
  have hlength := congrArg List.length h.texts_eq
  rw [List.length_map, Text.length_slices] at hlength
  refine ⟨h.flatMap_text, h.eq_singleton, hlength, ?_, h.linked.first,
    fun i hi => h.linked.next hi, h.keeps⟩
  intro i hi
  obtain ⟨hlt, -⟩ := h.text_getElem hi
  obtain ⟨-, htext⟩ := h.text_getElem (Nat.lt_of_succ_lt hi)
  rw [Nat.succ_mul] at hlt
  unfold Piece.length at hlt ⊢
  rw [htext, List.length_take, List.length_drop]
  omega

end Cuts

/-! ## All chunks -/

theorem Arranged.exists_groups {limit : Nat} {lent : Text} {leaves : List Leaf}
    {chunks : List Chunk} (h : Arranged policy limit lent leaves chunks) :
    ∃ groups : List (Leaf × List Chunk),
      groups.map (·.1) = policy.standaloneLeaves leaves ∧
      (∀ group ∈ groups, policy.Isolates group.1 group.2 ∧ group.2 <:+: chunks) ∧
      (chunks.filter fun chunk => policy.isStandalone chunk.toPiece) = groups.flatMap (·.2) ∧
      ∀ chunk ∈ chunks, policy.isStandalone chunk.toPiece = false →
        chunk.get? Metadata.previousKey = none := by
  induction h with
  | nil => exact ⟨[], rfl, by simp, rfl, by simp⟩
  | @joined _ borrowed run chunk leaves chunks _ joins _ ih =>
      obtain ⟨groups, hleaves, hgroups, hfilter, hunlinked⟩ := ih
      refine ⟨groups, ?_, ?_, ?_, ?_⟩
      · rw [hleaves, standaloneLeaves_append_of_joinable joins.leaf_joinable]
      · intro group hgroup
        obtain ⟨hisolates, hinfix⟩ := hgroups group hgroup
        exact ⟨hisolates, hinfix.trans (List.suffix_cons chunk chunks).isInfix⟩
      · rw [List.filter_cons_of_neg, hfilter]
        rw [joins.joinable]
        exact Bool.false_ne_true
      · intro other hother hjoinable
        rcases List.mem_cons.1 hother with rfl | hother
        · exact joins.unlinked
        · exact hunlinked other hother hjoinable
  | @standalone _ leaf group leaves chunks cuts _ ih =>
      obtain ⟨groups, hleaves, hgroups, hfilter, hunlinked⟩ := ih
      refine ⟨(leaf, group) :: groups, ?_, ?_, ?_, ?_⟩
      · rw [List.map_cons, hleaves, standaloneLeaves_cons cuts.alone]
      · intro other hother
        rcases List.mem_cons.1 hother with rfl | hother
        · exact ⟨cuts.isolates, (List.prefix_append group chunks).isInfix⟩
        · obtain ⟨hisolates, hinfix⟩ := hgroups other hother
          exact ⟨hisolates, hinfix.trans (List.suffix_append group chunks).isInfix⟩
      · have hgroup : (group.filter fun chunk => policy.isStandalone chunk.toPiece) = group := by
          rw [List.filter_eq_self]
          exact fun chunk hchunk => cuts.isStandalone_of_mem hchunk
        rw [List.filter_append, hgroup, hfilter, List.flatMap_cons]
      · intro other hother hjoinable
        rcases List.mem_append.1 hother with hother | hother
        · rw [cuts.isStandalone_of_mem hother] at hjoinable
          cases hjoinable
        · exact hunlinked other hother hjoinable

variable {cascade : Cascade} {text : Text} {chunks : List Chunk}

theorem get?_id_of_mem_chunk {chunk : Chunk} (h : policy.chunk cascade text = .ok chunks)
    (mem : chunk ∈ chunks) : chunk.get? Metadata.idKey = some (Text.decimal chunk.id) := by
  rcases chunk_eq_ok h with ⟨-, rfl⟩ | ⟨assembled, last, -, rfl⟩
  · cases mem
  · obtain ⟨i, hi, rfl⟩ := List.mem_mapIdx.1 mem
    exact get?_stamp_id assembled[i] i

/--
The standalone chunks are the standalone leaves in order, each whole or in slices that lie next
to each other and are linked by their numbers.  No other chunk is linked.
-/
structure SetsApart (policy : Policy) (leaves : List Leaf) (groups : List (Leaf × List Chunk))
    (chunks : List Chunk) : Prop where
  leaves_eq : groups.map (·.1) = policy.standaloneLeaves leaves
  isolates : ∀ group ∈ groups, policy.Isolates group.1 group.2 ∧ group.2 <:+: chunks
  filter_eq : (chunks.filter fun chunk => policy.isStandalone chunk.toPiece) =
    groups.flatMap (·.2)
  unlinked : ∀ chunk ∈ chunks, policy.isStandalone chunk.toPiece = false →
    chunk.get? Metadata.previousKey = none
  id_eq : ∀ chunk ∈ chunks, chunk.get? Metadata.idKey = some (Text.decimal chunk.id)

theorem chunk_isolates_standalone (h : policy.chunk cascade text = .ok chunks) :
    ∃ groups, policy.SetsApart (policy.leaves cascade.boundaries text) groups chunks := by
  obtain ⟨groups, hleaves, hgroups, hfilter, hunlinked⟩ := (arranged_of_chunk h).exists_groups
  rw [standaloneLeaves_withText] at hleaves
  exact ⟨groups, hleaves, hgroups, hfilter, hunlinked, fun chunk => get?_id_of_mem_chunk h⟩

theorem chunk_isolates_standalone_blockAmongWords :
    ∃ chunks, fencedWords.policy.chunk fencedWords.cascade blockAmongWords = .ok chunks ∧
      ∃ groups, fencedWords.policy.SetsApart
        (fencedWords.policy.leaves fencedWords.cascade.boundaries blockAmongWords) groups
        chunks := by
  obtain ⟨chunks, hchunks, -⟩ := exists_chunk_blockAmongWords
  exact ⟨chunks, hchunks, chunk_isolates_standalone hchunks⟩

end Chunking.Policy
