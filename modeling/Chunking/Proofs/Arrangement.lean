import Chunking.Proofs.Fragments
import Chunking.Proofs.Knowledge

/-!
# Arrangements

How chunks lie over the leaves of a text.  A chunk holds some leaves in a row, behind
text borrowed from the chunk before it, or a slice of one standalone leaf.  Packing and
stitching turn arrangements into arrangements; the limits, the text and the isolation
of standalone leaves are read off them.
-/

namespace Chunking

/-- No key of finished chunks has a value. -/
def Piece.IsBare (piece : Piece) : Prop :=
  piece.get? Metadata.previousKey = none ∧ piece.get? Metadata.idKey = none ∧
    piece.get? Metadata.indexKey = none

namespace Policy

/-- The piece holds the run of leaves behind the borrowed text, and nothing else. -/
structure Joins (policy : Policy) (borrowed : Text) (run : List Leaf) (piece : Piece) : Prop where
  text_eq : piece.text = borrowed ++ Leaf.joined run
  joinable : policy.isStandalone piece = false
  unlinked : piece.get? Metadata.previousKey = none
  length_le : piece.length ≤ policy.budget.maxSize
  leaf_joinable : ∀ leaf ∈ run, policy.isStandalone leaf.toPiece = false
  leaf_ne_nil : ∀ leaf ∈ run, leaf.text ≠ []
  tells : Tells borrowed.length run piece

/-- The chunks are the slices of the standalone leaf, linked in order, with its metadata. -/
structure Cuts (policy : Policy) (leaf : Leaf) (group : List Chunk) : Prop where
  alone : policy.isStandalone leaf.toPiece = true
  ne_nil : leaf.text ≠ []
  bare : leaf.toPiece.IsBare
  texts_eq : group.map (·.text) =
    Text.slices policy.budget.maxSize policy.budget.size_pos leaf.text
  linked : Chunk.Linked none group
  keeps : ∀ chunk ∈ group, ∀ key value, leaf.get? key = some value → chunk.get? key = some value
  tells : ∀ chunk ∈ group, Tells 0 [leaf] chunk.toPiece

/-- A chunk with the given run of leaves may borrow the text from the end of `lent`. -/
structure Borrows (limit : Nat) (lent borrowed : Text) (run : List Leaf) : Prop where
  suffix : borrowed <:+ lent
  le : borrowed.length ≤ limit
  fresh : borrowed ≠ [] → run ≠ []

/--
The chunks hold the leaves in order, and at most `limit` characters are borrowed at a
seam.  The first chunk may borrow from the end of `lent`; nothing is borrowed from or for
a slice of a standalone leaf.
-/
inductive Arranged (policy : Policy) (limit : Nat) : Text → List Leaf → List Chunk → Prop
  | nil {lent} : Arranged policy limit lent [] []
  | joined {lent borrowed run chunk leaves chunks}
      (borrows : Borrows limit lent borrowed run)
      (joins : policy.Joins borrowed run chunk.toPiece)
      (later : Arranged policy limit chunk.text leaves chunks) :
      Arranged policy limit lent (run ++ leaves) (chunk :: chunks)
  | standalone {lent leaf group leaves chunks}
      (cuts : policy.Cuts leaf group) (later : Arranged policy limit [] leaves chunks) :
      Arranged policy limit lent (leaf :: leaves) (group ++ chunks)

variable {policy : Policy} {limit : Nat}

/-! ## Chunks that hold a run of leaves -/

theorem isStandalone_eq_true_iff {piece : Piece} :
    policy.isStandalone piece = true ↔
      ∃ kind ∈ policy.standalone, piece.get? Metadata.kindKey = some kind := by
  unfold isStandalone
  cases piece.get? Metadata.kindKey <;> simp

/-- A piece that has its kind from a piece that may be joined may be joined too. -/
theorem isStandalone_eq_false_of_get? {piece other : Piece}
    (joinable : policy.isStandalone other = false)
    (h : ∀ kind, piece.get? Metadata.kindKey = some kind →
      other.get? Metadata.kindKey = some kind) :
    policy.isStandalone piece = false := by
  rw [Bool.eq_false_iff] at joinable ⊢
  intro alone
  obtain ⟨kind, hmem, hkind⟩ := isStandalone_eq_true_iff.1 alone
  exact joinable (isStandalone_eq_true_iff.2 ⟨kind, hmem, h kind hkind⟩)

theorem isStandalone_join {first second : Piece} (hfirst : policy.isStandalone first = false)
    (hsecond : policy.isStandalone second = false) :
    policy.isStandalone (first.join second) = false := by
  rw [Bool.eq_false_iff] at hfirst hsecond ⊢
  intro alone
  obtain ⟨kind, hmem, hkind⟩ := isStandalone_eq_true_iff.1 alone
  rcases Piece.get?_join hkind with hkind | hkind
  · exact hfirst (isStandalone_eq_true_iff.2 ⟨kind, hmem, hkind⟩)
  · exact hsecond (isStandalone_eq_true_iff.2 ⟨kind, hmem, hkind⟩)

theorem get?_join_eq_none {first second : Piece} {key : String} (hfirst : first.get? key = none)
    (hsecond : second.get? key = none) : (first.join second).get? key = none := by
  cases h : (first.join second).get? key with
  | none => rfl
  | some value =>
      rcases Piece.get?_join h with h | h
      · rw [hfirst] at h
        cases h
      · rw [hsecond] at h
        cases h

namespace Joins

variable {borrowed : Text} {run more : List Leaf} {piece other : Piece}

theorem of_leaf (joinable : policy.isStandalone piece = false)
    (unlinked : piece.get? Metadata.previousKey = none)
    (length_le : piece.length ≤ policy.budget.maxSize) :
    policy.Joins [] (Leaf.withText [.ofPiece piece]) piece where
  text_eq := by
    rw [Leaf.joined_withText]
    simp
  joinable := joinable
  unlinked := unlinked
  length_le := length_le
  leaf_joinable := by
    intro leaf hleaf
    have hmem := (List.mem_filter.1 hleaf).1
    rw [List.mem_singleton] at hmem
    rw [hmem]
    exact joinable
  leaf_ne_nil := fun leaf hleaf => Leaf.ne_nil_of_mem_withText hleaf
  tells := by
    by_cases htext : piece.text = []
    · rw [Leaf.withText_eq_nil (by simp [htext])]
      exact .nil _ piece
    · rw [Leaf.withText_singleton htext]
      exact .of_leaf piece

theorem text_eq_nil_iff (h : policy.Joins borrowed run piece) :
    piece.text = [] ↔ borrowed.length = 0 ∧ run = [] := by
  rw [h.text_eq, List.append_eq_nil_iff, List.length_eq_zero_iff]
  refine and_congr_right fun _ => ⟨fun hjoined => ?_, fun hrun => by rw [hrun, Leaf.joined_nil]⟩
  cases run with
  | nil => rfl
  | cons leaf run =>
      have hleaf := h.leaf_ne_nil leaf List.mem_cons_self
      exact absurd (List.append_eq_nil_iff.1 hjoined).1 hleaf

theorem run_eq_nil (h : policy.Joins borrowed run piece) (hnil : piece.text = []) : run = [] :=
  (h.text_eq_nil_iff.1 hnil).2

theorem join (h : policy.Joins borrowed run piece) (hmore : policy.Joins [] more other)
    (room : piece.length + other.length ≤ policy.budget.maxSize) :
    policy.Joins borrowed (run ++ more) (piece.join other) where
  text_eq := by
    show piece.text ++ other.text = _
    rw [h.text_eq, hmore.text_eq]
    simp
  joinable := isStandalone_join h.joinable hmore.joinable
  unlinked := get?_join_eq_none h.unlinked hmore.unlinked
  length_le := by
    show (piece.text ++ other.text).length ≤ _
    rw [List.length_append]
    exact room
  leaf_joinable := by
    intro leaf hleaf
    rcases List.mem_append.1 hleaf with hleaf | hleaf
    · exact h.leaf_joinable leaf hleaf
    · exact hmore.leaf_joinable leaf hleaf
  leaf_ne_nil := by
    intro leaf hleaf
    rcases List.mem_append.1 hleaf with hleaf | hleaf
    · exact h.leaf_ne_nil leaf hleaf
    · exact hmore.leaf_ne_nil leaf hleaf
  tells := h.tells.join hmore.tells h.text_eq_nil_iff
    (hmore.text_eq_nil_iff.trans (and_iff_right rfl))

theorem borrow (h : policy.Joins [] run piece) (hpiece : piece.text ≠ []) (hother : other.text ≠ [])
    (room : other.length + piece.length ≤ policy.budget.maxSize) :
    policy.Joins other.text run (other.join piece) where
  text_eq := by
    show other.text ++ piece.text = _
    rw [h.text_eq, List.nil_append]
  joinable := isStandalone_eq_false_of_get? h.joinable fun kind hkind =>
    ((Piece.get?_join_of_text hother hpiece).1 hkind).2
  unlinked := by
    cases hkey : (other.join piece).get? Metadata.previousKey with
    | none => rfl
    | some value =>
        have hprevious := ((Piece.get?_join_of_text hother hpiece).1 hkey).2
        rw [h.unlinked] at hprevious
        cases hprevious
  length_le := by
    show (other.text ++ piece.text).length ≤ _
    rw [List.length_append]
    exact room
  leaf_joinable := h.leaf_joinable
  leaf_ne_nil := h.leaf_ne_nil
  tells := h.tells.borrow hpiece hother

end Joins

theorem Cuts.group_ne_nil {leaf : Leaf} {group : List Chunk} (h : policy.Cuts leaf group) :
    group ≠ [] := by
  rintro rfl
  have htexts := h.texts_eq
  rw [Text.slices_of_ne_nil _ h.ne_nil] at htexts
  cases htexts

theorem Cuts.flatMap_text {leaf : Leaf} {group : List Chunk} (h : policy.Cuts leaf group) :
    group.flatMap (·.text) = leaf.text := by
  rw [List.flatMap_def, h.texts_eq, Text.flatten_slices]

theorem Cuts.mem_slices {leaf : Leaf} {group : List Chunk} {chunk : Chunk}
    (h : policy.Cuts leaf group) (mem : chunk ∈ group) :
    chunk.text ∈ Text.slices policy.budget.maxSize policy.budget.size_pos leaf.text := by
  rw [← h.texts_eq]
  exact List.mem_map_of_mem mem

theorem Cuts.ne_nil_of_mem {leaf : Leaf} {group : List Chunk} {chunk : Chunk}
    (h : policy.Cuts leaf group) (mem : chunk ∈ group) : chunk.text ≠ [] :=
  Text.ne_nil_of_mem_slices (h.mem_slices mem)

namespace Borrows

variable {lent longer borrowed : Text} {run : List Leaf}

theorem nothing : Borrows limit lent [] run :=
  ⟨List.nil_suffix, Nat.zero_le limit, fun hne => absurd rfl hne⟩

theorem eq_nil (h : Borrows 0 lent borrowed run) : borrowed = [] :=
  List.eq_nil_of_length_eq_zero (Nat.le_zero.1 h.le)

theorem lengthen (h : Borrows limit lent borrowed run) (suffix : lent <:+ longer) :
    Borrows limit longer borrowed run :=
  ⟨h.suffix.trans suffix, h.le, h.fresh⟩

theorem append (h : Borrows limit lent borrowed run) (more : List Leaf) :
    Borrows limit lent borrowed (run ++ more) := by
  refine ⟨h.suffix, h.le, ?_⟩
  intro hborrowed hnil
  exact h.fresh hborrowed (List.append_eq_nil_iff.1 hnil).1

end Borrows

/-! ## Arrangements as lists -/

namespace Arranged

variable {lent : Text} {leaves more : List Leaf} {chunks later : List Chunk}

/-- What may borrow from a text may borrow from a longer one that ends in it. -/
theorem lengthen {longer : Text} (h : Arranged policy limit lent leaves chunks)
    (suffix : lent <:+ longer) : Arranged policy limit longer leaves chunks := by
  cases h with
  | nil => exact .nil
  | joined borrows joins later => exact .joined (borrows.lengthen suffix) joins later
  | standalone cuts later => exact .standalone cuts later

theorem append (h : Arranged policy limit lent leaves chunks)
    (hlater : Arranged policy limit [] more later) :
    Arranged policy limit lent (leaves ++ more) (chunks ++ later) := by
  induction h with
  | nil => exact hlater.lengthen List.nil_suffix
  | joined borrows joins _ ih =>
      rw [List.append_assoc]
      exact .joined borrows joins ih
  | standalone cuts _ ih =>
      rw [List.append_assoc]
      exact .standalone cuts ih

theorem leaves_eq_nil (h : Arranged policy limit lent leaves []) : leaves = [] := by
  generalize hchunks : ([] : List Chunk) = chunks at h
  cases h with
  | nil => rfl
  | joined => cases hchunks
  | standalone cuts _ =>
      exact absurd (List.append_eq_nil_iff.1 hchunks.symm).1 cuts.group_ne_nil

theorem flatMap_text (h : Arranged policy 0 lent leaves chunks) :
    chunks.flatMap (·.text) = Leaf.joined leaves := by
  induction h with
  | nil => rfl
  | joined borrows joins _ ih =>
      rw [List.flatMap_cons, ih, joins.text_eq, borrows.eq_nil]
      simp
  | standalone cuts _ ih =>
      rw [List.flatMap_append, ih, cuts.flatMap_text, Leaf.joined_cons]

theorem length_le (h : Arranged policy limit lent leaves chunks) :
    ∀ chunk ∈ chunks, chunk.length ≤ policy.budget.maxSize := by
  induction h with
  | nil =>
      intro chunk hchunk
      cases hchunk
  | joined _ joins _ ih =>
      intro chunk hchunk
      rcases List.mem_cons.1 hchunk with rfl | hchunk
      · exact joins.length_le
      · exact ih chunk hchunk
  | standalone cuts _ ih =>
      intro chunk hchunk
      rcases List.mem_append.1 hchunk with hchunk | hchunk
      · exact Text.length_le_of_mem_slices (cuts.mem_slices hchunk)
      · exact ih chunk hchunk

theorem dropEmpty (h : Arranged policy limit lent leaves chunks) :
    Arranged policy limit lent leaves (chunks.filter fun chunk => !chunk.text.isEmpty) := by
  induction h with
  | nil => exact .nil
  | @joined _ borrowed run chunk _ _ borrows joins _ ih =>
      rw [List.filter_cons]
      cases htext : chunk.text with
      | nil =>
          rw [htext] at ih
          rw [joins.run_eq_nil htext]
          exact ih.lengthen List.nil_suffix
      | cons c rest => exact .joined borrows joins ih
  | @standalone _ leaf group _ _ cuts _ ih =>
      have hgroup : (group.filter fun chunk => !chunk.text.isEmpty) = group := by
        rw [List.filter_eq_self]
        intro chunk hchunk
        simpa using cuts.ne_nil_of_mem hchunk
      rw [List.filter_append, hgroup]
      exact .standalone cuts ih

end Arranged

/-! ## Chunks about which more becomes known -/

/-- The second chunk is the first one with the metadata of its surroundings under its own. -/
structure Enriches (policy : Policy) (surroundings : Piece) (chunk richer : Chunk) : Prop where
  text_eq : richer.text = chunk.text
  id_eq : richer.id = chunk.id
  joinable : policy.isStandalone chunk.toPiece = false →
    policy.isStandalone richer.toPiece = false
  previous_eq : richer.get? Metadata.previousKey = chunk.get? Metadata.previousKey
  get?_eq : ∀ key, key ≠ Metadata.idKey → key ≠ Metadata.indexKey →
    richer.get? key = (chunk.get? key).or (surroundings.get? key)

theorem Enriches.keeps {surroundings : Piece} {chunk richer : Chunk} {key value : String}
    (h : policy.Enriches surroundings chunk richer) (hid : key ≠ Metadata.idKey)
    (hindex : key ≠ Metadata.indexKey) (hvalue : chunk.get? key = some value) :
    richer.get? key = some value := by
  rw [h.get?_eq key hid hindex, hvalue, Option.some_or]

theorem Enriches.tells {surroundings : Piece} {chunk richer : Chunk} {g : Leaf → Leaf}
    {repeated : Nat} {run : List Leaf} (h : policy.Enriches surroundings chunk richer)
    (hg : Leaf.Surrounds surroundings g) (htells : Tells repeated run chunk.toPiece) :
    Tells repeated (run.map g) richer.toPiece :=
  htells.surround hg fun key hkey => h.get?_eq key hkey.2.1 hkey.2.2

theorem enriches_inherit {surroundings : Piece}
    (joinable : policy.isStandalone surroundings = false)
    (unlinked : surroundings.get? Metadata.previousKey = none) (chunk : Chunk) :
    policy.Enriches surroundings chunk (chunk.inherit surroundings.metadata) := by
  have hget : ∀ key, (chunk.inherit surroundings.metadata).get? key =
      (chunk.get? key).or (surroundings.get? key) :=
    Metadata.get?_inherit chunk.metadata surroundings.metadata
  refine ⟨rfl, rfl, ?_, ?_, fun key _ _ => hget key⟩
  · intro hchunk
    rw [Bool.eq_false_iff] at hchunk joinable ⊢
    intro alone
    obtain ⟨kind, hmem, hkind⟩ := isStandalone_eq_true_iff.1 alone
    rw [hget] at hkind
    rcases Option.or_eq_some_iff.1 hkind with hkind | ⟨-, hkind⟩
    · exact hchunk (isStandalone_eq_true_iff.2 ⟨kind, hmem, hkind⟩)
    · exact joinable (isStandalone_eq_true_iff.2 ⟨kind, hmem, hkind⟩)
  · rw [hget, unlinked, Option.or_none]

theorem get?_stamp (chunk : Chunk) (index : Nat) {key : String} (hid : key ≠ Metadata.idKey)
    (hindex : key ≠ Metadata.indexKey) : (chunk.stamp index).get? key = chunk.get? key := by
  have hget := Metadata.get?_insert
  unfold Chunk.stamp Piece.get?
  dsimp only
  rw [hget, hget, if_neg hindex, if_neg hid]

theorem get?_stamp_id (chunk : Chunk) (index : Nat) :
    (chunk.stamp index).get? Metadata.idKey = some (Text.decimal chunk.id) := by
  have hget := Metadata.get?_insert
  have hkeys : Metadata.idKey ≠ Metadata.indexKey := by decide
  unfold Chunk.stamp Piece.get?
  dsimp only
  rw [hget, hget, if_neg hkeys, if_pos rfl]

theorem get?_stamp_index (chunk : Chunk) (index : Nat) :
    (chunk.stamp index).get? Metadata.indexKey = some (Text.decimal index) := by
  unfold Chunk.stamp Piece.get?
  dsimp only
  rw [Metadata.get?_insert, if_pos rfl]

theorem enriches_stamp (index : Nat) (chunk : Chunk) :
    policy.Enriches { text := [] } chunk (chunk.stamp index) := by
  refine ⟨rfl, rfl, ?_, get?_stamp chunk index (by decide) (by decide), ?_⟩
  · intro hchunk
    refine isStandalone_eq_false_of_get? hchunk fun kind hkind => ?_
    rwa [get?_stamp chunk index (by decide) (by decide)] at hkind
  · intro key hid hindex
    rw [get?_stamp chunk index hid hindex]
    exact (Option.or_none).symm

variable {surroundings : Piece} {g : Leaf → Leaf}

theorem Joins.enrich {borrowed : Text} {run : List Leaf} {chunk richer : Chunk}
    (hg : Leaf.Surrounds surroundings g) (h : policy.Joins borrowed run chunk.toPiece)
    (more : policy.Enriches surroundings chunk richer) :
    policy.Joins borrowed (run.map g) richer.toPiece where
  text_eq := by
    have hjoined : Leaf.joined (run.map g) = Leaf.joined run := by
      unfold Leaf.joined
      rw [List.flatMap_map]
      simp only [hg.toPiece_eq]
    rw [more.text_eq, h.text_eq, hjoined]
  joinable := more.joinable h.joinable
  unlinked := more.previous_eq.trans h.unlinked
  length_le := by
    unfold Piece.length
    rw [more.text_eq]
    exact h.length_le
  leaf_joinable := by
    simpa only [List.forall_mem_map, hg.toPiece_eq] using h.leaf_joinable
  leaf_ne_nil := by
    simpa only [List.forall_mem_map, hg.toPiece_eq] using h.leaf_ne_nil
  tells := more.tells hg h.tells

theorem linked_mapIdx {f : Nat → Chunk → Chunk}
    (hf : ∀ i chunk, policy.Enriches surroundings chunk (f i chunk)) {previous : Option Nat}
    {group : List Chunk} (h : Chunk.Linked previous group) :
    Chunk.Linked previous (group.mapIdx f) := by
  induction group generalizing previous f with
  | nil => trivial
  | cons chunk group ih =>
      rw [List.mapIdx_cons]
      have hchunk := hf 0 chunk
      have hrest := ih (fun i chunk => hf (i + 1) chunk) h.2
      refine ⟨hchunk.previous_eq.trans h.1, ?_⟩
      rwa [hchunk.id_eq]

theorem Cuts.enrich {leaf : Leaf} {group : List Chunk} {f : Nat → Chunk → Chunk}
    (hg : Leaf.Surrounds surroundings g)
    (hf : ∀ i chunk, policy.Enriches surroundings chunk (f i chunk)) (h : policy.Cuts leaf group) :
    policy.Cuts (g leaf) (group.mapIdx f) where
  alone := by
    rw [hg.toPiece_eq]
    exact h.alone
  ne_nil := by
    rw [hg.toPiece_eq]
    exact h.ne_nil
  bare := by
    rw [hg.toPiece_eq]
    exact h.bare
  texts_eq := by
    rw [hg.toPiece_eq, ← h.texts_eq]
    apply List.ext_getElem?
    intro i
    cases hchunk : group[i]? with
    | none => simp [hchunk]
    | some chunk => simp [hchunk, (hf i chunk).text_eq]
  linked := linked_mapIdx hf h.linked
  keeps := by
    intro richer hricher key value hvalue
    obtain ⟨i, hi, rfl⟩ := List.mem_mapIdx.1 hricher
    rw [hg.toPiece_eq] at hvalue
    have hid : key ≠ Metadata.idKey := by
      rintro rfl
      rw [h.bare.2.1] at hvalue
      cases hvalue
    have hindex : key ≠ Metadata.indexKey := by
      rintro rfl
      rw [h.bare.2.2] at hvalue
      cases hvalue
    exact (hf i _).keeps hid hindex (h.keeps _ (List.getElem_mem hi) key value hvalue)
  tells := by
    intro richer hricher
    obtain ⟨i, hi, rfl⟩ := List.mem_mapIdx.1 hricher
    exact (hf i _).tells hg (h.tells _ (List.getElem_mem hi))

theorem Arranged.enrich {lent : Text} {leaves : List Leaf} {chunks : List Chunk}
    {f : Nat → Chunk → Chunk} (hg : Leaf.Surrounds surroundings g)
    (hf : ∀ i chunk, policy.Enriches surroundings chunk (f i chunk))
    (h : Arranged policy limit lent leaves chunks) :
    Arranged policy limit lent (leaves.map g) (chunks.mapIdx f) := by
  induction h generalizing f with
  | nil => exact .nil
  | joined borrows joins _ ih =>
      rw [List.map_append, List.mapIdx_cons]
      have hrest := ih fun i chunk => hf (i + 1) chunk
      rw [← (hf 0 _).text_eq] at hrest
      refine .joined ⟨borrows.suffix, borrows.le, ?_⟩ (joins.enrich hg (hf 0 _)) hrest
      intro hborrowed hnil
      exact borrows.fresh hborrowed (List.map_eq_nil_iff.1 hnil)
  | standalone cuts _ ih =>
      rw [List.map_cons, List.mapIdx_append]
      exact .standalone (cuts.enrich hg hf) (ih fun i chunk => hf (i + _) chunk)

theorem Arranged.settled {lent : Text} {leaves : List Leaf} {chunks : List Chunk}
    (hg : Leaf.Surrounds surroundings g)
    (joinable : policy.isStandalone surroundings = false)
    (unlinked : surroundings.get? Metadata.previousKey = none)
    (h : Arranged policy limit lent leaves chunks) :
    Arranged policy limit lent (leaves.map g)
      (Policy.settled surroundings.metadata chunks) := by
  have hmap : (chunks.map fun chunk => chunk.inherit surroundings.metadata) =
      chunks.mapIdx fun _ chunk => chunk.inherit surroundings.metadata := by
    rw [eq_comm, List.mapIdx_eq_iff]
    intro i
    rw [List.getElem?_map]
  unfold Policy.settled
  rw [hmap]
  exact (h.enrich hg fun _ => enriches_inherit joinable unlinked).dropEmpty

end Policy

end Chunking
