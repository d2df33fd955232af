import Chunking.Proofs.Layout

/-!
# Stretches

What a chunk adds to the chunks before it.  It is a run of leaves, or one slice of a long
standalone leaf.  Read from the first chunk to the last, the stretches lie one behind the
other, so they give a layout.
-/

namespace Chunking

/-! ## Places of leaves -/

namespace Leaf

theorem eq_of_overlap {before after first rest : List Leaf} {leaf other : Leaf}
    (split : before ++ leaf :: after = first ++ other :: rest)
    (start_lt : (joined before).length < (joined first).length + other.length)
    (lt_stop : (joined first).length < (joined before).length + leaf.length) :
    before = first ∧ leaf = other := by
  unfold Piece.length at start_lt lt_stop
  rcases List.append_eq_append_iff.1 split with ⟨between, rfl, hrest⟩ | ⟨between, rfl, hrest⟩
  · cases between with
    | nil =>
        rw [List.nil_append, List.cons.injEq] at hrest
        rw [List.append_nil]
        exact ⟨rfl, hrest.1⟩
    | cons head between =>
        rw [List.cons_append, List.cons.injEq] at hrest
        rw [← hrest.1, joined_append, joined_cons, List.length_append,
          List.length_append] at lt_stop
        omega
  · cases between with
    | nil =>
        rw [List.nil_append, List.cons.injEq] at hrest
        rw [List.append_nil]
        exact ⟨rfl, hrest.1.symm⟩
    | cons head between =>
        rw [List.cons_append, List.cons.injEq] at hrest
        rw [← hrest.1, joined_append, joined_cons, List.length_append,
          List.length_append] at start_lt
        omega

theorem exists_leaf_at {run : List Leaf} {offset : Nat} (h : offset < (joined run).length) :
    ∃ before leaf after, run = before ++ leaf :: after ∧ (joined before).length ≤ offset ∧
      offset < (joined before).length + leaf.length := by
  induction run generalizing offset with
  | nil => cases h
  | cons leaf run ih =>
      rw [joined_cons, List.length_append] at h
      by_cases hleaf : offset < leaf.length
      · exact ⟨[], leaf, run, rfl, Nat.zero_le _, by simpa using hleaf⟩
      · unfold Piece.length at hleaf
        have hrest : offset - leaf.text.length < (joined run).length := by omega
        obtain ⟨before, other, after, rfl, hle, hlt⟩ := ih hrest
        refine ⟨leaf :: before, other, after, rfl, ?_, ?_⟩
        · rw [joined_cons, List.length_append]
          omega
        · rw [joined_cons, List.length_append]
          omega

/-! ## Leaves of a stretch -/

/-- The leaf has text, and lies between the two positions or around them. -/
def Meets (leaves : List Leaf) (start stop : Nat) (leaf : Leaf) : Prop :=
  leaf.text ≠ [] ∧ ∃ before after, leaves = before ++ leaf :: after ∧
    (start ≤ (joined before).length ∧ (joined before).length + leaf.length ≤ stop ∨
      (joined before).length ≤ start ∧ stop ≤ (joined before).length + leaf.length)

variable {leaves before after run : List Leaf} {leaf other : Leaf} {start stop : Nat}

theorem Meets.overlap (h : Meets leaves start stop leaf) (lt : start < stop) :
    ∃ before after, leaves = before ++ leaf :: after ∧ (joined before).length < stop ∧
      start < (joined before).length + leaf.length := by
  obtain ⟨hne, before, after, split, hplace⟩ := h
  have hpos : 0 < leaf.length := List.length_pos_iff.2 hne
  refine ⟨before, after, split, ?_, ?_⟩ <;> omega

theorem mem_run_of_meets (split : leaves = before ++ (run ++ after)) (lt : start < stop)
    (le_start : (joined before).length ≤ start)
    (stop_le : stop ≤ (joined before).length + (joined run).length)
    (h : Meets leaves start stop leaf) : leaf ∈ run := by
  have hleaf : 0 < leaf.length := List.length_pos_iff.2 h.1
  obtain ⟨first, rest, hfirst, hlt, hstop⟩ := h.overlap lt
  have hoffset : max (joined first).length start - (joined before).length <
      (joined run).length := by omega
  obtain ⟨init, other, tail, hrun, hle, hother⟩ := exists_leaf_at hoffset
  have hsplit : first ++ leaf :: rest = (before ++ init) ++ other :: (tail ++ after) := by
    rw [← hfirst, split, hrun]
    simp
  obtain ⟨-, rfl⟩ := eq_of_overlap hsplit
    (by rw [joined_append, List.length_append]; omega)
    (by rw [joined_append, List.length_append]; omega)
  rw [hrun]
  exact List.mem_append_right _ List.mem_cons_self

theorem mem_run_iff_meets (split : leaves = before ++ (run ++ after))
    (ne_nil : ∀ leaf ∈ run, leaf.text ≠ []) (text_ne_nil : joined run ≠ []) :
    leaf ∈ run ↔
      Meets leaves (joined before).length ((joined before).length + (joined run).length) leaf := by
  have hpos := List.length_pos_iff.2 text_ne_nil
  constructor
  · intro hleaf
    obtain ⟨first, rest, rfl⟩ := List.append_of_mem hleaf
    refine ⟨ne_nil leaf hleaf, before ++ first, rest ++ after, by simp [split], .inl ?_⟩
    simp only [joined_append, joined_cons, List.length_append, Piece.length]
    omega
  · exact mem_run_of_meets split (Nat.lt_add_of_pos_right hpos) (Nat.le_refl _) (Nat.le_refl _)

theorem mem_singleton_iff_meets (split : leaves = before ++ leaf :: after) (lt : start < stop)
    (le_start : (joined before).length ≤ start)
    (stop_le : stop ≤ (joined before).length + leaf.length) :
    other ∈ [leaf] ↔ Meets leaves start stop other := by
  constructor
  · intro hother
    obtain rfl := List.mem_singleton.1 hother
    have hpos : 0 < other.length := by omega
    exact ⟨List.length_pos_iff.1 hpos, before, after, split, .inr ⟨le_start, stop_le⟩⟩
  · have hrun : leaves = before ++ ([leaf] ++ after) := split
    refine mem_run_of_meets hrun lt le_start ?_
    rwa [joined_cons, joined_nil, List.append_nil]

theorem meets_withText_iff :
    Meets (withText leaves) start stop leaf ↔ Meets leaves start stop leaf := by
  have hlength : ∀ leaves, (joined (withText leaves)).length = (joined leaves).length :=
    fun leaves => congrArg List.length (joined_withText leaves)
  constructor
  · rintro ⟨hne, before, after, split, hplace⟩
    obtain ⟨before, later, rfl, rfl, hlater⟩ := List.filter_eq_append_iff.1 split
    obtain ⟨empty, after, rfl, hempty, -, -⟩ := List.filter_eq_cons_iff.1 hlater
    have hnothing : joined empty = [] := by
      unfold joined
      rw [List.flatMap_eq_nil_iff]
      intro leaf hleaf
      simpa using hempty leaf hleaf
    have hbefore : (joined (before ++ empty)).length = (joined (withText before)).length := by
      rw [joined_append, hnothing, List.append_nil, hlength]
    exact ⟨hne, before ++ empty, after, by simp, by rwa [hbefore]⟩
  · rintro ⟨hne, before, after, rfl, hplace⟩
    refine ⟨hne, withText before, withText after, ?_, by rwa [hlength]⟩
    have hleaf : withText [leaf] = [leaf] := withText_singleton hne
    rw [← List.singleton_append, withText_append, withText_append, hleaf, List.singleton_append]

end Leaf

namespace Policy

variable {policy : Policy} {leaves : List Leaf} {start : Nat} {added : Text}

/-! ## What one chunk adds -/

/--
The text added at `start` is a run of whole leaves, or one slice of a standalone leaf that is
longer than a chunk may be.
-/
inductive Adds (policy : Policy) (leaves : List Leaf) (start : Nat) (added : Text) : Prop
  | run {before run after : List Leaf} (split : leaves = before ++ (run ++ after))
      (start_eq : start = (Leaf.joined before).length) (text_eq : added = Leaf.joined run)
  | slice {before after : List Leaf} {leaf : Leaf} {index : Nat}
      (split : leaves = before ++ leaf :: after) (alone : policy.isStandalone leaf.toPiece = true)
      (long : policy.budget.maxSize < leaf.length)
      (within : index * policy.budget.maxSize < leaf.length)
      (start_eq : start = (Leaf.joined before).length + index * policy.budget.maxSize)
      (text_eq : added =
        (leaf.text.drop (index * policy.budget.maxSize)).take policy.budget.maxSize)

namespace Adds

theorem of_slice {before after : List Leaf} {leaf : Leaf} {index : Nat}
    (split : leaves = before ++ leaf :: after) (alone : policy.isStandalone leaf.toPiece = true)
    (within : index * policy.budget.maxSize < leaf.length) :
    policy.Adds leaves ((Leaf.joined before).length + index * policy.budget.maxSize)
      ((leaf.text.drop (index * policy.budget.maxSize)).take policy.budget.maxSize) := by
  by_cases hfits : leaf.length ≤ policy.budget.maxSize
  · have hindex : index = 0 := by
      cases index with
      | zero => rfl
      | succ index =>
          rw [Nat.succ_mul] at within
          omega
    subst hindex
    have hrun : leaves = before ++ ([leaf] ++ after) := split
    refine .run hrun (by omega) ?_
    rw [Nat.zero_mul, List.drop_zero, List.take_of_length_le hfits, Leaf.joined_cons,
      Leaf.joined_nil, List.append_nil]
  · exact .slice split alone (by omega) within rfl rfl

theorem exists_joined_eq (h : policy.Adds leaves start added) :
    ∃ before after, before.length = start ∧ Leaf.joined leaves = before ++ (added ++ after) := by
  cases h with
  | @run before run after split start_eq text_eq =>
      refine ⟨Leaf.joined before, Leaf.joined after, start_eq.symm, ?_⟩
      rw [split, text_eq, Leaf.joined_append, Leaf.joined_append]
  | @slice before after leaf index split alone long within start_eq text_eq =>
      refine ⟨Leaf.joined before ++ leaf.text.take (index * policy.budget.maxSize),
        (leaf.text.drop (index * policy.budget.maxSize)).drop policy.budget.maxSize ++
          Leaf.joined after, ?_, ?_⟩
      · unfold Piece.length at within
        rw [List.length_append, List.length_take, start_eq]
        omega
      · rw [split, text_eq, Leaf.joined_append, Leaf.joined_cons, List.append_assoc,
          ← List.append_assoc (List.take _ (List.drop _ _)), List.take_append_drop,
          ← List.append_assoc (List.take _ _), List.take_append_drop]

theorem stop_not_inside (h : policy.Adds leaves start added) {first rest : List Leaf}
    {other : Leaf} (split : leaves = first ++ other :: rest)
    (fits : other.length ≤ policy.budget.maxSize)
    (start_lt : (Leaf.joined first).length < start + added.length) :
    (Leaf.joined first).length + other.length ≤ start + added.length := by
  rw [← Nat.not_lt]
  intro lt_stop
  cases h with
  | @run before run after hsplit start_eq text_eq =>
      have hstop : start + added.length = (Leaf.joined (before ++ run)).length := by
        rw [start_eq, text_eq, Leaf.joined_append, List.length_append]
      rw [hstop] at start_lt lt_stop
      cases after with
      | nil =>
          rw [List.append_nil] at hsplit
          rw [← hsplit, split, Leaf.joined_append, Leaf.joined_cons, List.length_append,
            List.length_append] at lt_stop
          unfold Piece.length at lt_stop
          omega
      | cons leaf after =>
          rw [← List.append_assoc, split] at hsplit
          obtain ⟨hfirst, -⟩ := Leaf.eq_of_overlap hsplit.symm lt_stop
            (Nat.lt_of_lt_of_le start_lt (Nat.le_add_right _ _))
          rw [hfirst] at start_lt
          exact Nat.lt_irrefl _ start_lt
  | @slice before after leaf index hsplit alone long within start_eq text_eq =>
      have hlength : added.length ≤ leaf.length - index * policy.budget.maxSize := by
        rw [text_eq, List.length_take, List.length_drop]
        exact Nat.min_le_right _ _
      rw [split] at hsplit
      have hafter : (Leaf.joined before).length ≤ start + added.length := by omega
      have hwithin : start + added.length ≤ (Leaf.joined before).length + leaf.length := by omega
      obtain ⟨-, rfl⟩ := Leaf.eq_of_overlap hsplit.symm (Nat.lt_of_le_of_lt hafter lt_stop)
        (Nat.lt_of_lt_of_le start_lt hwithin)
      omega

theorem of_withText (h : policy.Adds (Leaf.withText leaves) start added) :
    policy.Adds leaves start added := by
  cases h with
  | @run before run after split start_eq text_eq =>
      obtain ⟨before, later, rfl, rfl, hlater⟩ := List.filter_eq_append_iff.1 split
      obtain ⟨run, after, rfl, rfl, -⟩ := List.filter_eq_append_iff.1 hlater
      refine .run rfl ?_ ?_
      · rw [start_eq]
        exact congrArg List.length (Leaf.joined_withText before)
      · rw [text_eq]
        exact Leaf.joined_withText run
  | @slice before after leaf index split alone long within start_eq text_eq =>
      obtain ⟨before, later, rfl, rfl, hlater⟩ := List.filter_eq_append_iff.1 split
      obtain ⟨empty, after, rfl, hempty, -, -⟩ := List.filter_eq_cons_iff.1 hlater
      have hnothing : Leaf.joined empty = [] := by
        unfold Leaf.joined
        rw [List.flatMap_eq_nil_iff]
        intro leaf hleaf
        simpa using hempty leaf hleaf
      have hsplit : before ++ (empty ++ leaf :: after) = (before ++ empty) ++ leaf :: after := by
        rw [List.append_assoc]
      refine .slice hsplit alone long within ?_ text_eq
      rw [start_eq, Leaf.joined_append, hnothing, List.append_nil]
      exact congrArg (List.length · + _) (Leaf.joined_withText before)

end Adds

/-- The piece tells of the leaves of the stretch, repeating some characters in front of it. -/
def TellsOf (leaves : List Leaf) (start stop repeated : Nat) (piece : Piece) : Prop :=
  ∃ run, run ≠ [] ∧ (∀ leaf, leaf ∈ run ↔ leaf.Meets leaves start stop) ∧
    Tells repeated run piece

theorem TellsOf.of_withText {start stop repeated : Nat} {piece : Piece}
    (h : TellsOf (Leaf.withText leaves) start stop repeated piece) :
    TellsOf leaves start stop repeated piece := by
  obtain ⟨run, hne, hrun, htells⟩ := h
  exact ⟨run, hne, fun leaf => (hrun leaf).trans Leaf.meets_withText_iff, htells⟩

/-! ## One chunk after the other -/

/-- The chunks add the rest of the leaves from `start` on, and the first may repeat the end of
`lent`. -/
inductive Covers (policy : Policy) (leaves : List Leaf) : Nat → Text → List Chunk → Prop
  | nil {lent} : Covers policy leaves (Leaf.joined leaves).length lent []
  | cons {start lent borrowed added chunk chunks}
      (suffix : borrowed <:+ lent) (le : borrowed.length ≤ policy.budget.maxOverlap)
      (text_eq : chunk.text = borrowed ++ added) (ne_nil : added ≠ [])
      (alone : policy.isStandalone chunk.toPiece = true → borrowed = [])
      (adds : policy.Adds leaves start added)
      (tells : TellsOf leaves start (start + added.length) borrowed.length chunk.toPiece)
      (later : Covers policy leaves (start + added.length) (policy.lendable chunk) chunks) :
      Covers policy leaves start lent (chunk :: chunks)

namespace Covers

variable {lent : Text} {group chunks : List Chunk}

theorem lengthen {longer : Text} (h : policy.Covers leaves start lent chunks)
    (suffix : lent <:+ longer) : policy.Covers leaves start longer chunks := by
  cases h with
  | nil => exact .nil
  | cons hborrowed le text_eq ne_nil alone adds tells later =>
      exact .cons (hborrowed.trans suffix) le text_eq ne_nil alone adds tells later

theorem slices {before after : List Leaf} {leaf : Leaf} {index : Nat}
    (split : leaves = before ++ leaf :: after) (alone : policy.isStandalone leaf.toPiece = true)
    (group_alone : ∀ chunk ∈ group, policy.isStandalone chunk.toPiece = true)
    (group_tells : ∀ chunk ∈ group, Tells 0 [leaf] chunk.toPiece)
    (texts_eq : group.map (·.text) = Text.slices policy.budget.maxSize policy.budget.size_pos
      (leaf.text.drop (index * policy.budget.maxSize)))
    (start_eq : start =
      (Leaf.joined before).length + min (index * policy.budget.maxSize) leaf.length)
    (later : policy.Covers leaves ((Leaf.joined before).length + leaf.length) [] chunks) :
    policy.Covers leaves start lent (group ++ chunks) := by
  -- Each slice moves the index on by one; behind the last one the leaf is at its end.
  induction group generalizing start lent index with
  | nil =>
      have hrest : leaf.text.drop (index * policy.budget.maxSize) = [] := by
        have hflatten := Text.flatten_slices policy.budget.maxSize policy.budget.size_pos
          (leaf.text.drop (index * policy.budget.maxSize))
        rw [← texts_eq] at hflatten
        exact hflatten.symm
      have hend : leaf.length ≤ index * policy.budget.maxSize := List.drop_eq_nil_iff.1 hrest
      rw [Nat.min_eq_right hend] at start_eq
      rw [start_eq]
      exact later.lengthen List.nil_suffix
  | cons chunk group ih =>
      by_cases hrest : leaf.text.drop (index * policy.budget.maxSize) = []
      · rw [hrest, Text.slices_nil] at texts_eq
        cases texts_eq
      rw [Text.slices_of_ne_nil _ hrest, List.map_cons, List.cons.injEq, List.drop_drop] at texts_eq
      have hwithin : index * policy.budget.maxSize < leaf.length := by
        rw [List.drop_eq_nil_iff, Nat.not_le] at hrest
        exact hrest
      obtain ⟨htells, hgroup⟩ := List.forall_mem_cons.1 group_tells
      rw [Nat.min_eq_left (Nat.le_of_lt hwithin)] at start_eq
      have hadds := Adds.of_slice split alone hwithin
      rw [← start_eq] at hadds
      have hne : (leaf.text.drop (index * policy.budget.maxSize)).take policy.budget.maxSize ≠
          [] := by
        have hpos := policy.budget.size_pos
        rw [Ne, List.take_eq_nil_iff, not_or]
        exact ⟨by omega, hrest⟩
      have hpos := List.length_pos_iff.2 hne
      have hstop : start + ((leaf.text.drop (index * policy.budget.maxSize)).take
          policy.budget.maxSize).length ≤ (Leaf.joined before).length + leaf.length := by
        rw [start_eq, List.length_take, List.length_drop]
        unfold Piece.length at hwithin ⊢
        omega
      have htells : TellsOf leaves start _ 0 chunk.toPiece :=
        ⟨[leaf], List.cons_ne_nil _ _, fun other =>
          Leaf.mem_singleton_iff_meets split (Nat.lt_add_of_pos_right hpos) (by omega) hstop,
          htells⟩
      refine .cons List.nil_suffix (Nat.zero_le _) texts_eq.1 hne (fun _ => rfl) hadds htells ?_
      rw [← Nat.succ_mul] at texts_eq
      refine ih (fun chunk hmem => group_alone chunk (List.mem_cons_of_mem _ hmem)) hgroup
        texts_eq.2 ?_
      rw [start_eq, List.length_take, List.length_drop, Nat.succ_mul]
      unfold Piece.length at hwithin ⊢
      omega

theorem of_arranged {passed rest : List Leaf}
    (h : Arranged policy policy.budget.maxOverlap lent rest chunks)
    (ne_nil : ∀ chunk ∈ chunks, chunk.text ≠ []) (split : leaves = passed ++ rest) :
    policy.Covers leaves (Leaf.joined passed).length lent chunks := by
  induction h generalizing passed with
  | nil =>
      rw [split, List.append_nil]
      exact .nil
  | @joined _ borrowed run chunk rest later borrows joins _ ih =>
      have htail : ∀ chunk ∈ later, chunk.text ≠ [] := fun chunk hmem =>
        ne_nil chunk (List.mem_cons_of_mem _ hmem)
      rw [← List.append_assoc] at split
      have hlater := ih htail split
      rw [List.append_assoc] at split
      -- A chunk without leaves has nothing to borrow for, so it would be empty.
      have hadded : Leaf.joined run ≠ [] := by
        intro hnothing
        have htext := ne_nil chunk List.mem_cons_self
        rw [joins.text_eq, hnothing, List.append_nil] at htext
        cases run with
        | nil => exact borrows.fresh htext rfl
        | cons leaf run =>
            exact joins.leaf_ne_nil leaf List.mem_cons_self (List.append_eq_nil_iff.1 hnothing).1
      have hjoinable : policy.isStandalone chunk.toPiece = true → borrowed = [] := by
        intro alone
        rw [joins.joinable] at alone
        cases alone
      have hadds : policy.Adds leaves (Leaf.joined passed).length (Leaf.joined run) :=
        .run split rfl rfl
      have htells : TellsOf leaves (Leaf.joined passed).length _ borrowed.length chunk.toPiece :=
        ⟨run, fun hnil => hadded (by rw [hnil, Leaf.joined_nil]), fun leaf =>
          Leaf.mem_run_iff_meets split joins.leaf_ne_nil hadded, joins.tells⟩
      refine .cons borrows.suffix borrows.le joins.text_eq hadded hjoinable hadds htells ?_
      rwa [lendable_joinable joins.joinable, ← List.length_append, ← Leaf.joined_append]
  | @standalone _ leaf group rest later cuts _ ih =>
      have htail : ∀ chunk ∈ later, chunk.text ≠ [] := fun chunk hmem =>
        ne_nil chunk (List.mem_append_right _ hmem)
      have hpassed : leaves = passed ++ [leaf] ++ rest := by
        rw [split, List.append_assoc, List.singleton_append]
      have hlater := ih htail hpassed
      rw [Leaf.joined_append, Leaf.joined_cons, Leaf.joined_nil, List.append_nil,
        List.length_append] at hlater
      have htexts := cuts.texts_eq
      have hfirst : leaf.text.drop (0 * policy.budget.maxSize) = leaf.text := by
        rw [Nat.zero_mul, List.drop_zero]
      rw [← hfirst] at htexts
      refine slices split cuts.alone (fun chunk => cuts.isStandalone_of_mem) cuts.tells htexts ?_
        hlater
      rw [Nat.zero_mul, Nat.zero_min, Nat.add_zero]

theorem exists_layout (h : policy.Covers leaves start lent chunks)
    (suffix : lent <:+ (Leaf.joined leaves).take start) :
    ∃ layout : Layout policy (Leaf.joined leaves) start lent.length chunks,
      ∀ i (hi : i < chunks.length),
        policy.Adds leaves (layout.cut i) (chunks[i].text.drop (layout.overlap i)) ∧
          TellsOf leaves (layout.cut i) (layout.cut (i + 1)) (layout.overlap i)
            chunks[i].toPiece := by
  induction h with
  | nil => exact ⟨.nil, fun i hi => absurd hi (Nat.not_lt_zero i)⟩
  | @cons start lent borrowed added chunk chunks hsuffix le text_eq ne_nil alone adds tells _ ih =>
      obtain ⟨before, after, hstart, hjoined⟩ := adds.exists_joined_eq
      have hplace : (Leaf.joined leaves).extract start (start + added.length) = added := by
        rw [hjoined, ← hstart]
        exact extract_middle before added after
      have hborrowed := hsuffix.trans suffix
      -- What the next chunk may repeat ends where this one ends.
      have hlend : policy.lendable chunk <:+ (Leaf.joined leaves).take (start + added.length) := by
        refine (lendable_suffix chunk).trans ?_
        rw [text_eq]
        exact suffix_take_of_suffix hborrowed hplace
      obtain ⟨layout, hadds⟩ := ih hlend
      refine ⟨layout.prepend text_eq hborrowed hplace ne_nil le hsuffix.length_le alone, ?_⟩
      intro i hi
      cases i with
      | zero =>
          constructor
          · show policy.Adds leaves start (chunk.text.drop borrowed.length)
            rw [text_eq, List.drop_left]
            exact adds
          · show TellsOf leaves start (layout.cut 0) borrowed.length chunk.toPiece
            rw [layout.cut_zero]
            exact tells
      | succ i => exact hadds i (Nat.lt_of_succ_lt_succ hi)

end Covers

/-- The places of finished chunks, what each of them adds, and what it tells of that. -/
theorem exists_telling_layout_of_chunk {cascade : Cascade} {text : Text} {chunks : List Chunk}
    (h : policy.chunk cascade text = .ok chunks) :
    ∃ layout : Layout policy text 0 0 chunks, ∀ i (hi : i < chunks.length),
      policy.Adds (policy.leaves cascade.boundaries text) (layout.cut i)
          (chunks[i].text.drop (layout.overlap i)) ∧
        TellsOf (policy.leaves cascade.boundaries text) (layout.cut i) (layout.cut (i + 1))
          (layout.overlap i) chunks[i].toPiece := by
  have hall : Leaf.withText (policy.leaves cascade.boundaries text) =
      [] ++ Leaf.withText (policy.leaves cascade.boundaries text) := rfl
  have hcovers := Covers.of_arranged (arranged_of_chunk h)
    (fun chunk hchunk => ne_nil_of_mem_chunk h hchunk) hall
  have hlayout := hcovers.exists_layout List.nil_suffix
  rw [Leaf.joined_withText, joined_leaves_of_chunk h] at hlayout
  obtain ⟨layout, hchunks⟩ := hlayout
  exact ⟨layout, fun i hi => ⟨(hchunks i hi).1.of_withText, (hchunks i hi).2.of_withText⟩⟩

theorem exists_layout_of_chunk {cascade : Cascade} {text : Text} {chunks : List Chunk}
    (h : policy.chunk cascade text = .ok chunks) :
    ∃ layout : Layout policy text 0 0 chunks, ∀ i (hi : i < chunks.length),
      policy.Adds (policy.leaves cascade.boundaries text) (layout.cut i)
        (chunks[i].text.drop (layout.overlap i)) := by
  obtain ⟨layout, hchunks⟩ := exists_telling_layout_of_chunk h
  exact ⟨layout, fun i hi => (hchunks i hi).1⟩

end Policy

end Chunking
