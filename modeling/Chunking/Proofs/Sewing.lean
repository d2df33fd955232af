import Chunking.Proofs.Endings
import Chunking.Proofs.Tightness

/-!
# Sewing

The groups of a stitching run lie one behind the other over the leaves, and so the finished
chunks do.  Each of them that may be joined adds a piece of its own, which tells of the leaves
it adds, and follows the chunk before it in one of three ways.  What it adds does not fit behind
what that chunk added, unless it opens at a loose place.
-/

namespace Chunking.Policy

variable {policy : Policy} {lend : Chunk → Numbering (Option Chunk)} {loose : Nat → Prop}

/-! ## A group of an arrangement -/

section Arrangement

variable {lent : Text} {leaves : List Leaf} {first : Chunk} {rest chunks : List Chunk}

theorem Arranged.split_first (joinable : policy.isStandalone first.toPiece = false)
    (h : Arranged policy 0 lent leaves (first :: chunks)) :
    ∃ run later, leaves = run ++ later ∧ policy.Joins [] run first.toPiece ∧
      Arranged policy 0 first.text later chunks := by
  generalize hall : first :: chunks = all at h
  cases h with
  | nil => cases hall
  | joined borrows joins later =>
      cases hall
      rw [borrows.eq_nil] at joins
      exact ⟨_, _, rfl, joins, later⟩
  | standalone cuts _ =>
      obtain ⟨head, tail, rfl⟩ := List.exists_cons_of_ne_nil cuts.group_ne_nil
      cases hall
      rw [cuts.isStandalone_of_mem List.mem_cons_self] at joinable
      cases joinable

theorem Arranged.split_group (joinable : ∀ part ∈ first :: rest,
      policy.isStandalone part.toPiece = false)
    (fits : (first.toPiece.joinAll (rest.map Chunk.toPiece)).length ≤ policy.budget.maxSize)
    (h : Arranged policy 0 lent leaves (first :: rest ++ chunks)) :
    ∃ run later lent, leaves = run ++ later ∧
      policy.Joins [] run (first.toPiece.joinAll (rest.map Chunk.toPiece)) ∧
      Arranged policy 0 lent later chunks := by
  induction rest using List.reverseRecOn generalizing chunks with
  | nil =>
      obtain ⟨run, later, hleaves, joins, hlater⟩ :=
        Arranged.split_first (joinable first List.mem_cons_self) h
      rw [List.map_nil, Piece.joinAll_nil]
      exact ⟨run, later, _, hleaves, joins, hlater⟩
  | append_singleton rest last ih =>
      rw [← List.cons_append, List.forall_mem_append] at joinable
      rw [← List.cons_append, List.append_assoc] at h
      rw [List.map_append, List.map_singleton] at fits ⊢
      -- The group without its last chunk is shorter, or as long if that chunk is empty.
      have hshorter : (first.toPiece.joinAll (rest.map Chunk.toPiece)).length ≤
          (first.toPiece.joinAll (rest.map Chunk.toPiece ++ [last.toPiece])).length := by
        unfold Piece.length
        rw [Piece.text_joinAll, Piece.text_joinAll, ← List.cons_append, List.flatMap_append,
          List.length_append]
        exact Nat.le_add_right _ _
      obtain ⟨run, later, lent, rfl, joins, hlater⟩ :=
        ih joinable.1 (Nat.le_trans hshorter fits) h
      obtain ⟨more, later, rfl, hmore, hlater⟩ :=
        Arranged.split_first (joinable.2 last (List.mem_singleton_self last)) hlater
      refine ⟨run ++ more, later, _, (List.append_assoc ..).symm, ?_, hlater⟩
      by_cases htext : last.text = []
      · rw [hmore.run_eq_nil htext, List.append_nil, Piece.joinAll_append_of_empty htext]
        exact joins
      · rw [Piece.joinAll_append_of_text htext] at fits ⊢
        exact joins.join hmore (Nat.le_trans (Nat.le_of_eq List.length_append.symm) fits)

end Arrangement

/-! ## Groups over leaves -/

/--
The chunks add the rest of the leaves from `start` on.  A chunk that may be joined has a piece
of its own for them, behind what the chunk before it lends, which itself added `added` characters.
-/
inductive Sewn (policy : Policy) (lend : Chunk → Numbering (Option Chunk)) (loose : Nat → Prop)
    (leaves : List Leaf) : Nat → Option Chunk → Nat → List Chunk → Prop
  | nil {before added} : Sewn policy lend loose leaves (Leaf.joined leaves).length before added []
  | joined {start before added first own chunk chunks}
      (joinable : policy.isStandalone chunk.toPiece = false)
      (place : (Leaf.joined leaves).extract start (start + own.length) = own.text)
      (ne_nil : own.text ≠ []) (first_le : first.length ≤ own.length)
      (fits : own.length ≤ policy.budget.maxSize)
      (tells : TellsOf leaves start (start + own.length) 0 own)
      (continues : policy.Continues lend first own before chunk.toPiece)
      (apart : before = none ∨ policy.budget.maxSize < added + first.length ∨ loose start)
      (later : Sewn policy lend loose leaves (start + own.length) (some chunk) own.length chunks) :
      Sewn policy lend loose leaves start before added (chunk :: chunks)
  | standalone {start before added chunk chunks}
      (alone : policy.isStandalone chunk.toPiece = true)
      (place : (Leaf.joined leaves).extract start (start + chunk.length) = chunk.text)
      (ne_nil : chunk.text ≠ [])
      (later : Sewn policy lend loose leaves (start + chunk.length) none 0 chunks) :
      Sewn policy lend loose leaves start before added (chunk :: chunks)

/-- A chunk without text leaves room for any piece, so no piece follows it. -/
theorem Sewn.skip {leaves : List Leaf} {start added other : Nat} {before : Option Chunk}
    {empty : Chunk} {chunks : List Chunk}
    (h : Sewn policy lend loose leaves start (some empty) added chunks)
    (text_eq : empty.text = []) : Sewn policy lend loose leaves start before other chunks := by
  cases h with
  | nil => exact .nil
  | joined _ _ _ first_le fits _ continues _ _ =>
      have hempty : empty.length = 0 := by rw [Piece.length, text_eq, List.length_nil]
      have hfull := continues.full
      rw [Budget.hasRoom_eq_false_iff, hempty] at hfull
      omega
  | standalone alone place ne_nil later => exact .standalone alone place ne_nil later

/-- What is ahead of the text that was passed: the other slices of a standalone leaf that was
begun, and then chunks that are arranged over the other leaves. -/
def Unsewn (policy : Policy) (leaves : List Leaf) (passed : Text) (chunks : List Chunk) : Prop :=
  ∃ slices more done rest lent, chunks = slices ++ more ∧
    (∀ slice ∈ slices, policy.isStandalone slice.toPiece = true ∧ slice.text ≠ []) ∧
    leaves = done ++ rest ∧ Leaf.joined done = passed ++ slices.flatMap (·.text) ∧
    Arranged policy 0 lent rest more

namespace Unsewn

variable {leaves : List Leaf} {passed : Text} {chunk : Chunk} {chunks : List Chunk}

theorem of_arranged {lent : Text} (h : Arranged policy 0 lent leaves chunks) :
    policy.Unsewn leaves [] chunks :=
  ⟨[], chunks, [], leaves, lent, rfl, fun _ hmem => absurd hmem List.not_mem_nil, rfl, rfl, h⟩

theorem joined_eq (h : policy.Unsewn leaves passed chunks) :
    Leaf.joined leaves = passed ++ chunks.flatMap (·.text) := by
  obtain ⟨slices, more, done, rest, lent, rfl, -, rfl, hdone, harranged⟩ := h
  rw [Leaf.joined_append, hdone, List.flatMap_append, harranged.flatMap_text, List.append_assoc]

theorem place {text : Text} (h : policy.Unsewn leaves (passed ++ text) chunks) :
    (Leaf.joined leaves).extract passed.length (passed.length + text.length) = text := by
  rw [h.joined_eq, List.append_assoc]
  exact extract_middle passed text _

theorem standalone (h : policy.Unsewn leaves passed (chunk :: chunks))
    (alone : policy.isStandalone chunk.toPiece = true) :
    chunk.text ≠ [] ∧ policy.Unsewn leaves (passed ++ chunk.text) chunks := by
  obtain ⟨slices, more, done, rest, lent, hchunks, hslices, hleaves, hdone, harranged⟩ := h
  cases slices with
  | cons slice slices =>
      cases hchunks
      rw [List.forall_mem_cons] at hslices
      rw [List.flatMap_cons, ← List.append_assoc] at hdone
      exact ⟨hslices.1.2, slices, more, done, rest, lent, rfl, hslices.2, hleaves, hdone, harranged⟩
  | nil =>
      rw [List.nil_append] at hchunks
      rw [List.flatMap_nil, List.append_nil] at hdone
      subst hchunks
      generalize hall : chunk :: chunks = all at harranged
      cases harranged with
      | nil => cases hall
      | joined _ joins _ =>
          cases hall
          rw [joins.joinable] at alone
          cases alone
      | @standalone _ leaf group rest more cuts later =>
          -- The leaf counts as passed, but for the slices after the first.
          obtain ⟨head, tail, rfl⟩ := List.exists_cons_of_ne_nil cuts.group_ne_nil
          rw [List.cons_append, List.cons.injEq] at hall
          obtain ⟨rfl, rfl⟩ := hall
          have htext := cuts.flatMap_text
          rw [List.flatMap_cons] at htext
          refine ⟨cuts.ne_nil_of_mem List.mem_cons_self, tail, more, done ++ [leaf], rest, [], rfl,
            fun slice hslice => ?_, by rw [hleaves, List.append_assoc]; rfl, ?_, later⟩
          · have hmem := List.mem_cons_of_mem chunk hslice
            exact ⟨cuts.isStandalone_of_mem hmem, cuts.ne_nil_of_mem hmem⟩
          · rw [Leaf.joined_append, hdone, Leaf.joined_cons, Leaf.joined_nil, List.append_nil,
              ← htext, List.append_assoc]

theorem group {first : Chunk} {rest : List Chunk}
    (h : policy.Unsewn leaves passed (first :: rest ++ chunks))
    (joinable : ∀ part ∈ first :: rest, policy.isStandalone part.toPiece = false) {own : Piece}
    (own_eq : own = first.toPiece.joinAll (rest.map Chunk.toPiece))
    (fits : own.length ≤ policy.budget.maxSize) :
    policy.isStandalone own = false ∧ policy.Unsewn leaves (passed ++ own.text) chunks ∧
      (own.text ≠ [] → TellsOf leaves passed.length (passed.length + own.length) 0 own) := by
  subst own_eq
  obtain ⟨slices, more, done, ahead, lent, hchunks, hslices, hleaves, hdone, harranged⟩ := h
  cases slices with
  | cons slice slices =>
      rw [List.cons_append, List.cons_append, List.cons.injEq] at hchunks
      have halone := (hslices slice List.mem_cons_self).1
      rw [← hchunks.1, joinable first List.mem_cons_self] at halone
      cases halone
  | nil =>
      rw [List.nil_append] at hchunks
      rw [List.flatMap_nil, List.append_nil] at hdone
      subst hchunks hdone
      obtain ⟨run, later, lent, rfl, joins, hlater⟩ := Arranged.split_group joinable fits harranged
      have htext := joins.text_eq
      rw [List.nil_append] at htext
      refine ⟨joins.joinable, ?_, fun ne_nil => ?_⟩
      · refine ⟨[], chunks, done ++ run, later, lent, rfl,
          fun _ hmem => absurd hmem List.not_mem_nil, by rw [hleaves, List.append_assoc], ?_,
          hlater⟩
        rw [Leaf.joined_append, htext, List.flatMap_nil, List.append_nil]
      · rw [Piece.length, htext]
        rw [htext] at ne_nil
        exact ⟨run, fun hnil => ne_nil (by rw [hnil, Leaf.joined_nil]), fun leaf =>
          Leaf.mem_run_iff_meets hleaves joins.leaf_ne_nil ne_nil, joins.tells⟩

end Unsewn

theorem Continues.joinable {first : Chunk} {own piece : Piece} {before : Option Chunk}
    (h : policy.Continues lend first own before piece) (ne_nil : own.text ≠ [])
    (joinable : policy.isStandalone own = false) : policy.isStandalone piece = false := by
  cases h with
  | opening => exact joinable
  | bare => exact joinable
  | behind _ _ hdonor =>
      exact isStandalone_eq_false_of_get? joinable fun kind hkind =>
        ((Piece.get?_join_of_text hdonor ne_nil).1 hkind).2

theorem settled_empty_cons {chunk : Chunk} (ne_nil : chunk.text ≠ []) (chunks : List Chunk) :
    settled .empty (chunk :: chunks) = chunk :: settled .empty chunks := by
  rw [← List.singleton_append, settled_append, settled_empty (by simpa using ne_nil)]
  rfl

theorem settled_empty_cons_of_empty {chunk : Chunk} (text_eq : chunk.text = [])
    (chunks : List Chunk) : settled .empty (chunk :: chunks) = settled .empty chunks := by
  unfold settled
  rw [List.map_cons, List.filter_cons_of_neg]
  simp [Chunk.inherit, Piece.inherit, text_eq]

theorem sewn_of_groups {leaves : List Leaf} {passed : Text} {before : Option Chunk} {added : Nat}
    {chunks stitched : List Chunk} (groups : Groups policy lend before chunks stitched)
    (before_fits : ∀ chunk, before = some chunk → chunk.length ≤ policy.budget.maxSize)
    (ahead : policy.Unsewn leaves passed chunks)
    (tight : policy.Tight loose passed.length (before.map fun _ => added) chunks) :
    Sewn policy lend loose leaves passed.length before added (settled .empty stitched) := by
  induction groups generalizing passed added with
  | nil =>
      have hall := ahead.joined_eq
      rw [List.flatMap_nil, List.append_nil] at hall
      rw [← hall]
      exact .nil
  | @standalone _ chunk _ _ alone _ ih =>
      obtain ⟨ne_nil, hlater⟩ := ahead.standalone alone
      have hbehind := tight.drop_standalone alone
      have hsewn : Sewn policy lend loose leaves (passed ++ chunk.text).length none 0 _ :=
        ih (fun _ h => nomatch h) hlater (List.length_append ▸ hbehind)
      rw [List.length_append] at hsewn
      rw [settled_empty_cons ne_nil]
      exact .standalone alone hlater.place ne_nil hsewn
  | @group before first rest chunk _ _ joinable fits continues _ ih =>
      have first_le : first.length ≤
          (first.toPiece.joinAll (rest.map Chunk.toPiece)).length := by
        unfold Piece.length
        rw [Piece.text_joinAll, List.flatMap_cons, List.length_append]
        exact Nat.le_add_right _ _
      generalize hown : first.toPiece.joinAll (rest.map Chunk.toPiece) = own at continues first_le
      have own_le := continues.length_le
      have own_fits := Nat.le_trans own_le fits
      have hbehind := tight.drop_group joinable hown.symm
      have hfull := tight.full_head (joinable first List.mem_cons_self)
      obtain ⟨hjoinable, hlater, htells⟩ := ahead.group joinable hown.symm own_fits
      have hsewn := ih (fun _ h => Option.some.inj h ▸ fits) hlater (List.length_append ▸ hbehind)
      rw [List.length_append] at hsewn
      by_cases ne_nil : own.text = []
      · -- A group without text can only be the first behind a standalone chunk.
        have hempty : own.length = 0 := by rw [Piece.length, ne_nil, List.length_nil]
        cases before with
        | none =>
            have htext : chunk.text = [] := by
              generalize chunk.toPiece = piece at continues
              cases continues
              exact ne_nil
            rw [ne_nil] at hsewn
            rw [settled_empty_cons_of_empty htext]
            exact hsewn.skip htext
        | some before =>
            have hfull := Budget.hasRoom_eq_false_iff.1 continues.full
            have hbefore := before_fits before rfl
            omega
      · have htext : chunk.text ≠ [] := by
          intro hnil
          rw [Piece.length, Piece.length, hnil, List.length_nil] at own_le
          exact ne_nil (List.eq_nil_of_length_eq_zero (Nat.le_zero.1 own_le))
        rw [settled_empty_cons htext]
        refine .joined (continues.joinable ne_nil hjoinable) hlater.place ne_nil first_le own_fits
          (htells ne_nil) continues ?_ hsewn
        cases before with
        | none => exact .inl rfl
        | some _ => exact .inr (hfull added rfl)

theorem sewn_of_assemble {boundaries : List Boundary}
    (ends : boundaries.getLast? = some .character) {text : Text} {chunks : List Chunk}
    {first last : Nat} (h : policy.assemble boundaries text first = .ok chunks last) :
    Sewn policy (policy.lend boundaries) (policy.DividesAt boundaries text)
      (Leaf.withText (policy.leaves boundaries text)) 0 none 0 chunks := by
  cases boundaries with
  | nil => cases ends
  | cons boundary finer =>
      obtain ⟨pieces, second, packed, third, stitched, hsplit, hpack, hstitch, rfl⟩ :=
        assemble_cons h
      have hpacked := arranged_of_packs hpack waits_empty (ready_of_split ends arrangesBelow hsplit)
      rw [List.nil_append, textLeaves_of_split hsplit] at hpacked
      have hgroups := (groups_of_stitches hstitch hpacked.length_le).1 rfl
      exact sewn_of_groups hgroups (fun _ h => nomatch h) (.of_arranged hpacked)
        (tight_of_packed ends hsplit hpack)

theorem Sewn.ne_nil_of_mem {leaves : List Leaf} {start added : Nat} {before : Option Chunk}
    {chunks : List Chunk} (h : Sewn policy lend loose leaves start before added chunks) :
    ∀ chunk ∈ chunks, chunk.text ≠ [] := by
  induction h with
  | nil => exact fun _ hmem => absurd hmem List.not_mem_nil
  | joined _ _ ne_nil _ _ _ continues _ _ ih =>
      refine List.forall_mem_cons.2 ⟨fun hnil => ne_nil ?_, ih⟩
      have own_le := continues.length_le
      rw [Piece.length, Piece.length, hnil, List.length_nil] at own_le
      exact List.eq_nil_of_length_eq_zero (Nat.le_zero.1 own_le)
  | standalone _ _ ne_nil _ ih => exact List.forall_mem_cons.2 ⟨ne_nil, ih⟩

/-! ## Places of sewn chunks -/

/-- The chunk that may lend to the one at an index, the one before the first being given. -/
def lender? (policy : Policy) (before : Option Chunk) (chunks : List Chunk) : Nat → Option Chunk
  | 0 => before
  | i + 1 => chunks[i]?.filter fun chunk => !policy.isStandalone chunk.toPiece

theorem lender?_succ (before : Option Chunk) (chunks : List Chunk) (i : Nat) :
    policy.lender? before chunks (i + 1) =
      chunks[i]?.filter fun chunk => !policy.isStandalone chunk.toPiece := rfl

theorem lender?_succ_of_joinable {chunks : List Chunk} {i : Nat} (h : i < chunks.length)
    (joinable : policy.isStandalone chunks[i].toPiece = false) (before : Option Chunk) :
    policy.lender? before chunks (i + 1) = some chunks[i] := by
  simp [lender?_succ, List.getElem?_eq_getElem h, Option.filter, joinable]

theorem mem_of_lender? {chunks : List Chunk} {chunk : Chunk} {i : Nat}
    (h : policy.lender? none chunks i = some chunk) : chunk ∈ chunks := by
  cases i with
  | zero => cases h
  | succ i =>
      rw [lender?_succ, Option.filter_eq_some_iff] at h
      exact List.mem_of_getElem? h.1

theorem lender?_cons_of_joinable {chunk : Chunk}
    (joinable : policy.isStandalone chunk.toPiece = false) (before : Option Chunk)
    (chunks : List Chunk) (i : Nat) :
    policy.lender? before (chunk :: chunks) (i + 1) = policy.lender? (some chunk) chunks i := by
  cases i with
  | zero => simp [lender?, Option.filter, joinable]
  | succ i => rfl

theorem lender?_cons_of_standalone {chunk : Chunk}
    (alone : policy.isStandalone chunk.toPiece = true) (before : Option Chunk)
    (chunks : List Chunk) (i : Nat) :
    policy.lender? before (chunk :: chunks) (i + 1) = policy.lender? none chunks i := by
  cases i with
  | zero => simp [lender?, Option.filter, alone]
  | succ i => rfl

theorem Continues.exists_borrowed {limit : Nat} (lends : policy.Lends limit lend) {first : Chunk}
    {own piece : Piece} {before : Option Chunk} {start added : Nat}
    (h : policy.Continues lend first own before piece)
    (apart : before = none ∨ policy.budget.maxSize < added + first.length ∨ loose start) :
    ∃ borrowed, piece.text = borrowed ++ own.text ∧
      borrowed <:+ before.elim [] (fun chunk => chunk.text) ∧ borrowed.length ≤ limit ∧
      (borrowed.length ≤ added ∨ loose start) := by
  cases h with
  | opening => exact ⟨[], rfl, List.nil_suffix, Nat.zero_le _, .inl (Nat.zero_le _)⟩
  | bare => exact ⟨[], rfl, List.nil_suffix, Nat.zero_le _, .inl (Nat.zero_le _)⟩
  | @behind _ donor _ _ _ hlend _ le room =>
      obtain ⟨suffix, hlimit⟩ := lends _ _ _ _ hlend le
      have hroom := Budget.hasRoom_iff.1 room
      refine ⟨_, rfl, suffix, hlimit, ?_⟩
      rcases apart with hnone | hfull | hloose
      · cases hnone
      · left
        unfold Piece.length at hfull hroom
        omega
      · exact .inr hloose

theorem Sewn.exists_layout {leaves : List Leaf} {start added : Nat} {before : Option Chunk}
    {chunks : List Chunk} (lends : policy.Lends policy.budget.maxOverlap lend)
    (h : Sewn policy lend loose leaves start before added chunks)
    (suffix : before.elim [] (fun chunk => chunk.text) <:+ (Leaf.joined leaves).take start) :
    ∃ layout : Layout policy (Leaf.joined leaves) start
        (before.elim [] fun chunk => chunk.text).length chunks,
      (layout.overlap 0 ≤ added ∨ loose start) ∧ layout.Confined loose ∧
      ∀ i (hi : i < chunks.length), policy.isStandalone chunks[i].toPiece = false →
        ∃ first : Chunk, ∃ own : Piece, own.text = chunks[i].text.drop (layout.overlap i) ∧
          own.text ≠ [] ∧ first.length ≤ own.length ∧
          TellsOf leaves (layout.cut i) (layout.cut (i + 1)) 0 own ∧
          policy.Continues lend first own (policy.lender? before chunks i) chunks[i].toPiece := by
  induction h with
  | nil =>
      exact ⟨.nil, .inl (Nat.zero_le _), fun i hi => absurd hi (Nat.not_lt_zero (i + 1)),
        fun i hi => absurd hi (Nat.not_lt_zero i)⟩
  | @joined start before added first own chunk chunks joinable place ne_nil first_le _ tells
      continues apart _ ih =>
      obtain ⟨borrowed, htext, hborrowed, hle, hadded⟩ := continues.exists_borrowed lends apart
      have hsuffix := hborrowed.trans suffix
      have hlent := suffix_take_of_suffix hsuffix place
      rw [← htext] at hlent
      have hlendable : (some chunk).elim [] (fun chunk => chunk.text) = policy.lendable chunk :=
        (lendable_joinable joinable).symm
      have hlater := ih hlent
      rw [hlendable] at hlater
      obtain ⟨layout, hfirst, hconfined, hchunks⟩ := hlater
      have halone : policy.isStandalone chunk.toPiece = true → borrowed = [] := by
        intro alone
        rw [joinable] at alone
        cases alone
      refine ⟨layout.prepend htext hsuffix place ne_nil hle hborrowed.length_le halone, hadded,
        hconfined.prepend hfirst htext hsuffix place ne_nil hle hborrowed.length_le halone,
        fun i hi hjoinable => ?_⟩
      cases i with
      | zero =>
          refine ⟨first, own, ?_, ne_nil, first_le, ?_, continues⟩
          · show own.text = chunk.text.drop borrowed.length
            rw [htext, List.drop_left]
          · show TellsOf leaves start (layout.cut 0) 0 own
            rw [layout.cut_zero]
            exact tells
      | succ i =>
          rw [lender?_cons_of_joinable joinable]
          exact hchunks i (Nat.lt_of_succ_lt_succ hi) hjoinable
  | @standalone start before added chunk chunks alone place ne_nil _ ih =>
      have hlendable : (none : Option Chunk).elim [] (fun chunk => chunk.text) =
          policy.lendable chunk := (lendable_standalone alone).symm
      have hlater := ih List.nil_suffix
      rw [hlendable] at hlater
      obtain ⟨layout, hfirst, hconfined, hchunks⟩ := hlater
      have hnothing : layout.overlap 0 ≤ chunk.length ∨ loose (start + chunk.length) :=
        hfirst.imp_left fun h => Nat.le_trans h (Nat.zero_le _)
      refine ⟨layout.prepend (List.nil_append _).symm List.nil_suffix place ne_nil (Nat.zero_le _)
        (Nat.zero_le _) fun _ => rfl, .inl (Nat.zero_le _),
        hconfined.prepend hnothing _ _ _ _ _ _ _, fun i hi hjoinable => ?_⟩
      cases i with
      | zero =>
          rw [List.getElem_cons_zero, alone] at hjoinable
          cases hjoinable
      | succ i =>
          rw [lender?_cons_of_standalone alone]
          exact hchunks i (Nat.lt_of_succ_lt_succ hi) hjoinable

end Chunking.Policy
