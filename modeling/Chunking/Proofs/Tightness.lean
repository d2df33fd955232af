import Mathlib.Data.List.Induction
import Chunking.Proofs.Seams

/-!
# Tightness

Chunks are tight if none of them has room for the next one.  A stitching run leaves tight chunks
behind, and one that lends nothing hands tight chunks on as they are and draws no number.  A
packing pass leaves tight chunks too, but for those that a divided piece opens with: what waits
is flushed in front of such a piece without a look at its parts.
-/

namespace Chunking.Policy

variable {policy : Policy} {loose : Nat → Prop}

/--
From `start` on, no chunk that may be joined has room for the next one, unless that one opens at
a loose place; `before` is the length of the one before the first, if that one may be joined.
-/
inductive Tight (policy : Policy) (loose : Nat → Prop) : Nat → Option Nat → List Chunk → Prop
  | nil {start before} : Tight policy loose start before []
  | joinable {start before chunk chunks}
      (joinable : policy.isStandalone chunk.toPiece = false)
      (fits : chunk.length ≤ policy.budget.maxSize)
      (full : ∀ length ∈ before, policy.budget.maxSize < length + chunk.length ∨ loose start)
      (later : Tight policy loose (start + chunk.length) (some chunk.length) chunks) :
      Tight policy loose start before (chunk :: chunks)
  | standalone {start before chunk chunks}
      (alone : policy.isStandalone chunk.toPiece = true)
      (later : Tight policy loose (start + chunk.length) none chunks) :
      Tight policy loose start before (chunk :: chunks)

namespace Tight

variable {start : Nat} {before : Option Nat} {chunks : List Chunk}

theorem opening (h : policy.Tight loose start none chunks) (opens : loose start) :
    policy.Tight loose start before chunks := by
  cases h with
  | nil => exact .nil
  | joinable joinable fits _ later => exact .joinable joinable fits (fun _ _ => .inr opens) later
  | standalone alone later => exact .standalone alone later

theorem lengthen {length longer : Nat} (h : policy.Tight loose start (some length) chunks)
    (le : length ≤ longer) : policy.Tight loose start (some longer) chunks := by
  cases h with
  | nil => exact .nil
  | joinable joinable fits full later =>
      refine .joinable joinable fits
        (fun other hother => (full length rfl).imp_left fun hfull => ?_)
        later
      cases hother
      omega
  | standalone alone later => exact .standalone alone later

/-- A chunk without text has room for every chunk that fits, so none that may be joined follows
in a place that is not loose. -/
theorem skip (h : policy.Tight loose start (some 0) chunks) :
    policy.Tight loose start before chunks := by
  cases h with
  | nil => exact .nil
  | joinable joinable fits full later =>
      rcases full 0 rfl with hfull | opens
      · omega
      · exact .joinable joinable fits (fun _ _ => .inr opens) later
  | standalone alone later => exact .standalone alone later

theorem behind {length : Nat} (h : policy.Tight loose start none chunks)
    (full : ∀ chunk ∈ chunks.head?, policy.isStandalone chunk.toPiece = false →
      policy.budget.maxSize < length + chunk.length) :
    policy.Tight loose start (some length) chunks := by
  cases h with
  | nil => exact .nil
  | joinable joinable fits _ later =>
      refine .joinable joinable fits (fun other hother => .inl ?_) later
      cases hother
      exact full _ rfl joinable
  | standalone alone later => exact .standalone alone later

theorem prepend_standalone {group : List Chunk}
    (alone : ∀ chunk ∈ group, policy.isStandalone chunk.toPiece = true)
    (none_before : group = [] → before = none)
    (later : policy.Tight loose (start + (group.flatMap (·.text)).length) none chunks) :
    policy.Tight loose start before (group ++ chunks) := by
  induction group generalizing start before with
  | nil =>
      cases none_before rfl
      exact later
  | cons chunk group ih =>
      obtain ⟨hchunk, hgroup⟩ := List.forall_mem_cons.1 alone
      rw [List.flatMap_cons, List.length_append, ← Nat.add_assoc] at later
      exact .standalone hchunk (ih hgroup (fun _ => rfl) later)

theorem replace_tail {init tail rest : List Chunk}
    (h : policy.Tight loose start before (init ++ tail))
    (replace : ∀ before,
      policy.Tight loose (start + (init.flatMap (·.text)).length) before tail →
      policy.Tight loose (start + (init.flatMap (·.text)).length) before rest) :
    policy.Tight loose start before (init ++ rest) := by
  induction init generalizing start before with
  | nil => exact replace before h
  | cons chunk init ih =>
      rw [List.flatMap_cons, List.length_append, ← Nat.add_assoc] at replace
      rw [List.cons_append] at h
      cases h with
      | joinable joinable fits full later => exact .joinable joinable fits full (ih later replace)
      | standalone alone later => exact .standalone alone (ih later replace)

theorem full_head {chunk : Chunk} (h : policy.Tight loose start before (chunk :: chunks))
    (joinable : policy.isStandalone chunk.toPiece = false) :
    ∀ length ∈ before, policy.budget.maxSize < length + chunk.length ∨ loose start := by
  cases h with
  | joinable _ _ full _ => exact full
  | standalone alone _ =>
      rw [joinable] at alone
      cases alone

theorem drop_standalone {chunk : Chunk} (h : policy.Tight loose start before (chunk :: chunks))
    (alone : policy.isStandalone chunk.toPiece = true) :
    policy.Tight loose (start + chunk.length) none chunks := by
  cases h with
  | joinable joinable _ _ _ =>
      rw [alone] at joinable
      cases joinable
  | standalone _ later => exact later

theorem drop_joinable {length : Nat} {group : List Chunk}
    (h : policy.Tight loose start (some length) (group ++ chunks))
    (joinable : ∀ chunk ∈ group, policy.isStandalone chunk.toPiece = false) :
    policy.Tight loose (start + (group.flatMap (·.text)).length)
      (some (length + (group.flatMap (·.text)).length)) chunks := by
  induction group generalizing start length with
  | nil => exact h
  | cons chunk group ih =>
      obtain ⟨hchunk, hgroup⟩ := List.forall_mem_cons.1 joinable
      rw [List.cons_append] at h
      rw [List.flatMap_cons, List.length_append, ← Nat.add_assoc, ← Nat.add_assoc]
      cases h with
      | joinable _ _ _ later => exact (ih later hgroup).lengthen (by unfold Piece.length; omega)
      | standalone alone _ =>
          rw [hchunk] at alone
          cases alone

theorem drop_group {first : Chunk} {rest : List Chunk}
    (h : policy.Tight loose start before (first :: rest ++ chunks))
    (joinable : ∀ part ∈ first :: rest, policy.isStandalone part.toPiece = false) {own : Piece}
    (own_eq : own = first.toPiece.joinAll (rest.map Chunk.toPiece)) :
    policy.Tight loose (start + own.length) (some own.length) chunks := by
  have hlength : own.length = first.length + (rest.flatMap (·.text)).length := by
    unfold Piece.length
    rw [own_eq, Piece.text_joinAll, List.flatMap_cons, List.length_append, List.flatMap_map]
  obtain ⟨hfirst, hrest⟩ := List.forall_mem_cons.1 joinable
  rw [List.cons_append] at h
  rw [hlength, ← Nat.add_assoc]
  cases h with
  | joinable _ _ _ later => exact later.drop_joinable hrest
  | standalone alone _ =>
      rw [hfirst] at alone
      cases alone

end Tight

/-! ## Tight chunks stay as they are -/

theorem flush_single (chunk : Chunk) (next : Nat) :
    (Buffer.single chunk).flush next = .ok (some chunk) next := rfl

/-- Behind nothing or behind a chunk that waits, tight chunks follow one after the other. -/
theorem stitch_of_tight {start : Nat} {before : Option Nat} {chunks : List Chunk}
    (tight : policy.Tight (fun _ => False) start before chunks) (next : Nat) :
    (before = none → policy.stitch lendNothing .empty chunks next = .ok chunks next) ∧
      ∀ packed : Chunk, before = some packed.length →
        policy.stitch lendNothing (.single packed) chunks next = .ok (packed :: chunks) next := by
  induction tight with
  | nil => exact ⟨fun _ => rfl, fun packed _ => rfl⟩
  | @standalone _ _ chunk chunks alone _ ih =>
      constructor
      · rintro -
        simp only [stitch, if_pos alone, Buffer.flush_empty, monadLift_self, pure_bind]
        rw [Numbering.bind_of_ok (ih.1 rfl)]
        rfl
      · rintro packed -
        simp only [stitch, if_pos alone, monadLift_self]
        rw [Numbering.bind_of_ok (flush_single packed next), Numbering.bind_of_ok (ih.1 rfl)]
        rfl
  | @joinable _ before chunk chunks joinable fits full _ ih =>
      have hfits := Budget.fits_iff.2 fits
      have hlater := ih.2 chunk rfl
      constructor
      · rintro -
        have hroom : policy.budget.hasRoom Buffer.empty.size chunk.length = true := by
          rw [Budget.hasRoom_iff, Buffer.size_empty, Nat.zero_add]
          exact fits
        rw [stitch, if_neg (by simp [joinable]), if_neg (by simp [hfits]), if_pos hroom]
        exact hlater
      · rintro packed rfl
        have hfull : policy.budget.hasRoom (Buffer.single packed).size chunk.length = false := by
          rw [Budget.hasRoom_eq_false_iff, Buffer.size_of_joined? (Buffer.joined?_single packed)]
          exact (full packed.length rfl).resolve_right id
        rw [stitch, if_neg (by simp [joinable]), if_neg (by simp [hfits]),
          if_neg (by simp [hfull])]
        simp only [monadLift_self]
        rw [Numbering.bind_of_ok (flush_single packed next)]
        -- Nothing is lent, so the chunk waits as it is.
        dsimp only [lendNothing, withBorrowed]
        rw [pure_bind, pure_bind, Numbering.bind_of_ok hlater]
        rfl

theorem repack_of_tight {start : Nat} {chunks : List Chunk}
    (tight : policy.Tight (fun _ => False) start none chunks) (next : Nat) :
    policy.repack chunks next = .ok chunks next :=
  (stitch_of_tight tight next).1 rfl

/-! ## What is packed is tight -/

theorem isStandalone_joinAll {first : Piece} {rest : List Piece}
    (joinable : ∀ piece ∈ first :: rest, policy.isStandalone piece = false) :
    policy.isStandalone (first.joinAll rest) = false := by
  induction rest using List.reverseRecOn with
  | nil =>
      rw [Piece.joinAll_nil]
      exact joinable first List.mem_cons_self
  | append_singleton rest last ih =>
      rw [← List.cons_append, List.forall_mem_append] at joinable
      by_cases htext : last.text = []
      · rw [Piece.joinAll_append_of_empty htext]
        exact ih joinable.1
      · rw [Piece.joinAll_append_of_text htext]
        exact isStandalone_join (ih joinable.1) (joinable.2 last (List.mem_singleton_self last))

theorem isStandalone_joined {first : Chunk} {rest : List Chunk}
    (joinable : ∀ part ∈ first :: rest, policy.isStandalone part.toPiece = false) :
    policy.isStandalone (first.toPiece.joinAll (rest.map Chunk.toPiece)) = false := by
  refine isStandalone_joinAll fun piece hpiece => ?_
  rw [← List.map_cons] at hpiece
  obtain ⟨part, hpart, rfl⟩ := List.mem_map.1 hpiece
  exact joinable part hpart

theorem Continues.eq_of_lendNothing {first : Chunk} {own piece : Piece} {before : Option Chunk}
    (h : policy.Continues lendNothing first own before piece) : piece = own := by
  cases h with
  | opening => rfl
  | bare => rfl
  | behind _ lends => cases lends

theorem tight_of_groups {before : Option Chunk} {chunks stitched : List Chunk}
    (groups : Groups policy lendNothing before chunks stitched) (start : Nat) :
    policy.Tight loose start (before.map (·.length)) stitched := by
  induction groups generalizing start with
  | nil => exact .nil
  | standalone alone _ ih => exact .standalone alone (ih _)
  | @group before first rest chunk _ _ joinable fits continues _ ih =>
      have hpiece := continues.eq_of_lendNothing
      refine .joinable ?_ fits ?_ (ih _)
      · rw [hpiece]
        exact isStandalone_joined joinable
      · rintro length hlength
        obtain ⟨packed, rfl, rfl⟩ := Option.map_eq_some_iff.1 hlength
        have hfull := Budget.hasRoom_eq_false_iff.1 continues.full
        have hfirst : first.length ≤ chunk.length := by
          unfold Piece.length
          rw [hpiece, Piece.text_joinAll, List.flatMap_cons, List.length_append]
          exact Nat.le_add_right _ _
        left
        omega

/-! ## What a level gives is tight -/

theorem isStandalone_inherit {surroundings : Piece}
    (joinable : policy.isStandalone surroundings = false) (chunk : Chunk) :
    policy.isStandalone (chunk.inherit surroundings.metadata).toPiece =
      policy.isStandalone chunk.toPiece := by
  have hget : (chunk.inherit surroundings.metadata).get? Metadata.kindKey =
      (chunk.get? Metadata.kindKey).or (surroundings.get? Metadata.kindKey) :=
    Metadata.get?_inherit chunk.metadata surroundings.metadata _
  unfold isStandalone at joinable ⊢
  rw [hget]
  cases chunk.get? Metadata.kindKey with
  | none => exact joinable
  | some kind => rfl

theorem settled_cons (surroundings : Metadata) (chunk : Chunk) (chunks : List Chunk) :
    settled surroundings (chunk :: chunks) =
      if chunk.text = [] then settled surroundings chunks
      else chunk.inherit surroundings :: settled surroundings chunks := by
  unfold settled
  rw [List.map_cons, List.filter_cons]
  cases htext : chunk.text <;> simp [Chunk.inherit, Piece.inherit, htext]

theorem Tight.settled {start : Nat} {before : Option Nat} {chunks : List Chunk}
    {surroundings : Piece}
    (joinable : policy.isStandalone surroundings = false)
    (ne_nil : ∀ chunk ∈ chunks, policy.isStandalone chunk.toPiece = true → chunk.text ≠ [])
    (h : policy.Tight loose start before chunks) :
    policy.Tight loose start before (settled surroundings.metadata chunks) := by
  induction h with
  | nil => exact .nil
  | @joinable _ _ chunk _ hchunk fits full _ ih =>
      have hlater := ih (List.forall_mem_cons.1 ne_nil).2
      rw [settled_cons]
      split
      · next htext =>
          rw [Piece.length, htext, List.length_nil, Nat.add_zero] at hlater
          exact hlater.skip
      · exact .joinable ((isStandalone_inherit joinable chunk).trans hchunk) fits full hlater
  | @standalone _ _ chunk _ alone _ ih =>
      obtain ⟨hne, hrest⟩ := List.forall_mem_cons.1 ne_nil
      rw [settled_cons, if_neg (hne alone)]
      exact .standalone ((isStandalone_inherit joinable chunk).trans alone) (ih hrest)

theorem Arranged.ne_nil_of_standalone {limit : Nat} {lent : Text} {leaves : List Leaf}
    {chunks : List Chunk} (h : Arranged policy limit lent leaves chunks) :
    ∀ chunk ∈ chunks, policy.isStandalone chunk.toPiece = true → chunk.text ≠ [] := by
  induction h with
  | nil => exact fun _ hmem => absurd hmem List.not_mem_nil
  | joined _ joins _ ih =>
      refine List.forall_mem_cons.2 ⟨fun alone => ?_, ih⟩
      rw [joins.joinable] at alone
      cases alone
  | standalone cuts _ ih =>
      exact List.forall_mem_append.2 ⟨fun _ hmem _ => cuts.ne_nil_of_mem hmem, ih⟩

theorem tight_of_settle {boundaries : List Boundary}
    (ends : boundaries.getLast? = some .character) {piece : Piece}
    (joinable : policy.isStandalone piece = false) {parts : List Chunk} {first last : Nat}
    (h : policy.settle boundaries piece first = .ok parts last) (start : Nat) :
    policy.Tight loose start none parts := by
  cases boundaries with
  | nil => cases ends
  | cons boundary finer =>
      obtain ⟨pieces, second, packed, third, repacked, hsplit, hpack, hrepack, rfl⟩ :=
        settle_cons h
      have hpacked := arranged_of_packs hpack waits_empty (ready_of_split ends arrangesBelow hsplit)
      have hgroups := (groups_of_stitches hrepack hpacked.length_le).1 rfl
      have hrepacked := arranged_of_stitching lends_lendNothing hpacked hrepack
      exact (tight_of_groups hgroups start).settled joinable hrepacked.ne_nil_of_standalone

/-! ## What is packed at the outermost level -/

/-- A piece that has to be divided opens at a place of the text of the pieces. -/
def LongAt (policy : Policy) (pieces : List Piece) (place : Nat) : Prop :=
  ∃ before piece after, pieces = before ++ piece :: after ∧ policy.isLeaf piece = false ∧
    place = (before.flatMap (·.text)).length

theorem longAt_zero {piece : Piece} (long : policy.isLeaf piece = false) (pieces : List Piece) :
    policy.LongAt (piece :: pieces) 0 :=
  ⟨[], piece, pieces, rfl, long, rfl⟩

theorem LongAt.cons {pieces : List Piece} {place : Nat} (h : policy.LongAt pieces place)
    (piece : Piece) : policy.LongAt (piece :: pieces) (piece.length + place) := by
  obtain ⟨before, long, after, rfl, hlong, rfl⟩ := h
  refine ⟨piece :: before, long, after, rfl, hlong, ?_⟩
  rw [List.flatMap_cons, List.length_append]
  rfl

/-- Counted from a place, the pieces that have to be divided open at loose places. -/
def LooseFrom (policy : Policy) (loose : Nat → Prop) (start : Nat) (pieces : List Piece) : Prop :=
  ∀ place, policy.LongAt pieces place → loose (start + place)

theorem LooseFrom.head {start : Nat} {piece : Piece} {pieces : List Piece}
    (h : policy.LooseFrom loose start (piece :: pieces)) (long : policy.isLeaf piece = false) :
    loose start :=
  h 0 (longAt_zero long pieces)

theorem LooseFrom.tail {start : Nat} {piece : Piece} {pieces : List Piece}
    (h : policy.LooseFrom loose start (piece :: pieces)) :
    policy.LooseFrom loose (start + piece.length) pieces := by
  intro place hplace
  rw [Nat.add_assoc]
  exact h _ (hplace.cons piece)

/-- Flushed, what waits from `start` on is a chunk for which the one before has no room. -/
structure Fills (policy : Policy) (loose : Nat → Prop) (start : Nat) (before : Option Nat)
    (waiting : Buffer) : Prop where
  joinable : ∀ part ∈ waiting.chunks, policy.isStandalone part.toPiece = false
  fits : waiting.size ≤ policy.budget.maxSize
  full : ∀ length ∈ before, waiting.chunks ≠ [] ∧
    (policy.budget.maxSize < length + waiting.size ∨ loose start)

namespace Fills

variable {start : Nat} {before : Option Nat} {waiting : Buffer} {chunk : Chunk}

theorem empty (start : Nat) : policy.Fills loose start none .empty where
  joinable _ hmem := absurd hmem List.not_mem_nil
  fits := Nat.zero_le _
  full _ h := nomatch h

theorem single (joinable : policy.isStandalone chunk.toPiece = false)
    (fits : chunk.length ≤ policy.budget.maxSize)
    (full : ∀ length ∈ before, policy.budget.maxSize < length + chunk.length ∨ loose start) :
    policy.Fills loose start before (.single chunk) := by
  have hsize := Buffer.size_of_joined? (Buffer.joined?_single chunk)
  refine ⟨?_, ?_, fun length hlength => ⟨List.cons_ne_nil chunk [], ?_⟩⟩
  · intro part hpart
    rw [List.mem_singleton.1 hpart]
    exact joinable
  · rwa [hsize]
  · rw [hsize]
    exact full length hlength

theorem behind_flushed {packed : Option Chunk} {first last : Nat}
    (joinable : policy.isStandalone chunk.toPiece = false)
    (fits : policy.budget.fits chunk.length = true)
    (flush : waiting.flush first = .ok packed last)
    (full : policy.budget.hasRoom waiting.size chunk.length = false) :
    policy.Fills loose start (packed.map (·.length)) (.single chunk) := by
  refine .single joinable (Budget.fits_iff.1 fits) fun length hlength => ?_
  obtain ⟨before, rfl, rfl⟩ := Option.map_eq_some_iff.1 hlength
  have hpacked := Buffer.toPiece_flush flush
  rw [Option.map_some] at hpacked
  rw [← Buffer.size_of_joined? hpacked.symm]
  exact .inl (Budget.hasRoom_eq_false_iff.1 full)

theorem push (h : policy.Fills loose start before waiting)
    (joinable : policy.isStandalone chunk.toPiece = false)
    (room : policy.budget.hasRoom waiting.size chunk.length = true) :
    policy.Fills loose start before (waiting.push chunk) where
  joinable := by
    rw [Buffer.chunks_push, List.forall_mem_append]
    exact ⟨h.joinable, by simpa using joinable⟩
  fits := Budget.hasRoom_iff.1 room
  full length hlength := by
    rw [Buffer.chunks_push, Buffer.size_push]
    obtain ⟨-, hfull⟩ := h.full length hlength
    exact ⟨by simp, hfull.imp_left fun hfull => by omega⟩

theorem tight {packed : Option Chunk} {chunks : List Chunk} {first last : Nat}
    (h : policy.Fills loose start before waiting)
    (flush : waiting.flush first = .ok packed last)
    (later : policy.Tight loose (start + waiting.size) (packed.map (·.length)) chunks) :
    policy.Tight loose start before (packed.toList ++ chunks) := by
  have hpacked := Buffer.toPiece_flush flush
  cases hchunks : waiting.chunks with
  | nil =>
      have hbefore : before = none := by
        refine Option.eq_none_iff_forall_not_mem.2 fun length hlength => ?_
        exact (h.full length hlength).1 hchunks
      have hsize : waiting.size = 0 := by rw [waiting.size_eq, hchunks]; rfl
      unfold Buffer.joined? at hpacked
      rw [hchunks, Option.map_eq_none_iff] at hpacked
      subst hpacked hbefore
      rwa [hsize] at later
  | cons head rest =>
      have hjoined : waiting.joined? = some (head.toPiece.joinAll (rest.map Chunk.toPiece)) := by
        unfold Buffer.joined?
        rw [hchunks]
      obtain ⟨chunk, rfl, hchunk⟩ := Option.map_eq_some_iff.1 (hpacked.trans hjoined)
      have hsize : waiting.size = chunk.length := by rw [Buffer.size_of_joined? hjoined, hchunk]
      have hfits := h.fits
      rw [hsize] at later hfits
      refine .joinable ?_ hfits (fun length hlength => ?_) later
      · rw [hchunk]
        exact isStandalone_joined fun part hpart => h.joinable part (hchunks ▸ hpart)
      · rw [← hsize]
        exact (h.full length hlength).2

end Fills

theorem Tight.reopen {start : Nat} {before : Option Nat} {parts later : List Chunk}
    (h : policy.Tight loose start before parts) (ne_nil : parts ≠ [])
    (behind : ∀ before,
      policy.Fills loose (start + ((policy.reopen parts).1.flatMap (·.text)).length) before
        (policy.reopen parts).2 →
      policy.Tight loose (start + ((policy.reopen parts).1.flatMap (·.text)).length) before
        later) :
    policy.Tight loose start before ((policy.reopen parts).1 ++ later) := by
  obtain ⟨init, last, rfl⟩ : ∃ init last, parts = init ++ [last] :=
    ⟨_, _, (List.dropLast_concat_getLast ne_nil).symm⟩
  cases alone : policy.isStandalone last.toPiece with
  | true =>
      have hreopen : policy.reopen (init ++ [last]) = (init ++ [last], .empty) := by
        simp [Policy.reopen, alone]
      rw [hreopen] at behind ⊢
      dsimp only at behind ⊢
      rw [List.append_assoc]
      refine h.replace_tail fun before _ => .standalone alone ?_
      rw [List.flatMap_append, List.flatMap_singleton, List.length_append,
        ← Nat.add_assoc] at behind
      exact behind none (.empty _)
  | false =>
      have hreopen : policy.reopen (init ++ [last]) = (init, .single last) := by
        simp [Policy.reopen, alone]
      rw [hreopen] at behind ⊢
      refine h.replace_tail fun before htail => behind before ?_
      cases htail with
      | joinable joinable fits full _ => exact .single joinable fits full
      | standalone halone _ =>
          rw [alone] at halone
          cases halone

theorem length_reopen (parts : List Chunk) :
    ((policy.reopen parts).1.flatMap (·.text)).length + (policy.reopen parts).2.size =
      (parts.flatMap (·.text)).length := by
  rw [Buffer.size_eq, ← List.length_append, ← List.flatMap_append, reopen_append]

/-- A packing pass leaves tight chunks, but for those that a divided piece opens with. -/
theorem tight_of_packs {finer : List Boundary} {waiting : Buffer} {pieces chunks : List Chunk}
    {first last start : Nat} {before : Option Nat}
    (run : Packs policy (fun part => policy.settle finer part.toPiece) waiting pieces first chunks
      last)
    (ready : ∀ piece ∈ pieces, policy.Ready (fun part => policy.settle finer part.toPiece)
      (policy.leaves finer) piece)
    (ends : ∀ piece ∈ pieces, policy.isLeaf piece.toPiece = false →
      finer.getLast? = some .character)
    (opens : policy.LooseFrom loose (start + waiting.size) (pieces.map Chunk.toPiece))
    (fills : policy.Fills loose start before waiting) :
    policy.Tight loose start before chunks := by
  induction run generalizing start before with
  | nil flush =>
      have h := fills.tight flush .nil
      rwa [List.append_nil] at h
  | standalone alone flush cut _ ih =>
      obtain ⟨hpiece, hready⟩ := List.forall_mem_cons.1 ready
      have hcuts := cuts_of_cutStandalone alone hpiece.bare (hpiece.ne_nil alone) cut
      have hlater := ih hready (List.forall_mem_cons.1 ends).2 opens.tail (.empty _)
      rw [List.append_assoc]
      refine fills.tight flush (.prepend_standalone (fun _ => hcuts.isStandalone_of_mem)
        (fun hnil => absurd hnil hcuts.group_ne_nil) ?_)
      rw [hcuts.flatMap_text]
      exact hlater
  | room joinable room _ ih =>
      refine ih (List.forall_mem_cons.1 ready).2 (List.forall_mem_cons.1 ends).2 ?_
        (fills.push joinable room)
      rw [Buffer.size_push, ← Nat.add_assoc]
      exact opens.tail
  | @start waiting piece pieces _ _ _ _ _ joinable full flush fits _ ih =>
      refine fills.tight flush (ih (List.forall_mem_cons.1 ready).2 (List.forall_mem_cons.1 ends).2
        ?_ (.behind_flushed joinable fits flush full))
      rw [Buffer.size_of_joined? (Buffer.joined?_single piece)]
      exact opens.tail
  | @divide waiting piece pieces _ _ _ parts _ later _ joinable full flush long below _ ih =>
      have hlong := isLeaf_eq_false joinable long
      obtain ⟨hpiece, hends⟩ := List.forall_mem_cons.1 ends
      obtain ⟨htext, -⟩ := texts_of_settle (hpiece hlong) below
      have hne : parts ≠ [] := by
        rintro rfl
        have hlength := Budget.fits_eq_false_iff.1 long
        rw [Piece.length, ← htext] at hlength
        exact absurd hlength (Nat.not_lt_zero _)
      -- What waited is flushed whatever the first part is, so that part opens at a loose place.
      have htight : ∀ before, policy.Tight loose (start + waiting.size) before parts := fun _ =>
        (tight_of_settle (hpiece hlong) joinable below _).opening (opens.head hlong)
      rw [List.append_assoc]
      refine fills.tight flush ((htight _).reopen hne fun before hfills =>
        ih (List.forall_mem_cons.1 ready).2 hends ?_ hfills)
      rw [Nat.add_assoc (start + waiting.size), length_reopen, htext]
      exact opens.tail

/-- A piece of the first level that has to be divided opens at a place of the text. -/
def DividesAt (policy : Policy) (boundaries : List Boundary) (text : Text) (place : Nat) : Prop :=
  ∃ boundary ∈ boundaries.head?, policy.LongAt (boundary.divide text).pieces place

theorem tight_of_packed {boundary : Boundary} {finer : List Boundary}
    (ends : (boundary :: finer).getLast? = some .character) {text : Text}
    {pieces packed : List Chunk} {first second third : Nat}
    (split : boundary.split text first = .ok pieces second)
    (pack : Packs policy (fun part => policy.settle finer part.toPiece) .empty pieces second packed
      third) :
    policy.Tight (policy.DividesAt (boundary :: finer) text) 0 none packed := by
  obtain ⟨-, hpieces⟩ := Boundary.split_eq_ok split
  refine tight_of_packs pack (ready_of_split ends arrangesBelow split) (fun piece hpiece long => ?_)
    (fun place hplace => ?_) (.empty 0)
  · exact getLast?_of_long ends (Boundary.mem_divide_of_split split hpiece) long
  · rw [hpieces] at hplace
    rw [Buffer.size_empty, Nat.zero_add]
    exact ⟨boundary, rfl, hplace⟩

end Chunking.Policy
