import Mathlib.Data.List.Forall2
import Mathlib.Data.List.Induction
import Chunking.Proofs.Failures
import Chunking.Proofs.Levels

/-!
# Agreement

What a chunking gives depends on the first number only through the numbers it draws.  Two
runs over the same pieces, started anywhere, give chunks that are alike: the same piece
where a chunk can still grow, and else the same text and metadata but for the number a
fragment is linked to.
-/

namespace Chunking

/-! ## Related lists -/

theorem forall₂_trans {first : α → β → Prop} {second : β → γ → Prop} {both : α → γ → Prop}
    (trans : ∀ x y z, first x y → second y z → both x z) {xs : List α} {ys : List β}
    {zs : List γ} (h : List.Forall₂ first xs ys) (hother : List.Forall₂ second ys zs) :
    List.Forall₂ both xs zs := by
  induction h generalizing zs with
  | nil =>
      rw [List.forall₂_nil_left_iff.1 hother]
      exact .nil
  | cons hhead _ ih =>
      obtain ⟨z, rest, hz, hrest, rfl⟩ := List.forall₂_cons_left_iff.1 hother
      exact .cons (trans _ _ _ hhead hz) (ih hrest)

theorem forall₂_getLast? {related : α → β → Prop} {xs : List α} {ys : List β}
    (h : List.Forall₂ related xs ys) : Option.Rel related xs.getLast? ys.getLast? := by
  induction h with
  | nil => exact .none
  | @cons _ _ xs ys hhead hrest ih =>
      cases hrest with
      | nil => exact .some hhead
      | cons =>
          rw [List.getLast?_cons_cons, List.getLast?_cons_cons]
          exact ih

/-! ## Computations run twice -/

namespace Numbering

/-- From some first number, the computation gives the value. -/
def Gives (action : Numbering α) (value : α) : Prop :=
  ∃ first last, action first = .ok value last

/-- Whatever numbers the two computations start from, what they give is related. -/
def Agree (related : α → β → Prop) (action : Numbering α) (other : Numbering β) : Prop :=
  ∀ ⦃value result⦄, action.Gives value → other.Gives result → related value result

theorem gives_pure_iff {value result : α} :
    (pure value : Numbering α).Gives result ↔ result = value := by
  constructor
  · rintro ⟨first, last, h⟩
    cases h
    rfl
  · rintro rfl
    exact ⟨0, 0, rfl⟩

theorem Gives.of_bind {action : Numbering α} {later : α → Numbering β} {result : β}
    (h : (action >>= later).Gives result) :
    ∃ value, action.Gives value ∧ (later value).Gives result := by
  obtain ⟨first, last, h⟩ := h
  obtain ⟨value, middle, haction, hlater⟩ := bind_eq_ok_iff.1 h
  exact ⟨value, ⟨first, middle, haction⟩, middle, last, hlater⟩

variable {related : α → β → Prop} {also : γ → δ → Prop} {action : Numbering α}
  {other : Numbering β}

theorem agree_pure {value : α} {result : β} (h : related value result) :
    Agree related (pure value) (pure result) := by
  intro _ _ hvalue hresult
  rw [gives_pure_iff.1 hvalue, gives_pure_iff.1 hresult]
  exact h

theorem Agree.bind {later : α → Numbering γ} {next : β → Numbering δ}
    (h : Agree related action other)
    (hlater : ∀ value result, related value result → Agree also (later value) (next result)) :
    Agree also (action >>= later) (other >>= next) := by
  intro _ _ hleft hright
  obtain ⟨value, hvalue, hleft⟩ := hleft.of_bind
  obtain ⟨result, hresult, hright⟩ := hright.of_bind
  exact hlater value result (h hvalue hresult) hleft hright

theorem Agree.bind_pure {f : α → γ} {g : β → δ} (h : Agree related action other)
    (hmap : ∀ value result, related value result → also (f value) (g result)) :
    Agree also (action >>= fun value => pure (f value)) (other >>= fun result => pure (g result)) :=
  h.bind fun value result hrelated => agree_pure (hmap value result hrelated)

theorem Agree.tryCatch {instead : UnclosedTag → Numbering α} {otherwise : UnclosedTag → Numbering β}
    {stop : Option UnclosedTag} (h : Agree related action other) (hstop : action.StopsAt stop)
    (hother : other.StopsAt stop)
    (hinstead : ∀ tag, Agree related (instead tag) (otherwise tag)) :
    Agree related (tryCatch action instead) (tryCatch other otherwise) := by
  rintro value result ⟨first, last, hvalue⟩ ⟨second, final, hresult⟩
  cases stop with
  | none =>
      obtain ⟨_, middle, hleft⟩ := hstop.exists_ok first
      obtain ⟨_, next, hright⟩ := hother.exists_ok second
      rw [tryCatch_of_ok hleft] at hvalue
      rw [tryCatch_of_ok hright] at hresult
      cases hvalue
      cases hresult
      exact h ⟨_, _, hleft⟩ ⟨_, _, hright⟩
  | some tag =>
      obtain ⟨middle, hleft⟩ := hstop.exists_error first
      obtain ⟨next, hright⟩ := hother.exists_error second
      rw [tryCatch_of_error hleft] at hvalue
      rw [tryCatch_of_error hright] at hresult
      exact hinstead tag ⟨_, _, hvalue⟩ ⟨_, _, hresult⟩

end Numbering

open Chunking.Numbering (Agree agree_pure)

/-! ## Chunks that are alike -/

/-- The chunks have the same text, and the same metadata but for a link. -/
structure Chunk.Resembles (chunk other : Chunk) : Prop where
  text_eq : other.text = chunk.text
  get?_eq : ∀ key, key ≠ Metadata.previousKey → other.get? key = chunk.get? key

namespace Policy

variable {policy : Policy} {chunk other : Chunk}

/-- The chunks are the same piece, which is not linked and fits. -/
structure Same (policy : Policy) (chunk other : Chunk) : Prop where
  toPiece_eq : other.toPiece = chunk.toPiece
  unlinked : chunk.get? Metadata.previousKey = none
  length_le : chunk.length ≤ policy.budget.maxSize

/-- The chunks differ only in their numbers, and in those that they are linked to. -/
inductive Alike (policy : Policy) (chunk other : Chunk) : Prop
  | same (same : policy.Same chunk other)
  | slice (alone : policy.isStandalone chunk.toPiece = true) (resembles : chunk.Resembles other)
      (linked_iff : other.get? Metadata.previousKey = none ↔
        chunk.get? Metadata.previousKey = none)

theorem isStandalone_congr {piece other : Piece}
    (h : other.get? Metadata.kindKey = piece.get? Metadata.kindKey) :
    policy.isStandalone other = policy.isStandalone piece := by
  unfold isStandalone
  rw [h]

theorem Same.resembles (h : policy.Same chunk other) : chunk.Resembles other :=
  ⟨congrArg Piece.text h.toPiece_eq, fun key _ => congrArg (Piece.get? · key) h.toPiece_eq⟩

namespace Alike

theorem resembles (h : policy.Alike chunk other) : chunk.Resembles other := by
  cases h with
  | same same => exact same.resembles
  | slice _ resembles _ => exact resembles

theorem linked_iff (h : policy.Alike chunk other) :
    other.get? Metadata.previousKey = none ↔ chunk.get? Metadata.previousKey = none := by
  cases h with
  | same same => rw [same.toPiece_eq]
  | slice _ _ linked_iff => exact linked_iff

theorem isStandalone_eq (h : policy.Alike chunk other) :
    policy.isStandalone other.toPiece = policy.isStandalone chunk.toPiece :=
  isStandalone_congr (h.resembles.get?_eq _ (by decide))

theorem same_of_joinable (h : policy.Alike chunk other)
    (joinable : policy.isStandalone chunk.toPiece = false) : policy.Same chunk other := by
  cases h with
  | same same => exact same
  | slice alone =>
      rw [joinable] at alone
      cases alone

end Alike

/-! ## What waits -/

/-- The same pieces wait, none of them linked, and they have room. -/
structure SameWaiting (policy : Policy) (waiting other : Buffer) : Prop where
  pieces_eq : other.chunks.map Chunk.toPiece = waiting.chunks.map Chunk.toPiece
  unlinked : ∀ piece ∈ waiting.chunks.map Chunk.toPiece, piece.get? Metadata.previousKey = none
  size_le : waiting.size ≤ policy.budget.maxSize

theorem sameWaiting_empty : policy.SameWaiting .empty .empty :=
  ⟨rfl, fun _ h => absurd h List.not_mem_nil, Nat.zero_le _⟩

theorem get?_joinAll_eq_none {first : Piece} {rest : List Piece} {key : String}
    (h : ∀ piece ∈ first :: rest, piece.get? key = none) :
    (first.joinAll rest).get? key = none := by
  induction rest using List.reverseRecOn with
  | nil =>
      rw [Piece.joinAll_nil]
      exact h first List.mem_cons_self
  | append_singleton rest last ih =>
      rw [← List.cons_append, List.forall_mem_append] at h
      by_cases htext : last.text = []
      · rw [Piece.joinAll_append_of_empty htext]
        exact ih h.1
      · rw [Piece.joinAll_append_of_text htext]
        exact get?_join_eq_none (ih h.1) (h.2 last (List.mem_singleton_self last))

namespace SameWaiting

variable {waiting others : Buffer}

theorem size_eq (h : policy.SameWaiting waiting others) : others.size = waiting.size := by
  have htexts : ∀ buffer : Buffer, buffer.chunks.flatMap (fun chunk => chunk.text) =
      (buffer.chunks.map Chunk.toPiece).flatMap Piece.text := fun buffer => by
    rw [List.flatMap_map]
  rw [others.size_eq, waiting.size_eq, htexts, htexts, h.pieces_eq]

theorem push (h : policy.SameWaiting waiting others) (toPiece_eq : other.toPiece = chunk.toPiece)
    (unlinked : chunk.get? Metadata.previousKey = none)
    (room : policy.budget.hasRoom waiting.size chunk.length = true) :
    policy.SameWaiting (waiting.push chunk) (others.push other) where
  pieces_eq := by simp [h.pieces_eq, toPiece_eq]
  unlinked := by
    rw [Buffer.chunks_push, List.map_append, List.forall_mem_append]
    refine ⟨h.unlinked, ?_⟩
    simpa using unlinked
  size_le := Budget.hasRoom_iff.1 room

theorem single (h : policy.Same chunk other) : policy.SameWaiting (.single chunk) (.single other) :=
  sameWaiting_empty.push h.toPiece_eq h.unlinked (by simpa [Budget.hasRoom_iff] using h.length_le)

theorem agree_flush (h : policy.SameWaiting waiting others) :
    Agree (Option.Rel policy.Same) waiting.flush others.flush := by
  rintro packed result ⟨first, last, hpacked⟩ ⟨second, final, hresult⟩
  unfold Buffer.flush at hpacked hresult
  have hpieces := h.pieces_eq
  cases hwaiting : waiting.chunks with
  | nil =>
      rw [hwaiting, List.map_nil, List.map_eq_nil_iff] at hpieces
      rw [hwaiting] at hpacked
      rw [hpieces] at hresult
      cases hpacked
      cases hresult
      exact .none
  | cons head rest =>
      cases hothers : others.chunks with
      | nil => simp [hwaiting, hothers] at hpieces
      | cons start more =>
          have hunlinked := h.unlinked
          have hsize := h.size_le
          rw [hwaiting] at hpacked hunlinked
          rw [hothers] at hresult
          rw [hwaiting, hothers, List.map_cons, List.map_cons, List.cons.injEq] at hpieces
          rw [Waits.size_eq hwaiting] at hsize
          obtain ⟨chunk, rfl, hchunk⟩ := Chunk.joinAll_cons hpacked
          obtain ⟨other, rfl, hother⟩ := Chunk.joinAll_cons hresult
          refine .some ⟨?_, ?_, ?_⟩
          · rw [hother, hchunk, hpieces.1, hpieces.2]
          · rw [hchunk]
            exact get?_joinAll_eq_none hunlinked
          · rw [hchunk]
            exact hsize

end SameWaiting

theorem forall₂_toList {packed result : Option Chunk} (h : Option.Rel policy.Same packed result) :
    List.Forall₂ policy.Alike packed.toList result.toList := by
  cases h with
  | none => exact .nil
  | some same => exact .cons (.same same) .nil

/-! ## Standalone pieces -/

theorem agree_numberSlices {metadata : Metadata} {kind : String}
    (hkind : metadata.get? Metadata.kindKey = some kind) (alone : kind ∈ policy.standalone)
    (unlinked : metadata.get? Metadata.previousKey = none) {previous before : Option Nat}
    (linked_iff : before = none ↔ previous = none) (slices : List Text) :
    Agree (List.Forall₂ policy.Alike) (Chunk.numberSlices metadata previous slices)
      (Chunk.numberSlices metadata before slices) := by
  induction slices generalizing previous before with
  | nil => exact agree_pure .nil
  | cons slice rest ih =>
      rintro chunks others ⟨first, last, hchunks⟩ ⟨second, final, hothers⟩
      obtain ⟨later, rfl, hlater⟩ := Chunk.numberSlices_cons hchunks
      obtain ⟨more, rfl, hmore⟩ := Chunk.numberSlices_cons hothers
      have hkeys : ∀ {previous : Option Nat} {key : String}, key ≠ Metadata.previousKey →
          (Chunk.linkedTo metadata previous).get? key = metadata.get? key :=
        fun hkey => Chunk.get?_linkedTo_of_ne metadata _ hkey
      have hnumbered : some second = none ↔ some first = none := by simp
      have hslices := ih hnumbered
      refine .cons (.slice ?_ ⟨rfl, fun key hkey => ?_⟩ ?_) (hslices ⟨_, _, hlater⟩ ⟨_, _, hmore⟩)
      · exact isStandalone_eq_true_iff.2 ⟨kind, alone, (hkeys (by decide)).trans hkind⟩
      · exact (hkeys hkey).trans (hkeys hkey).symm
      · show (Chunk.linkedTo metadata before).get? _ = none ↔
          (Chunk.linkedTo metadata previous).get? _ = none
        rw [Chunk.get?_linkedTo_previous unlinked, Chunk.get?_linkedTo_previous unlinked,
          Option.map_eq_none_iff, Option.map_eq_none_iff, linked_iff]

theorem agree_cutStandalone (alone : policy.isStandalone chunk.toPiece = true)
    (unlinked : chunk.get? Metadata.previousKey = none)
    (toPiece_eq : other.toPiece = chunk.toPiece) :
    Agree (List.Forall₂ policy.Alike) (policy.cutStandalone chunk)
      (policy.cutStandalone other) := by
  unfold cutStandalone
  rw [toPiece_eq]
  split
  · next fits =>
      exact agree_pure (.cons (.same ⟨toPiece_eq, unlinked, Budget.fits_iff.1 fits⟩) .nil)
  · obtain ⟨kind, hmem, hkind⟩ := isStandalone_eq_true_iff.1 alone
    exact agree_numberSlices hkind hmem unlinked Iff.rfl _

/-! ## Packing -/

theorem exists_of_forall₂_append {related : α → β → Prop} {xs ys : List α} {zs : List β}
    (h : List.Forall₂ related (xs ++ ys) zs) :
    ∃ us vs, zs = us ++ vs ∧ List.Forall₂ related xs us ∧ List.Forall₂ related ys vs := by
  induction xs generalizing zs with
  | nil => exact ⟨[], zs, rfl, .nil, h⟩
  | cons x xs ih =>
      obtain ⟨z, rest, hhead, hrest, rfl⟩ := List.forall₂_cons_left_iff.1 h
      obtain ⟨us, vs, rfl, hxs, hys⟩ := ih hrest
      exact ⟨z :: us, vs, rfl, .cons hhead hxs, hys⟩

theorem alike_reopen {parts others : List Chunk} (h : List.Forall₂ policy.Alike parts others) :
    List.Forall₂ policy.Alike (policy.reopen parts).1 (policy.reopen others).1 ∧
      policy.SameWaiting (policy.reopen parts).2 (policy.reopen others).2 := by
  rcases List.eq_nil_or_concat parts with rfl | ⟨init, last, rfl⟩
  · rw [List.forall₂_nil_left_iff.1 h]
    exact ⟨.nil, sameWaiting_empty⟩
  · rw [List.concat_eq_append] at h ⊢
    obtain ⟨start, rest, rfl, hinit, hrest⟩ := exists_of_forall₂_append h
    obtain ⟨final, tail, hlast, htail, rfl⟩ := List.forall₂_cons_left_iff.1 hrest
    rw [List.forall₂_nil_left_iff.1 htail] at h ⊢
    unfold reopen
    rw [List.getLast?_concat, List.getLast?_concat]
    dsimp only
    rw [hlast.isStandalone_eq]
    split
    · exact ⟨h, sameWaiting_empty⟩
    · next joinable =>
        rw [List.dropLast_concat, List.dropLast_concat]
        exact ⟨hinit, .single (hlast.same_of_joinable (Bool.eq_false_iff.2 joinable))⟩

theorem agree_pack {below : Piece → Numbering (List Chunk)} {pieces others : List Chunk}
    {waiting waited : Buffer}
    (pieces_eq : others.map Chunk.toPiece = pieces.map Chunk.toPiece)
    (unlinked : ∀ piece ∈ pieces, piece.get? Metadata.previousKey = none)
    (hbelow : ∀ piece ∈ pieces, policy.isLeaf piece.toPiece = false →
      Agree (List.Forall₂ policy.Alike) (below piece.toPiece) (below piece.toPiece))
    (waits : policy.SameWaiting waiting waited) :
    Agree (List.Forall₂ policy.Alike) (policy.pack (fun part => below part.toPiece) waiting pieces)
      (policy.pack (fun part => below part.toPiece) waited others) := by
  induction pieces generalizing others waiting waited with
  | nil =>
      rw [List.map_nil, List.map_eq_nil_iff] at pieces_eq
      rw [pieces_eq]
      exact waits.agree_flush.bind_pure fun _ _ hpacked => forall₂_toList hpacked
  | cons piece pieces ih =>
      obtain ⟨other, others, rfl, hother, hothers⟩ := List.map_eq_cons_iff.1 pieces_eq
      rw [List.forall_mem_cons] at unlinked hbelow
      have hrest : ∀ {waiting waited : Buffer}, policy.SameWaiting waiting waited →
          Agree (List.Forall₂ policy.Alike)
            (policy.pack (fun part => below part.toPiece) waiting pieces)
            (policy.pack (fun part => below part.toPiece) waited others) :=
        ih hothers unlinked.2 hbelow.2
      unfold pack
      rw [hother, waits.size_eq]
      by_cases alone : policy.isStandalone piece.toPiece = true
      · rw [if_pos alone, if_pos alone]
        refine waits.agree_flush.bind fun packed result hpacked => ?_
        refine (agree_cutStandalone alone unlinked.1 hother).bind fun own cut hown => ?_
        exact (hrest sameWaiting_empty).bind_pure fun later more hlater =>
          List.rel_append (List.rel_append (forall₂_toList hpacked) hown) hlater
      · rw [if_neg alone, if_neg alone]
        by_cases room : policy.budget.hasRoom waiting.size piece.length = true
        · rw [if_pos room, if_pos room]
          exact hrest (waits.push hother unlinked.1 room)
        · rw [if_neg room, if_neg room]
          refine waits.agree_flush.bind fun packed result hpacked => ?_
          by_cases fits : policy.budget.fits piece.length = true
          · rw [if_pos fits, if_pos fits]
            have hsame : policy.Same piece other :=
              ⟨hother, unlinked.1, Budget.fits_iff.1 fits⟩
            exact (hrest (.single hsame)).bind_pure fun later more hlater =>
              List.rel_append (forall₂_toList hpacked) hlater
          · rw [if_neg fits, if_neg fits]
            have hlong : policy.isLeaf piece.toPiece = false :=
              isLeaf_eq_false (Bool.eq_false_iff.2 alone) (Bool.eq_false_iff.2 fits)
            refine (hbelow.1 hlong).bind fun parts found hparts => ?_
            obtain ⟨hfinished, hgrowing⟩ := alike_reopen hparts
            exact (hrest hgrowing).bind_pure fun later more hlater =>
              List.rel_append (List.rel_append (forall₂_toList hpacked) hfinished) hlater

/-! ## Stitching -/

/-- Behind borrowed text, only what both parts know is left, so a link of the first is lost. -/
theorem join_congr {lent other piece : Piece} (text_eq : other.text = lent.text)
    (get?_eq : ∀ key, key ≠ Metadata.previousKey → other.get? key = lent.get? key)
    (hlent : lent.text ≠ []) (hpiece : piece.text ≠ [])
    (unlinked : piece.get? Metadata.previousKey = none) : other.join piece = lent.join piece := by
  have hother : other.text ≠ [] := by rwa [text_eq]
  ext1
  · unfold Piece.join
    rw [text_eq]
  · apply Metadata.ext_get?
    intro key
    apply Option.ext
    intro value
    have hjoin : ∀ {first : Piece}, first.text ≠ [] → ((first.join piece).get? key = some value ↔
        first.get? key = some value ∧ piece.get? key = some value) :=
      fun hfirst => Piece.get?_join_of_text hfirst hpiece
    refine (hjoin hother).trans (Iff.trans ?_ (hjoin hlent).symm)
    by_cases hkey : key = Metadata.previousKey
    · rw [hkey, unlinked]
      simp
    · rw [get?_eq key hkey]

theorem agree_withBorrowed {borrowed lent : Option Chunk} (same : policy.Same chunk other)
    (hborrowed : Option.Rel Chunk.Resembles borrowed lent) (ne_nil : chunk.text ≠ []) :
    Agree policy.Same (policy.withBorrowed borrowed chunk) (policy.withBorrowed lent other) := by
  cases hborrowed with
  | none => exact agree_pure same
  | @some donor lender resembles =>
      unfold withBorrowed
      dsimp only
      have hlength : lender.length = donor.length := congrArg List.length resembles.text_eq
      rw [resembles.text_eq, hlength, same.toPiece_eq]
      split
      · next hroom =>
          rw [Bool.and_eq_true, Bool.and_eq_true] at hroom
          have hdonor : donor.text ≠ [] := by simpa using hroom.1.1
          rintro joined result ⟨first, last, hjoined⟩ ⟨second, final, hresult⟩
          have hleft := Chunk.join_eq_ok hjoined
          have hright := Chunk.join_eq_ok hresult
          refine ⟨?_, ?_, ?_⟩
          · rw [hright, hleft, same.toPiece_eq]
            exact join_congr resembles.text_eq resembles.get?_eq hdonor ne_nil same.unlinked
          · rw [hleft, Option.eq_none_iff_forall_ne_some]
            intro value hvalue
            have hlink := ((Piece.get?_join_of_text hdonor ne_nil).1 hvalue).2
            rw [same.unlinked] at hlink
            cases hlink
          · rw [hleft]
            show (donor.text ++ chunk.text).length ≤ _
            rw [List.length_append]
            exact Budget.hasRoom_iff.1 hroom.2
      · exact agree_pure same

theorem agree_stitch {lend lendOther : Chunk → Numbering (Option Chunk)}
    (hlend : ∀ packed other, policy.Same packed other →
      Agree (Option.Rel Chunk.Resembles) (lend packed) (lendOther other))
    {chunks others : List Chunk} {waiting waited : Buffer}
    (alike : List.Forall₂ policy.Alike chunks others) (waits : policy.SameWaiting waiting waited) :
    Agree (List.Forall₂ policy.Alike) (policy.stitch lend waiting chunks)
      (policy.stitch lendOther waited others) := by
  induction alike generalizing waiting waited with
  | nil => exact waits.agree_flush.bind_pure fun _ _ hpacked => forall₂_toList hpacked
  | @cons chunk other chunks others hchunk _ ih =>
      unfold stitch
      by_cases alone : policy.isStandalone chunk.toPiece = true
      · rw [if_pos alone, if_pos (hchunk.isStandalone_eq.trans alone)]
        refine waits.agree_flush.bind fun packed result hpacked => ?_
        exact (ih sameWaiting_empty).bind_pure fun later more hlater =>
          List.rel_append (forall₂_toList hpacked) (.cons hchunk hlater)
      · have same := hchunk.same_of_joinable (Bool.eq_false_iff.2 alone)
        have fits := Budget.fits_iff.2 same.length_le
        rw [same.toPiece_eq, waits.size_eq, if_neg alone, if_neg alone, fits, Bool.not_true,
          if_neg Bool.false_ne_true, if_neg Bool.false_ne_true]
        by_cases room : policy.budget.hasRoom waiting.size chunk.length = true
        · rw [if_pos room, if_pos room]
          exact ih (waits.push same.toPiece_eq same.unlinked room)
        · rw [if_neg room, if_neg room]
          -- What waits is within the limit, so a chunk without room has text.
          have hne : chunk.text ≠ [] := by
            intro hnil
            have hfull := Budget.hasRoom_eq_false_iff.1 (Bool.eq_false_iff.2 room)
            have hsize := waits.size_le
            simp only [Piece.length, hnil, List.length_nil] at hfull
            omega
          refine waits.agree_flush.bind fun packed result hpacked => ?_
          cases hpacked with
          | none => exact ih (.single same)
          | @some packed result hpacked =>
              refine (hlend packed result hpacked).bind fun borrowed lent hborrowed => ?_
              refine (agree_withBorrowed same hborrowed hne).bind fun next joined hnext => ?_
              exact (ih (.single hnext)).bind_pure fun later more hlater =>
                .cons (.same hpacked) hlater

/-! ## Levels -/

theorem Same.inherit (h : policy.Same chunk other) {surroundings : Metadata}
    (unlinked : surroundings.get? Metadata.previousKey = none) :
    policy.Same (chunk.inherit surroundings) (other.inherit surroundings) where
  toPiece_eq := by
    show other.toPiece.inherit surroundings = chunk.toPiece.inherit surroundings
    rw [h.toPiece_eq]
  unlinked := by
    have hchunk : chunk.metadata.get? Metadata.previousKey = none := h.unlinked
    show (chunk.metadata.inherit surroundings).get? Metadata.previousKey = none
    rw [Metadata.get?_inherit, hchunk, unlinked, Option.or_none]
  length_le := h.length_le

theorem Alike.inherit (h : policy.Alike chunk other) {surroundings : Metadata}
    (unlinked : surroundings.get? Metadata.previousKey = none) :
    policy.Alike (chunk.inherit surroundings) (other.inherit surroundings) := by
  have hget : ∀ (chunk : Chunk) key, (chunk.inherit surroundings).get? key =
      (chunk.get? key).or (surroundings.get? key) := fun chunk key =>
    Metadata.get?_inherit chunk.metadata surroundings key
  cases h with
  | same same => exact .same (same.inherit unlinked)
  | slice alone resembles linked_iff =>
      refine .slice ?_ ⟨resembles.text_eq, fun key hkey => ?_⟩ ?_
      · obtain ⟨kind, hmem, hkind⟩ := isStandalone_eq_true_iff.1 alone
        refine isStandalone_eq_true_iff.2 ⟨kind, hmem, ?_⟩
        rw [hget, hkind, Option.some_or]
      · rw [hget, hget, resembles.get?_eq key hkey]
      · rw [hget, hget, unlinked, Option.or_none, Option.or_none]
        exact linked_iff

theorem alike_settled {chunks others : List Chunk} (h : List.Forall₂ policy.Alike chunks others)
    {surroundings : Metadata} (unlinked : surroundings.get? Metadata.previousKey = none) :
    List.Forall₂ policy.Alike (settled surroundings chunks) (settled surroundings others) := by
  unfold settled
  induction h with
  | nil => exact .nil
  | @cons chunk other _ _ hchunk _ ih =>
      have htext : (other.inherit surroundings).text = (chunk.inherit surroundings).text :=
        hchunk.resembles.text_eq
      rw [List.map_cons, List.map_cons, List.filter_cons, List.filter_cons, htext]
      split
      · exact .cons (hchunk.inherit unlinked) ih
      · exact ih

theorem agree_split (boundary : Boundary) (text : Text) :
    Agree (fun pieces others => pieces.map Chunk.toPiece = (boundary.divide text).pieces ∧
      others.map Chunk.toPiece = (boundary.divide text).pieces)
      (boundary.split text) (boundary.split text) := by
  rintro pieces others ⟨first, last, hpieces⟩ ⟨second, final, hothers⟩
  exact ⟨(Boundary.split_eq_ok hpieces).2, (Boundary.split_eq_ok hothers).2⟩

theorem unlinked_of_mem_divide {boundary : Boundary} {text : Text} {piece : Piece}
    (mem : piece ∈ (boundary.divide text).pieces) : piece.get? Metadata.previousKey = none :=
  (isBare_of_marked (boundary.marked_divide text piece mem)).1

theorem agree_level {boundary : Boundary} {finer : List Boundary}
    (ends : (boundary :: finer).getLast? = some .character) {piece other : Piece}
    (text_eq : other.text = piece.text)
    (below : finer.getLast? = some .character → ∀ {part : Piece},
      part.get? Metadata.previousKey = none →
      Agree (List.Forall₂ policy.Alike) (policy.settle finer part) (policy.settle finer part))
    {packAgain packOther : List Chunk → Numbering (List Chunk)}
    (hagain : ∀ {packed others}, List.Forall₂ policy.Alike packed others →
      Agree (List.Forall₂ policy.Alike) (packAgain packed) (packOther others))
    {related : List Chunk → List Chunk → Prop}
    (hsettled : ∀ {repacked more}, List.Forall₂ policy.Alike repacked more →
      related (settled piece.metadata repacked) (settled other.metadata more)) :
    Agree related
      (policy.level boundary (fun part => policy.settle finer part.toPiece) packAgain piece)
      (policy.level boundary (fun part => policy.settle finer part.toPiece) packOther other) := by
  unfold level
  rw [text_eq]
  refine (agree_split boundary piece.text).bind fun pieces others hsplit => ?_
  have hmem : ∀ part ∈ pieces, part.toPiece ∈ (boundary.divide piece.text).pieces := by
    intro part hpart
    rw [← hsplit.1]
    exact List.mem_map_of_mem hpart
  have hunlinked : ∀ part ∈ pieces, part.get? Metadata.previousKey = none := fun part hpart =>
    unlinked_of_mem_divide (hmem part hpart)
  refine (agree_pack (hsplit.2.trans hsplit.1.symm) hunlinked ?_ sameWaiting_empty).bind
    fun packed others hpacked => ?_
  · intro part hpart hlong
    exact below (getLast?_of_long ends (hmem part hpart) hlong) (hunlinked part hpart)
  · exact (hagain hpacked).bind_pure fun repacked more hrepacked => hsettled hrepacked

/-- However often a piece is settled, and from whatever numbers, the chunks are alike. -/
theorem agree_settle {boundaries : List Boundary}
    (ends : boundaries.getLast? = some .character) {piece : Piece}
    (unlinked : piece.get? Metadata.previousKey = none) :
    Agree (List.Forall₂ policy.Alike) (policy.settle boundaries piece)
      (policy.settle boundaries piece) := by
  induction boundaries generalizing piece with
  | nil => cases ends
  | cons boundary finer ih =>
      -- Repacking is stitching where nothing is lent.
      have hrepack : ∀ {packed others}, List.Forall₂ policy.Alike packed others →
          Agree (List.Forall₂ policy.Alike) (policy.repack packed) (policy.repack others) :=
        fun hpacked => agree_stitch (fun _ _ _ => agree_pure .none) hpacked sameWaiting_empty
      exact agree_level ends rfl ih hrepack fun hrepacked => alike_settled hrepacked unlinked

theorem agree_lend {boundaries : List Boundary} (ends : boundaries.getLast? = some .character)
    (same : policy.Same chunk other) :
    Agree (Option.Rel Chunk.Resembles) (policy.lend boundaries chunk)
      (policy.lend boundaries other) := by
  unfold lend
  rw [same.toPiece_eq]
  cases policy.budget.window? with
  | none => exact agree_pure .none
  | some window =>
      dsimp only [lendWithin]
      rw [same.toPiece_eq]
      split
      · exact agree_pure .none
      · split
        · exact agree_pure (.some same.resembles)
        · have hsettle := (policy.within window).agree_settle ends same.unlinked
          refine Agree.bind_pure (hsettle.tryCatch (stopsAt_settle _ _) (stopsAt_settle _ _) ?_)
            fun parts others hparts =>
              forall₂_getLast? (hparts.imp fun _ _ alike => alike.resembles)
          exact fun _ => agree_settle (getLast?_withoutElements ends) same.unlinked

end Policy

end Chunking
