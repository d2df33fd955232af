import Chunking.Proofs.Divisions
import Chunking.Proofs.Agreement

/-!
# Moving the first number

A chunking may start from any number.  Started from one that is greater by `shift`, it stops at
the same tag, or gives the same chunks, all of whose numbers and links are greater by `shift`.
-/

namespace Chunking

theorem Text.decimal_inj {n m : Nat} : decimal n = decimal m ↔ n = m := by
  constructor
  · intro h
    have hdigits := congrArg (Nat.ofDigitChars 10 · 0) (String.ofList_injective h)
    rwa [Nat.ofDigitChars_ten_toDigits, Nat.ofDigitChars_ten_toDigits] at hdigits
  · exact congrArg decimal

/-! ## Computations from two numbers -/

namespace Numbering

/-- From a number greater by `shift`, the other computation has the same outcome up to what is
related, and draws as many numbers. -/
def Moves (shift : Nat) (related : α → β → Prop) (action : Numbering α) (other : Numbering β) :
    Prop :=
  ∀ first,
    (∃ value result last, action first = .ok value last ∧
      other (first + shift) = .ok result (last + shift) ∧ related value result) ∨
    ∃ tag last, action first = .error tag last ∧
      other (first + shift) = .error tag (last + shift)

variable {shift : Nat} {related : α → β → Prop} {also : γ → δ → Prop} {action : Numbering α}
  {other : Numbering β}

theorem moves_pure {value : α} {result : β} (h : related value result) :
    Moves shift related (pure value) (pure result) :=
  fun first => .inl ⟨value, result, first, rfl, rfl, h⟩

theorem Moves.bind {later : α → Numbering γ} {next : β → Numbering δ}
    (h : Moves shift related action other)
    (hlater : ∀ value result, related value result →
      Moves shift also (later value) (next result)) :
    Moves shift also (action >>= later) (other >>= next) := by
  intro first
  rcases h first with ⟨value, result, middle, haction, hother, hrelated⟩ |
    ⟨tag, last, haction, hother⟩
  · rw [bind_of_ok haction, bind_of_ok hother]
    exact hlater value result hrelated middle
  · rw [bind_of_error haction, bind_of_error hother]
    exact .inr ⟨tag, last, rfl, rfl⟩

theorem Moves.bind_pure {f : α → γ} {g : β → δ} (h : Moves shift related action other)
    (hmap : ∀ value result, related value result → also (f value) (g result)) :
    Moves shift also (action >>= fun value => pure (f value))
      (other >>= fun result => pure (g result)) :=
  h.bind fun value result hrelated => moves_pure (hmap value result hrelated)

theorem Moves.tryCatch {instead : UnclosedTag → Numbering α} {otherwise : UnclosedTag → Numbering β}
    (h : Moves shift related action other)
    (hinstead : ∀ tag, Moves shift related (instead tag) (otherwise tag)) :
    Moves shift related (tryCatch action instead) (tryCatch other otherwise) := by
  intro first
  rcases h first with ⟨value, result, last, haction, hother, hrelated⟩ |
    ⟨tag, middle, haction, hother⟩
  · rw [tryCatch_of_ok haction, tryCatch_of_ok hother]
    exact .inl ⟨value, result, last, rfl, rfl, hrelated⟩
  · rw [tryCatch_of_error haction, tryCatch_of_error hother]
    exact hinstead tag middle

end Numbering

open Chunking.Numbering (Moves moves_pure)

variable {shift : Nat}

/-! ## Metadata with a moved link -/

/-- The links that two chunks may have, the second one to a number greater by `shift`. -/
inductive Metadata.MovedLink (shift : Nat) : Option String → Option String → Prop
  | none : MovedLink shift none none
  | some (n : Nat) :
      MovedLink shift (some (Text.decimal n)) (some (Text.decimal (n + shift)))

/-- The same metadata, but for a link that is moved. -/
structure Metadata.Moved (shift : Nat) (metadata other : Metadata) : Prop where
  get?_eq : ∀ key, key ≠ previousKey → other.get? key = metadata.get? key
  link : MovedLink shift (metadata.get? previousKey) (other.get? previousKey)

namespace Metadata

theorem get?_common_eq_ite (a b : Metadata) (key : String) :
    (a.common b).get? key = if a.get? key = b.get? key then a.get? key else none := by
  refine Option.ext fun value => ?_
  rw [get?_common]
  split
  · next heq => rw [heq, and_self]
  · next hne =>
      refine ⟨fun h => absurd (h.1.trans h.2.symm) hne, fun h => nomatch h⟩

namespace Moved

variable {metadata other own richer : Metadata}

theorem of_unlinked (h : metadata.get? previousKey = none) : metadata.Moved shift metadata :=
  ⟨fun _ _ => rfl, h ▸ .none⟩

theorem common (h : metadata.Moved shift other) (hown : own.Moved shift richer) :
    (metadata.common own).Moved shift (other.common richer) where
  get?_eq key hkey := by
    rw [get?_common_eq_ite, get?_common_eq_ite, h.get?_eq key hkey, hown.get?_eq key hkey]
  link := by
    rw [get?_common_eq_ite, get?_common_eq_ite]
    have hlink := h.link
    have hownlink := hown.link
    generalize metadata.get? previousKey = first, other.get? previousKey = moved at hlink
    generalize own.get? previousKey = second, richer.get? previousKey = also at hownlink
    cases hlink with
    | none => cases hownlink <;> exact .none
    | some n =>
        cases hownlink with
        | none => exact .none
        | some m =>
            -- Two links agree just where the moved ones do.
            by_cases heq : n = m
            · subst heq
              rw [if_pos rfl, if_pos rfl]
              exact .some n
            · have hne : n + shift ≠ m + shift := fun h => heq (Nat.add_right_cancel h)
              rw [if_neg (by simpa [Text.decimal_inj] using heq),
                if_neg (by simpa [Text.decimal_inj] using heq)]
              exact .none

theorem inherit (h : metadata.Moved shift other) (hown : own.Moved shift richer) :
    (own.inherit metadata).Moved shift (richer.inherit other) where
  get?_eq key hkey := by
    rw [get?_inherit, get?_inherit, h.get?_eq key hkey, hown.get?_eq key hkey]
  link := by
    rw [get?_inherit, get?_inherit]
    have hlink := h.link
    have hownlink := hown.link
    generalize own.get? previousKey = second, richer.get? previousKey = also at hownlink
    cases hownlink with
    | none => exact hlink
    | some n => exact .some n

theorem insert_previous (h : metadata.Moved shift other) (n : Nat) :
    (metadata.insert previousKey (Text.decimal n)).Moved shift
      (other.insert previousKey (Text.decimal (n + shift))) where
  get?_eq key hkey := by
    rw [get?_insert, get?_insert, if_neg hkey, if_neg hkey, h.get?_eq key hkey]
  link := by
    rw [get?_insert, get?_insert, if_pos rfl, if_pos rfl]
    exact .some n

end Moved

end Metadata

/-! ## Pieces and chunks that are moved -/

structure Piece.Moved (shift : Nat) (piece other : Piece) : Prop where
  text_eq : other.text = piece.text
  metadata : piece.metadata.Moved shift other.metadata

namespace Piece

theorem Moved.length_eq {piece other : Piece} (h : piece.Moved shift other) :
    other.length = piece.length :=
  congrArg List.length h.text_eq

theorem forall₂_withText {pieces others : List Piece}
    (h : List.Forall₂ (Moved shift) pieces others) :
    List.Forall₂ (Moved shift) (withText pieces) (withText others) := by
  refine List.rel_filter ?_ h
  intro piece other moved
  dsimp only
  rw [moved.text_eq]

theorem flatMap_eq_of_moved {pieces others : List Piece}
    (h : List.Forall₂ (Moved shift) pieces others) :
    others.flatMap Piece.text = pieces.flatMap Piece.text := by
  induction h with
  | nil => rfl
  | cons hhead _ ih => rw [List.flatMap_cons, List.flatMap_cons, hhead.text_eq, ih]

theorem Moved.joinAll {first other : Piece} {rest others : List Piece}
    (h : first.Moved shift other) (hrest : List.Forall₂ (Moved shift) rest others) :
    (first.joinAll rest).Moved shift (other.joinAll others) where
  text_eq := flatMap_eq_of_moved (.cons h hrest)
  metadata := by
    have hwith := forall₂_withText (List.Forall₂.cons h hrest)
    unfold Piece.joinAll
    generalize withText (first :: rest) = left, withText (other :: others) = right at hwith
    cases hwith with
    | nil => exact h.metadata
    | cons hhead htail =>
        refine List.rel_foldl ?_ hhead.metadata htail
        exact fun _ _ hagreed _ _ hpiece => hagreed.common hpiece.metadata

theorem Moved.join {first second other next : Piece} (h : first.Moved shift other)
    (hnext : second.Moved shift next) : (first.join second).Moved shift (other.join next) where
  text_eq := by
    unfold Piece.join
    rw [h.text_eq, hnext.text_eq]
  metadata := by
    unfold Piece.join
    rw [h.text_eq, hnext.text_eq]
    dsimp only
    split
    · exact hnext.metadata
    · split
      · exact h.metadata
      · exact h.metadata.common hnext.metadata

end Piece

/-- The same piece up to a moved link, with a number greater by `shift`. -/
structure Chunk.Moved (shift : Nat) (chunk other : Chunk) : Prop where
  id_eq : other.id = chunk.id + shift
  piece : chunk.toPiece.Moved shift other.toPiece

namespace Chunk

theorem moves_number {piece other : Piece} (h : piece.Moved shift other) :
    Moves shift (Moved shift) (number piece) (number other) :=
  fun first => .inl ⟨{ piece with id := first }, { other with id := first + shift }, first + 1, rfl,
    by rw [number_apply, Nat.add_right_comm], rfl, h⟩

theorem forall₂_toPiece {chunks others : List Chunk}
    (h : List.Forall₂ (Moved shift) chunks others) :
    List.Forall₂ (Piece.Moved shift) (chunks.map Chunk.toPiece) (others.map Chunk.toPiece) :=
  List.forall₂_map_left_iff.2 (List.forall₂_map_right_iff.2 (h.imp fun _ _ moved => moved.piece))

theorem moves_joinAll {chunks others : List Chunk} (h : List.Forall₂ (Moved shift) chunks others) :
    Moves shift (Option.Rel (Moved shift)) (joinAll chunks) (joinAll others) := by
  cases h with
  | nil => exact moves_pure .none
  | cons hhead htail =>
      cases htail with
      | nil => exact moves_pure (.some hhead)
      | cons hnext hrest =>
          have hjoined := hhead.piece.joinAll (forall₂_toPiece (.cons hnext hrest))
          exact (moves_number hjoined).bind_pure fun _ _ moved => .some moved

theorem moves_numberSlices {metadata other : Metadata} (h : metadata.Moved shift other)
    {previous before : Option Nat} (hprevious : before = previous.map (· + shift))
    (slices : List Text) :
    Moves shift (List.Forall₂ (Moved shift)) (numberSlices metadata previous slices)
      (numberSlices other before slices) := by
  induction slices generalizing previous before with
  | nil => exact moves_pure .nil
  | cons slice rest ih =>
      have hslice : Piece.Moved shift ⟨slice, linkedTo metadata previous⟩
          ⟨slice, linkedTo other before⟩ := by
        refine ⟨rfl, ?_⟩
        rw [hprevious]
        cases previous with
        | none => exact h
        | some id => exact h.insert_previous id
      have hall := (moves_number hslice).bind fun chunk moved hmoved =>
        have hid : some moved.id = (some chunk.id).map (· + shift) := congrArg some hmoved.id_eq
        (ih hid).bind_pure fun _ _ hlater => List.Forall₂.cons hmoved hlater
      rw [hprevious] at hall ⊢
      cases previous <;> exact hall

theorem forall₂_consecutive {pieces : List Piece}
    (unlinked : ∀ piece ∈ pieces, piece.get? Metadata.previousKey = none) (first : Nat) :
    List.Forall₂ (Moved shift) (consecutive first pieces)
      (consecutive (first + shift) pieces) := by
  induction pieces generalizing first with
  | nil => exact .nil
  | cons piece rest ih =>
      obtain ⟨hpiece, hrest⟩ := List.forall_mem_cons.1 unlinked
      have hlater := ih hrest (first + 1)
      rw [Nat.add_right_comm] at hlater
      exact .cons ⟨rfl, rfl, .of_unlinked hpiece⟩ hlater

end Chunk

/-! ## Packing -/

theorem Buffer.size_eq_of_moved {waiting others : Buffer}
    (h : List.Forall₂ (Chunk.Moved shift) waiting.chunks others.chunks) :
    others.size = waiting.size := by
  have htexts := Piece.flatMap_eq_of_moved (Chunk.forall₂_toPiece h)
  rw [List.flatMap_map, List.flatMap_map] at htexts
  rw [others.size_eq, waiting.size_eq, htexts]

theorem Buffer.moved_empty : List.Forall₂ (Chunk.Moved shift) empty.chunks empty.chunks :=
  .nil

theorem Buffer.moved_push {waiting others : Buffer} {chunk other : Chunk}
    (h : List.Forall₂ (Chunk.Moved shift) waiting.chunks others.chunks)
    (hchunk : chunk.Moved shift other) :
    List.Forall₂ (Chunk.Moved shift) (waiting.push chunk).chunks (others.push other).chunks :=
  List.rel_append h (.cons hchunk .nil)

theorem forall₂_toList_of_rel {related : α → β → Prop} {value : Option α} {other : Option β}
    (h : Option.Rel related value other) : List.Forall₂ related value.toList other.toList := by
  cases h with
  | none => exact .nil
  | some hrelated => exact .cons hrelated .nil

namespace Policy

variable {policy : Policy} {chunk other : Chunk}

theorem isStandalone_of_moved {piece other : Piece} (h : piece.Moved shift other) :
    policy.isStandalone other = policy.isStandalone piece := by
  have hkind : other.get? Metadata.kindKey = piece.get? Metadata.kindKey :=
    h.metadata.get?_eq _ (by decide)
  unfold isStandalone
  rw [hkind]

theorem moves_fragments {piece other : Piece} (h : piece.Moved shift other) :
    Moves shift (List.Forall₂ (Chunk.Moved shift)) (policy.fragments piece)
      (policy.fragments other) := by
  unfold fragments Chunk.fragments
  rw [h.text_eq]
  exact Chunk.moves_numberSlices h.metadata rfl _

theorem moves_cutStandalone (h : chunk.Moved shift other) :
    Moves shift (List.Forall₂ (Chunk.Moved shift)) (policy.cutStandalone chunk)
      (policy.cutStandalone other) := by
  unfold cutStandalone
  rw [h.piece.length_eq]
  split
  · exact moves_pure (.cons h .nil)
  · exact moves_fragments h.piece

theorem moved_reopen (policy : Policy) {parts others : List Chunk}
    (h : List.Forall₂ (Chunk.Moved shift) parts others) :
    List.Forall₂ (Chunk.Moved shift) (policy.reopen parts).1 (policy.reopen others).1 ∧
      List.Forall₂ (Chunk.Moved shift) (policy.reopen parts).2.chunks
        (policy.reopen others).2.chunks := by
  have hlast := forall₂_getLast? h
  unfold reopen
  generalize parts.getLast? = last, others.getLast? = final at hlast
  cases hlast with
  | none => exact ⟨.nil, .nil⟩
  | some hlast =>
      dsimp only
      rw [isStandalone_of_moved hlast.piece]
      split
      · exact ⟨h, .nil⟩
      · rw [List.dropLast_eq_take, List.dropLast_eq_take, h.length_eq]
        exact ⟨List.forall₂_take _ h, .cons hlast .nil⟩

theorem moves_pack {below beyond : Chunk → Numbering (List Chunk)}
    (hbelow : ∀ piece other, piece.Moved shift other →
      Moves shift (List.Forall₂ (Chunk.Moved shift)) (below piece) (beyond other))
    {pieces others : List Chunk} (h : List.Forall₂ (Chunk.Moved shift) pieces others)
    {waiting waited : Buffer}
    (waits : List.Forall₂ (Chunk.Moved shift) waiting.chunks waited.chunks) :
    Moves shift (List.Forall₂ (Chunk.Moved shift)) (policy.pack below waiting pieces)
      (policy.pack beyond waited others) := by
  induction h generalizing waiting waited with
  | nil => exact (Chunk.moves_joinAll waits).bind_pure fun _ _ => forall₂_toList_of_rel
  | @cons piece other pieces others hpiece _ ih =>
      have hflush := Chunk.moves_joinAll waits
      unfold pack
      rw [isStandalone_of_moved hpiece.piece, hpiece.piece.length_eq,
        Buffer.size_eq_of_moved waits]
      split
      · refine hflush.bind fun packed result hpacked => ?_
        refine (moves_cutStandalone hpiece).bind fun own cut hown => ?_
        exact (ih .nil).bind_pure fun later more hlater =>
          List.rel_append (List.rel_append (forall₂_toList_of_rel hpacked) hown) hlater
      · split
        · exact ih (Buffer.moved_push waits hpiece)
        · refine hflush.bind fun packed result hpacked => ?_
          split
          · exact (ih (.cons hpiece .nil)).bind_pure fun later more hlater =>
              List.rel_append (forall₂_toList_of_rel hpacked) hlater
          · refine (hbelow piece other hpiece).bind fun parts found hparts => ?_
            obtain ⟨hfinished, hgrowing⟩ := policy.moved_reopen hparts
            exact (ih hgrowing).bind_pure fun later more hlater =>
              List.rel_append (List.rel_append (forall₂_toList_of_rel hpacked) hfinished) hlater

/-! ## Stitching -/

theorem moves_withBorrowed {borrowed lent : Option Chunk} (h : chunk.Moved shift other)
    (hborrowed : Option.Rel (Chunk.Moved shift) borrowed lent) :
    Moves shift (Chunk.Moved shift) (policy.withBorrowed borrowed chunk)
      (policy.withBorrowed lent other) := by
  cases hborrowed with
  | none => exact moves_pure h
  | some hdonor =>
      unfold withBorrowed
      dsimp only
      rw [hdonor.piece.text_eq, hdonor.piece.length_eq, h.piece.length_eq]
      split
      · exact Chunk.moves_number (hdonor.piece.join h.piece)
      · exact moves_pure h

theorem moves_stitch {lend lendOther : Chunk → Numbering (Option Chunk)}
    (hlend : ∀ packed other, packed.Moved shift other →
      Moves shift (Option.Rel (Chunk.Moved shift)) (lend packed) (lendOther other))
    {chunks others : List Chunk} (h : List.Forall₂ (Chunk.Moved shift) chunks others)
    {waiting waited : Buffer}
    (waits : List.Forall₂ (Chunk.Moved shift) waiting.chunks waited.chunks) :
    Moves shift (List.Forall₂ (Chunk.Moved shift)) (policy.stitch lend waiting chunks)
      (policy.stitch lendOther waited others) := by
  induction h generalizing waiting waited with
  | nil => exact (Chunk.moves_joinAll waits).bind_pure fun _ _ => forall₂_toList_of_rel
  | @cons chunk other chunks others hchunk _ ih =>
      have hflush := Chunk.moves_joinAll waits
      unfold stitch
      rw [isStandalone_of_moved hchunk.piece, hchunk.piece.length_eq,
        Buffer.size_eq_of_moved waits]
      split
      · refine hflush.bind fun packed result hpacked => ?_
        exact (ih .nil).bind_pure fun later more hlater =>
          List.rel_append (forall₂_toList_of_rel hpacked) (.cons hchunk hlater)
      · split
        · refine hflush.bind fun packed result hpacked => ?_
          refine (moves_fragments hchunk.piece).bind fun parts found hparts => ?_
          obtain ⟨hfinished, hgrowing⟩ := policy.moved_reopen hparts
          exact (ih hgrowing).bind_pure fun later more hlater =>
            List.rel_append (List.rel_append (forall₂_toList_of_rel hpacked) hfinished) hlater
        · split
          · exact ih (Buffer.moved_push waits hchunk)
          · refine hflush.bind fun packed result hpacked => ?_
            cases hpacked with
            | none => exact ih (.cons hchunk .nil)
            | some hpacked =>
                refine (hlend _ _ hpacked).bind fun borrowed lent hborrowed => ?_
                refine (moves_withBorrowed hchunk hborrowed).bind fun next joined hnext => ?_
                exact (ih (.cons hnext .nil)).bind_pure fun later more hlater =>
                  .cons hpacked hlater

/-! ## Levels -/

theorem moves_split (boundary : Boundary) (text : Text) :
    Moves shift (List.Forall₂ (Chunk.Moved shift)) (boundary.split text)
      (boundary.split text) := by
  intro first
  unfold Boundary.split
  cases hunclosed : (boundary.divide text).unclosed with
  | some tag =>
      rw [Division.number_of_unclosed hunclosed, Division.number_of_unclosed hunclosed,
        Nat.add_right_comm]
      exact .inr ⟨tag, _, rfl, rfl⟩
  | none =>
      rw [Division.number_of_closed hunclosed, Division.number_of_closed hunclosed,
        Nat.add_right_comm]
      exact .inl ⟨_, _, _, rfl, rfl, Chunk.forall₂_consecutive
        (fun _ => unlinked_of_mem_divide) first⟩

theorem moved_settled {surroundings richer : Metadata} (hmetadata : surroundings.Moved shift richer)
    {chunks others : List Chunk} (h : List.Forall₂ (Chunk.Moved shift) chunks others) :
    List.Forall₂ (Chunk.Moved shift) (settled surroundings chunks) (settled richer others) := by
  unfold settled
  refine List.rel_filter (R := Chunk.Moved shift) ?_
    (List.forall₂_map_left_iff.2 (List.forall₂_map_right_iff.2 (h.imp fun _ _ moved => ?_)))
  · intro chunk other moved
    dsimp only
    rw [moved.piece.text_eq]
  · exact ⟨moved.id_eq, moved.piece.text_eq, hmetadata.inherit moved.piece.metadata⟩

theorem moves_level (policy : Policy) (boundary : Boundary) {piece other : Piece}
    (h : piece.Moved shift other) {below beyond : Chunk → Numbering (List Chunk)}
    (hbelow : ∀ piece other, piece.Moved shift other →
      Moves shift (List.Forall₂ (Chunk.Moved shift)) (below piece) (beyond other))
    {packAgain packOther : List Chunk → Numbering (List Chunk)}
    (hagain : ∀ {packed found}, List.Forall₂ (Chunk.Moved shift) packed found →
      Moves shift (List.Forall₂ (Chunk.Moved shift)) (packAgain packed) (packOther found)) :
    Moves shift (List.Forall₂ (Chunk.Moved shift)) (policy.level boundary below packAgain piece)
      (policy.level boundary beyond packOther other) := by
  unfold level
  rw [h.text_eq]
  refine (moves_split boundary piece.text).bind fun pieces others hpieces => ?_
  refine (policy.moves_pack hbelow hpieces Buffer.moved_empty).bind fun packed found hpacked => ?_
  exact (hagain hpacked).bind_pure fun repacked more hrepacked =>
    moved_settled h.metadata hrepacked

theorem moves_settle (policy : Policy) (boundaries : List Boundary) {piece other : Piece}
    (h : piece.Moved shift other) :
    Moves shift (List.Forall₂ (Chunk.Moved shift)) (policy.settle boundaries piece)
      (policy.settle boundaries other) := by
  induction boundaries generalizing piece other with
  | nil =>
      unfold settle
      exact (Chunk.moves_number h).bind fun chunk moved hchunk => moves_fragments hchunk.piece
  | cons boundary finer ih =>
      exact policy.moves_level boundary h (fun _ _ moved => ih moved.piece) fun hpacked =>
        moves_stitch (fun _ _ _ => moves_pure .none) hpacked Buffer.moved_empty

theorem moves_lend (boundaries : List Boundary) (h : chunk.Moved shift other) :
    Moves shift (Option.Rel (Chunk.Moved shift)) (policy.lend boundaries chunk)
      (policy.lend boundaries other) := by
  unfold lend
  split
  · exact moves_pure .none
  · next window _ =>
      unfold lendWithin
      rw [h.piece.text_eq, h.piece.length_eq]
      split
      · exact moves_pure .none
      · split
        · exact moves_pure (.some h)
        · have hsettle := moves_settle (policy.within window) boundaries h.piece
          refine (hsettle.tryCatch fun tag => moves_settle _ _ h.piece).bind_pure ?_
          exact fun _ _ hparts => forall₂_getLast? hparts

theorem moves_assemble (boundaries : List Boundary) (text : Text) :
    Moves shift (List.Forall₂ (Chunk.Moved shift)) (policy.assemble boundaries text)
      (policy.assemble boundaries text) := by
  have hplain : Piece.Moved shift { text } { text } := ⟨rfl, .of_unlinked rfl⟩
  cases boundaries with
  | nil => exact moves_settle policy [] hplain
  | cons boundary finer =>
      exact policy.moves_level boundary hplain
        (fun _ _ moved => policy.moves_settle finer moved.piece) fun hpacked =>
          moves_stitch (fun _ _ => moves_lend _) hpacked Buffer.moved_empty

end Policy

end Chunking
