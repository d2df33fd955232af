import Chunking.Assembly.Buffer

/-!
# Joining

What a joined chunk holds: the texts of its parts in order, and only values that
parts with text agree on.  Adding a part at the end is a join with what was joined
before, except that a part without text changes nothing.
-/

namespace Chunking

theorem Metadata.common_assoc (first second third : Metadata) :
    (first.common second).common third = first.common (second.common third) := by
  refine Metadata.ext_get? fun key => Option.ext fun value => ?_
  simp only [Metadata.get?_common, and_assoc]

namespace Piece

theorem join_assoc (first second third : Piece) :
    (first.join second).join third = first.join (second.join third) := by
  ext1
  · simp [join]
  · by_cases hfirst : first.text = []
    · simp [join, hfirst]
    · by_cases hsecond : second.text = []
      · simp [join, hfirst, hsecond]
      · by_cases hthird : third.text = []
        · simp [join, hfirst, hsecond, hthird]
        · simp [join, hfirst, hsecond, hthird, Metadata.common_assoc]

theorem withText_eq_nil_iff {pieces : List Piece} :
    withText pieces = [] ↔ pieces.flatMap Piece.text = [] := by
  simp [withText, List.filter_eq_nil_iff, List.flatMap_eq_nil_iff]

theorem withText_append_singleton (pieces : List Piece) (last : Piece) :
    withText (pieces ++ [last]) =
      if last.text.isEmpty then withText pieces else withText pieces ++ [last] := by
  rw [withText, withText, List.filter_append]
  by_cases hlast : last.text.isEmpty <;> simp [hlast]

theorem joinAll_nil (first : Piece) : first.joinAll [] = first := by
  obtain ⟨text, metadata⟩ := first
  cases text <;> simp [joinAll, withText]

theorem text_joinAll (first : Piece) (rest : List Piece) :
    (first.joinAll rest).text = (first :: rest).flatMap Piece.text := rfl

theorem metadata_joinAll_of_cons {first head : Piece} {rest tail : List Piece}
    (h : withText (first :: rest) = head :: tail) :
    (first.joinAll rest).metadata =
      tail.foldl (fun agreed piece => agreed.common piece.metadata) head.metadata := by
  unfold joinAll
  rw [h]

theorem joinAll_append_of_empty {first last : Piece} {rest : List Piece} (h : last.text = []) :
    first.joinAll (rest ++ [last]) = first.joinAll rest := by
  have hwith : withText (first :: (rest ++ [last])) = withText (first :: rest) := by
    rw [← List.cons_append, withText_append_singleton, h]
    rfl
  ext1
  · simp [text_joinAll, h]
  · unfold joinAll
    rw [hwith]

theorem joinAll_append_of_text {first last : Piece} {rest : List Piece} (h : last.text ≠ []) :
    first.joinAll (rest ++ [last]) = (first.joinAll rest).join last := by
  have hlast : last.text.isEmpty = false := List.isEmpty_eq_false_iff.2 h
  have hwith : withText (first :: (rest ++ [last])) = withText (first :: rest) ++ [last] := by
    rw [← List.cons_append, withText_append_singleton, hlast]
    rfl
  have hempty : withText (first :: rest) = [] ↔ _ := withText_eq_nil_iff
  ext1
  · simp [text_joinAll, join]
  · unfold join
    rw [text_joinAll first rest]
    cases hbefore : withText (first :: rest) with
    | nil =>
        rw [hempty.1 hbefore]
        rw [hbefore] at hwith
        exact metadata_joinAll_of_cons hwith
    | cons head tail =>
        have hjoined : ((first :: rest).flatMap Piece.text).isEmpty = false := by
          rw [List.isEmpty_eq_false_iff]
          intro hnil
          rw [hempty.2 hnil] at hbefore
          cases hbefore
        rw [hbefore, List.cons_append] at hwith
        simp only [hjoined, hlast, Bool.false_eq_true, if_false]
        rw [metadata_joinAll_of_cons hwith, metadata_joinAll_of_cons hbefore, List.foldl_append]
        rfl

/-! ## Look-ups in joined pieces -/

theorem get?_join {first second : Piece} {key value : String}
    (h : (first.join second).get? key = some value) :
    first.get? key = some value ∨ second.get? key = some value := by
  unfold join get? at h
  dsimp only at h
  split at h
  · exact .inr h
  · split at h
    · exact .inl h
    · exact .inl (Metadata.get?_common.1 h).1

/-- Where both parts have text, a joined piece knows what both knew. -/
theorem get?_join_of_text {first second : Piece} (hfirst : first.text ≠ [])
    (hsecond : second.text ≠ []) {key value : String} :
    (first.join second).get? key = some value ↔
      first.get? key = some value ∧ second.get? key = some value := by
  unfold join get?
  dsimp only
  rw [if_neg (by simpa using hfirst), if_neg (by simpa using hsecond)]
  exact Metadata.get?_common

end Piece

namespace Chunk

theorem joinAll_singleton (chunk : Chunk) (next : Nat) :
    joinAll [chunk] next = .ok (some chunk) next := rfl

theorem joinAll_cons_cons (first second : Chunk) (rest : List Chunk) (next : Nat) :
    joinAll (first :: second :: rest) next =
      .ok (some { first.toPiece.joinAll ((second :: rest).map Chunk.toPiece) with id := next })
        (next + 1) := rfl

theorem joinAll_cons {first : Chunk} {rest : List Chunk} {joined : Option Chunk} {next last : Nat}
    (h : joinAll (first :: rest) next = .ok joined last) :
    ∃ chunk, joined = some chunk ∧
      chunk.toPiece = first.toPiece.joinAll (rest.map Chunk.toPiece) := by
  cases rest with
  | nil =>
      rw [joinAll_singleton] at h
      cases h
      exact ⟨first, rfl, (Piece.joinAll_nil first.toPiece).symm⟩
  | cons second rest =>
      rw [joinAll_cons_cons] at h
      cases h
      exact ⟨_, rfl, rfl⟩

theorem join_eq_ok {first second joined : Chunk} {next last : Nat}
    (h : first.join second next = .ok joined last) :
    joined.toPiece = first.toPiece.join second.toPiece := by
  rw [join, number_apply] at h
  cases h
  rfl

end Chunk

namespace Buffer

theorem flush_empty : empty.flush = pure none := rfl

end Buffer

end Chunking
