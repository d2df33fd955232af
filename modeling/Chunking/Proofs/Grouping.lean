import Mathlib.Data.List.Induction
import Chunking.Proofs.Joining

/-!
# Grouping

Neighbours join to the same piece in whatever groups they are joined before.  One joined to the
next, from the left, they come to that piece as well, unless no part has text: then the metadata
of the last part are left, and not those of the first.
-/

namespace Chunking

namespace Piece

theorem join_of_empty {first : Piece} (h : first.text = []) (second : Piece) :
    first.join second = second := by
  ext1 <;> simp [join, h]

theorem join_empty {first second : Piece} (hfirst : first.text ≠ []) (h : second.text = []) :
    first.join second = first := by
  ext1 <;> simp [join, hfirst, h]

/-! ## One joined to the next -/

theorem text_foldl_join (first : Piece) (rest : List Piece) :
    (rest.foldl join first).text = (first.joinAll rest).text := by
  rw [text_joinAll]
  induction rest generalizing first with
  | nil => simp
  | cons second rest ih => simp [ih, join]

/-- As soon as one part has text, it makes no difference that the others join one by one. -/
theorem foldl_join_eq_joinAll {first : Piece} {rest : List Piece}
    (h : (first.joinAll rest).text ≠ []) : rest.foldl join first = first.joinAll rest := by
  induction rest using List.reverseRecOn with
  | nil => exact (joinAll_nil first).symm
  | append_singleton rest last ih =>
      rw [List.foldl_append, List.foldl_cons, List.foldl_nil]
      by_cases hlast : last.text = []
      · rw [joinAll_append_of_empty hlast] at h ⊢
        rw [ih h, join_empty h hlast]
      · rw [joinAll_append_of_text hlast]
        by_cases hbefore : (first.joinAll rest).text = []
        · rw [join_of_empty hbefore, join_of_empty ((text_foldl_join first rest).trans hbefore)]
        · rw [ih hbefore]

theorem joinAll_of_empty {first : Piece} {rest : List Piece}
    (h : ∀ piece ∈ first :: rest, piece.text = []) : first.joinAll rest = first := by
  have hwith : withText (first :: rest) = [] :=
    withText_eq_nil_iff.2 (List.flatMap_eq_nil_iff.2 h)
  ext1
  · rw [text_joinAll, List.flatMap_eq_nil_iff.2 h, h first List.mem_cons_self]
  · unfold joinAll
    rw [hwith]

theorem foldl_join_of_empty {first : Piece} {rest : List Piece}
    (h : ∀ piece ∈ first :: rest, piece.text = []) :
    rest.foldl join first = (first :: rest).getLast (List.cons_ne_nil first rest) := by
  induction rest generalizing first with
  | nil => rfl
  | cons second rest ih =>
      rw [List.foldl_cons, join_of_empty (h first List.mem_cons_self),
        ih (List.forall_mem_cons.1 h).2, List.getLast_cons_cons]

/-! ## Groups -/

/-- What a group joins to, if there is anything in it. -/
def joined? : List Piece → Option Piece
  | [] => none
  | first :: rest => some (first.joinAll rest)

theorem joinAll_joinAll (first : Piece) (rest more : List Piece) :
    (first.joinAll rest).joinAll more = first.joinAll (rest ++ more) := by
  induction more using List.reverseRecOn with
  | nil => rw [joinAll_nil, List.append_nil]
  | append_singleton more last ih =>
      rw [← List.append_assoc]
      by_cases hlast : last.text = []
      · rw [joinAll_append_of_empty hlast, joinAll_append_of_empty hlast, ih]
      · rw [joinAll_append_of_text hlast, joinAll_append_of_text hlast, ih]

theorem joinAll_append_group (first : Piece) (rest : List Piece) (head : Piece)
    (tail : List Piece) :
    first.joinAll (rest ++ head :: tail) = first.joinAll (rest ++ [head.joinAll tail]) := by
  induction tail using List.reverseRecOn with
  | nil => rw [joinAll_nil]
  | append_singleton tail last ih =>
      rw [← List.cons_append, ← List.append_assoc]
      by_cases hlast : last.text = []
      · rw [joinAll_append_of_empty hlast, joinAll_append_of_empty hlast, ih]
      · have htext : ((head.joinAll tail).join last).text ≠ [] := by simp [join, hlast]
        rw [joinAll_append_of_text hlast, joinAll_append_of_text hlast, ih,
          joinAll_append_of_text htext]
        by_cases hgroup : (head.joinAll tail).text = []
        · rw [joinAll_append_of_empty hgroup, join_of_empty hgroup]
        · rw [joinAll_append_of_text hgroup, join_assoc]

theorem joined?_append (front back : List Piece) :
    joined? (front ++ back) = joined? ((joined? front).toList ++ (joined? back).toList) := by
  cases front with
  | nil =>
      cases back with
      | nil => rfl
      | cons head tail => exact congrArg some (joinAll_nil _).symm
  | cons first rest =>
      cases back with
      | nil =>
          rw [List.append_nil]
          exact congrArg some (joinAll_nil _).symm
      | cons head tail =>
          have hgroup := joinAll_append_group first rest head tail
          rw [← joinAll_joinAll first rest [head.joinAll tail]] at hgroup
          exact congrArg some hgroup

theorem joined?_joined? (pieces : List Piece) :
    joined? (joined? pieces).toList = joined? pieces := by
  cases pieces with
  | nil => rfl
  | cons first rest => exact congrArg some (joinAll_nil _)

theorem joined?_filterMap (groups : List (List Piece)) :
    joined? (groups.filterMap joined?) = joined? groups.flatten := by
  induction groups with
  | nil => rfl
  | cons group groups ih =>
      have hcons : (group :: groups).filterMap joined? =
          (joined? group).toList ++ groups.filterMap joined? := by
        rw [List.filterMap_cons]
        cases joined? group <;> rfl
      calc joined? ((group :: groups).filterMap joined?)
          = joined? ((joined? (joined? group).toList).toList ++
              (joined? (groups.filterMap joined?)).toList) := by rw [hcons, joined?_append]
        _ = joined? ((joined? group).toList ++ (joined? groups.flatten).toList) := by
            rw [joined?_joined?, ih]
        _ = joined? (group :: groups).flatten := by rw [List.flatten_cons, ← joined?_append]

end Piece

namespace Chunk

theorem exists_joinAll (chunks : List Chunk) (first : Nat) :
    ∃ joined last, joinAll chunks first = .ok joined last ∧
      joined.map Chunk.toPiece = Piece.joined? (chunks.map Chunk.toPiece) := by
  cases chunks with
  | nil => exact ⟨none, first, rfl, rfl⟩
  | cons chunk rest =>
      cases rest with
      | nil => exact ⟨some chunk, first, rfl, congrArg some (Piece.joinAll_nil _).symm⟩
      | cons second rest => exact ⟨_, _, joinAll_cons_cons chunk second rest first, rfl⟩

theorem exists_joinAll_cons (chunk : Chunk) (rest : List Chunk) (first : Nat) :
    ∃ joined last, joinAll (chunk :: rest) first = .ok (some joined) last ∧
      joined.toPiece = chunk.toPiece.joinAll (rest.map Chunk.toPiece) := by
  obtain ⟨joined, last, hjoin, hpiece⟩ := exists_joinAll (chunk :: rest) first
  obtain ⟨whole, rfl, hwhole⟩ := Option.map_eq_some_iff.1 hpiece
  exact ⟨whole, last, hjoin, hwhole⟩

theorem exists_foldlM_join (chunk : Chunk) (rest : List Chunk) (first : Nat) :
    ∃ joined last, rest.foldlM join chunk first = .ok joined last ∧
      joined.toPiece = (rest.map Chunk.toPiece).foldl Piece.join chunk.toPiece := by
  induction rest generalizing chunk first with
  | nil => exact ⟨chunk, first, rfl, rfl⟩
  | cons second rest ih =>
      have hjoin := number_apply (chunk.toPiece.join second.toPiece) first
      rw [List.foldlM_cons, join, Numbering.bind_of_ok hjoin]
      exact ih _ (first + 1)

/--
All chunks of a list joined at once, and one joined to the next from the left: both have the same
text, and the same metadata if any of it is there.  Where no chunk has text, the first one's
metadata stay in the one case, and the last one's in the other.
-/
theorem joinAll_agrees_with_join (chunk : Chunk) (rest : List Chunk) (first other : Nat) :
    ∃ whole last folded stop, joinAll (chunk :: rest) first = .ok (some whole) last ∧
      rest.foldlM join chunk other = .ok folded stop ∧ whole.text = folded.text ∧
      ((∃ part ∈ chunk :: rest, part.text ≠ []) → whole.metadata = folded.metadata) ∧
      ((∀ part ∈ chunk :: rest, part.text = []) → whole.metadata = chunk.metadata ∧
        folded.metadata = ((chunk :: rest).getLast (List.cons_ne_nil chunk rest)).metadata) := by
  obtain ⟨whole, last, hwhole, hwhole_piece⟩ := exists_joinAll_cons chunk rest first
  obtain ⟨folded, stop, hfolded, hfolded_piece⟩ := exists_foldlM_join chunk rest other
  refine ⟨whole, last, folded, stop, hwhole, hfolded, ?_, ?_, ?_⟩
  · rw [hwhole_piece, hfolded_piece, Piece.text_foldl_join]
  · rintro ⟨part, hpart, htext⟩
    have hjoined : (chunk.toPiece.joinAll (rest.map Chunk.toPiece)).text ≠ [] := by
      rw [Piece.text_joinAll, ← List.map_cons, Ne, List.flatMap_eq_nil_iff]
      intro hempty
      exact htext (hempty _ (List.mem_map_of_mem hpart))
    rw [hwhole_piece, hfolded_piece, Piece.foldl_join_eq_joinAll hjoined]
  · intro hempty
    have hpieces : ∀ piece ∈ chunk.toPiece :: rest.map Chunk.toPiece, piece.text = [] := by
      rw [← List.map_cons, List.forall_mem_map]
      exact hempty
    rw [hwhole_piece, hfolded_piece, Piece.joinAll_of_empty hpieces,
      Piece.foldl_join_of_empty hpieces]
    refine ⟨rfl, ?_⟩
    simp only [← List.map_cons, List.getLast_map]

def silent (value : String) (id : Nat) : Chunk :=
  ⟨⟨[], .ofList [("k", value)]⟩, id⟩

/-- Joined at once the chunks know what the first one does, and joined one by one what the second
one does. -/
theorem joinAll_differs_from_join :
    ∃ whole folded, joinAll [silent "a" 0, silent "b" 1] 2 = .ok (some whole) 3 ∧
      [silent "b" 1].foldlM join (silent "a" 0) 2 = .ok folded 3 ∧
      whole.metadata = .ofList [("k", "a")] ∧ folded.metadata = .ofList [("k", "b")] ∧
      whole.metadata ≠ folded.metadata :=
  ⟨_, _, rfl, rfl, rfl, rfl, by decide +kernel⟩

/-! ## Groups of chunks -/

theorem exists_mapM_joinAll {groups : List (List Chunk)} (filled : ∀ group ∈ groups, group ≠ [])
    (first : Nat) :
    ∃ (parts : List Chunk) (last : Nat), groups.mapM joinAll first = .ok (parts.map some) last ∧
      parts.map Chunk.toPiece =
        (groups.map (List.map Chunk.toPiece)).filterMap Piece.joined? := by
  induction groups generalizing first with
  | nil => exact ⟨[], first, rfl, rfl⟩
  | cons group groups ih =>
      obtain ⟨hgroup, hgroups⟩ := List.forall_mem_cons.1 filled
      obtain ⟨chunk, rest, rfl⟩ := List.exists_cons_of_ne_nil hgroup
      obtain ⟨part, next, hpart, hpart_piece⟩ := exists_joinAll_cons chunk rest first
      obtain ⟨parts, last, hparts, hparts_pieces⟩ := ih hgroups next
      refine ⟨part :: parts, last, ?_, ?_⟩
      · rw [List.mapM_cons, Numbering.bind_of_ok hpart, Numbering.bind_of_ok hparts]
        rfl
      · rw [List.map_cons, hpart_piece, hparts_pieces]
        rfl

/--
Groups that are joined first, and the results after them, come to the same text and metadata as
all their chunks joined at once.  For three chunks, it makes no difference which two of them are
joined first.
-/
theorem joinAll_ignores_groups {groups : List (List Chunk)} (some_group : groups ≠ [])
    (filled : ∀ group ∈ groups, group ≠ []) (first other : Nat) :
    (∃ (parts : List Chunk) (next : Nat) (whole : Chunk) (last : Nat) (flat : Chunk) (stop : Nat),
      groups.mapM joinAll first = .ok (parts.map some) next ∧
      joinAll parts next = .ok (some whole) last ∧
      joinAll groups.flatten other = .ok (some flat) stop ∧ whole.toPiece = flat.toPiece) ∧
    ∀ one two three : Chunk, ∃ left last right stop,
      (one.join two >>= fun pair => pair.join three) first = .ok left last ∧
      (two.join three >>= fun pair => one.join pair) other = .ok right stop ∧
      left.toPiece = right.toPiece := by
  refine ⟨?_, fun one two three => ⟨_, _, _, _, rfl, rfl, Piece.join_assoc _ _ _⟩⟩
  obtain ⟨parts, next, hparts, hpieces⟩ := exists_mapM_joinAll filled first
  obtain ⟨whole, last, hwhole, hwhole_piece⟩ := exists_joinAll parts next
  obtain ⟨flat, stop, hflat, hflat_piece⟩ := exists_joinAll groups.flatten other
  have hsame : whole.map Chunk.toPiece = flat.map Chunk.toPiece := by
    rw [hwhole_piece, hflat_piece, hpieces, Piece.joined?_filterMap, List.map_flatten]
  obtain ⟨group, hgroup⟩ := List.exists_mem_of_ne_nil groups some_group
  have hflatten : groups.flatten ≠ [] := by
    rw [Ne, List.flatten_eq_nil_iff]
    exact fun hnil => filled group hgroup (hnil group hgroup)
  obtain ⟨chunk, rest, hchunks⟩ := List.exists_cons_of_ne_nil hflatten
  rw [hchunks] at hflat_piece
  obtain ⟨flat, rfl, -⟩ := Option.map_eq_some_iff.1 hflat_piece
  obtain ⟨whole, rfl, hpiece⟩ := Option.map_eq_some_iff.1 hsame
  exact ⟨parts, next, whole, last, flat, stop, hparts, hwhole, hflat, hpiece⟩

def quietGroups : List (List Chunk) :=
  [[silent "a" 0, silent "b" 1], [silent "b" 2, ⟨⟨['x'], .ofList [("k", "c")]⟩, 3⟩, silent "a" 4]]

theorem joinAll_ignores_groups_quietGroups :
    ∃ (parts : List Chunk) (next : Nat) (whole : Chunk) (last : Nat) (flat : Chunk) (stop : Nat),
      quietGroups.mapM joinAll 5 = .ok (parts.map some) next ∧
      joinAll parts next = .ok (some whole) last ∧
      joinAll quietGroups.flatten 5 = .ok (some flat) stop ∧ whole.toPiece = flat.toPiece ∧
      flat.toPiece = ⟨['x'], .ofList [("k", "c")]⟩ := by
  obtain ⟨⟨parts, next, whole, last, flat, stop, hparts, hwhole, hflat, hpiece⟩, -⟩ :=
    @joinAll_ignores_groups quietGroups (by decide) (by decide) 5 5
  refine ⟨parts, next, whole, last, flat, stop, hparts, hwhole, hflat, hpiece, ?_⟩
  have hrun : joinAll quietGroups.flatten 5 =
      .ok (some ⟨⟨['x'], .ofList [("k", "c")]⟩, 5⟩) 6 := rfl
  rw [hrun] at hflat
  cases hflat
  rfl

end Chunk

end Chunking
