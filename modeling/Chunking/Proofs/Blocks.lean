import Chunking.Chunker
import Chunking.Proofs.Coverage
import Chunking.Proofs.Failures
import Chunking.Proofs.Marks

/-!
# Blocks under headings

Heading lines are looked for before fenced blocks, and also inside of them.  Where no heading
line touches a block, the blocks of a section are those of the whole text, and a block that fits
ends up in one leaf, whichever headings are divided at before.  So no chunk ends inside of it.
-/

namespace Chunking

/-! ## Blocks in a part of a text -/

namespace Fence

theorem length_of_openingLength {text : Text} {n : Nat} (h : openingLength text = some n) :
    n ≤ text.length := by
  obtain ⟨line, -, hprefix, rfl⟩ := openingLength_eq_some_iff.1 h
  have hle := hprefix.length_le
  simp only [List.length_cons, List.length_append, List.length_nil] at hle
  omega

theorem openingLength_of_append {text behind : Text} {n : Nat}
    (h : openingLength (text ++ behind) = some n) (le : n ≤ text.length) :
    openingLength text = some n := by
  rw [openingLength_eq_some_iff] at h ⊢
  obtain ⟨line, hline, hprefix, rfl⟩ := h
  refine ⟨line, hline, ?_, rfl⟩
  refine List.prefix_of_prefix_length_le hprefix (List.prefix_append _ _) ?_
  rw [List.length_cons, List.length_cons, List.length_cons, List.length_append,
    List.length_singleton]
  omega

theorem closingLength_eq_some_iff {body : Text} {n : Nat} :
    closingLength body = some n ↔
      n = 4 ∧ ['`', '`', '`', '\n'] <+: body ∨ n = 3 ∧ body = ['`', '`', '`'] := by
  constructor
  · intro h
    unfold closingLength at h
    split at h
    · next more =>
        cases h
        exact .inl ⟨rfl, more, rfl⟩
    · cases h
      exact .inr ⟨rfl, rfl⟩
    · cases h
  · rintro (⟨rfl, more, rfl⟩ | ⟨rfl, rfl⟩) <;> rfl

theorem length_of_closingLength {body : Text} {n : Nat} (h : closingLength body = some n) :
    n ≤ body.length := by
  rcases closingLength_eq_some_iff.1 h with ⟨rfl, hprefix⟩ | ⟨rfl, rfl⟩
  · exact hprefix.length_le
  · exact Nat.le_refl 3

theorem closingLength_of_append {body behind : Text} {n : Nat}
    (h : closingLength (body ++ behind) = some n) (le : n ≤ body.length) :
    closingLength body = some n := by
  rw [closingLength_eq_some_iff] at h ⊢
  rcases h with ⟨rfl, hprefix⟩ | ⟨rfl, hbody⟩
  · exact .inl ⟨rfl, List.prefix_of_prefix_length_le hprefix (List.prefix_append _ _) le⟩
  · refine .inr ⟨rfl, ?_⟩
    have hlength := congrArg List.length hbody
    rw [List.length_append, List.length_cons, List.length_cons, List.length_cons,
      List.length_nil] at hlength
    rw [List.eq_nil_of_length_eq_zero (by omega : behind.length = 0), List.append_nil] at hbody
    exact hbody

theorem bodyLength_of_closing {body : Text} {n : Nat} (h : closingLength body = some n) :
    bodyLength body = n := by
  cases body with
  | nil => cases h
  | cons c rest =>
      have hle := length_of_closingLength h
      rw [bodyLength, Text.leftmost, h]
      show 0 + ((c :: rest).take n).length = n
      rw [List.length_take_of_le hle, Nat.zero_add]

theorem bodyLength_cons {c : Char} {rest : Text} (h : closingLength (c :: rest) = none) :
    bodyLength (c :: rest) = bodyLength rest + 1 := by
  rw [bodyLength, Text.leftmost, h]
  unfold bodyLength
  cases Text.leftmost closingLength rest with
  | none => rfl
  | some cut => simp only [Option.map_some, List.length_cons]; omega

theorem bodyLength_le (body : Text) : bodyLength body ≤ body.length := by
  induction body with
  | nil => exact Nat.le_refl 0
  | cons c rest ih =>
      cases h : closingLength (c :: rest) with
      | none =>
          rw [bodyLength_cons h]
          exact Nat.succ_le_succ ih
      | some n =>
          rw [bodyLength_of_closing h]
          exact length_of_closingLength h

theorem bodyLength_of_append {body behind : Text}
    (le : bodyLength (body ++ behind) ≤ body.length) :
    bodyLength body = bodyLength (body ++ behind) := by
  induction body with
  | nil => exact (Nat.le_zero.1 le).symm
  | cons c rest ih =>
      rw [List.cons_append] at le ⊢
      cases h : closingLength (c :: (rest ++ behind)) with
      | some n =>
          rw [bodyLength_of_closing h] at le ⊢
          exact bodyLength_of_closing (closingLength_of_append h le)
      | none =>
          rw [bodyLength_cons h] at le ⊢
          have hrest := ih (Nat.le_of_succ_le_succ le)
          rw [← hrest]
          cases hclosing : closingLength (c :: rest) with
          | none => exact bodyLength_cons hclosing
          | some n =>
              -- Only at the very end a closing fence is one because nothing comes behind.
              rcases closingLength_eq_some_iff.1 hclosing with ⟨rfl, hprefix⟩ | ⟨rfl, hbody⟩
              · have hlonger := closingLength_eq_some_iff.2
                  (.inl ⟨rfl, hprefix.trans (List.prefix_append (c :: rest) behind)⟩)
                rw [List.cons_append, h] at hlonger
                cases hlonger
              · cases hbody
                rfl

/-- Blocks are found alike in the whole text and in a part that they do not reach out of. -/
theorem steady_blockLength : Text.Steady blockLength where
  pos := blockLength_pos
  le := by
    intro text n h
    obtain ⟨opening, hopening, rfl⟩ := Option.map_eq_some_iff.1 h
    have hle := bodyLength_le (text.drop opening)
    have hline := length_of_openingLength hopening
    rw [List.length_drop] at hle
    omega
  none_of_append := blockLength_of_append
  some_of_append := by
    intro text behind n h le
    obtain ⟨opening, hopening, rfl⟩ := Option.map_eq_some_iff.1 h
    have hline := openingLength_of_append hopening (by omega)
    have hopen := length_of_openingLength hline
    rw [List.drop_append_of_le_length hopen] at le ⊢
    rw [blockLength, hline, Option.map_some, bodyLength_of_append]
    rw [List.length_drop]
    omega

end Fence

/-! ## Heading lines in a part of a text -/

namespace Heading

variable {level : HeadingLevel} {text : Text} {n : Nat}

theorem lengthAt_eq_some_iff :
    lengthAt level text = some n ↔ ∃ line, (∀ c ∈ line, c ≠ '\n') ∧
      marker level ++ (line ++ ['\n']) <+: text ∧ n = (marker level).length + line.length + 1 := by
  constructor
  · intro h
    unfold lengthAt at h
    split at h
    · next hmarker =>
        obtain ⟨behind, rfl⟩ := List.isPrefixOf_iff_prefix.1 hmarker
        rw [List.drop_left] at h
        dsimp only at h
        split at h
        · next more hdrop =>
            cases h
            refine ⟨restOfLine behind, fun c hc => ?_, ?_, rfl⟩
            · simpa using Text.of_mem_takeWhile hc
            · rw [List.prefix_append_right_inj]
              exact Text.prefix_of_drop_takeWhile hdrop
        · cases h
    · cases h
  · rintro ⟨line, hline, ⟨more, rfl⟩, rfl⟩
    have hread : line ++ ['\n'] <+: line ++ ['\n'] ++ more := List.prefix_append _ _
    obtain ⟨hrest, later, hdrop⟩ := Text.takeWhile_of_prefix
      (p := fun c => c != '\n') (by simpa using hline) rfl hread
    have hrest : restOfLine (line ++ ['\n'] ++ more) = line := hrest
    have hmarker : (marker level).isPrefixOf (marker level ++ (line ++ ['\n'] ++ more)) = true :=
      List.isPrefixOf_iff_prefix.2 (List.prefix_append _ _)
    rw [List.append_assoc, lengthAt, if_pos hmarker, List.drop_left]
    simp only [hrest, hdrop]

theorem lengthAt_append (h : lengthAt level text = some n) (behind : Text) :
    lengthAt level (text ++ behind) = some n := by
  rw [lengthAt_eq_some_iff] at h ⊢
  obtain ⟨line, hline, hprefix, hlength⟩ := h
  exact ⟨line, hline, hprefix.trans (List.prefix_append text behind), hlength⟩

theorem sized_lengthAt (level : HeadingLevel) : Text.Sized (lengthAt level) where
  pos := by
    intro text n h
    obtain ⟨line, -, -, rfl⟩ := lengthAt_eq_some_iff.1 h
    exact Nat.succ_pos _
  le := by
    intro text n h
    obtain ⟨line, -, hprefix, rfl⟩ := lengthAt_eq_some_iff.1 h
    have hle := hprefix.length_le
    rw [List.length_append, List.length_append, List.length_singleton] at hle
    omega
  none_of_append := by
    intro text behind h
    cases htext : lengthAt level text with
    | none => rfl
    | some n =>
        rw [lengthAt_append htext] at h
        cases h

theorem isStandalone_eq_false {policy : Policy} {piece : Piece}
    (h : piece ∈ (divide level text).pieces) : policy.isStandalone piece = false := by
  obtain ⟨current, hcurrent⟩ := exists_metadata_eq level none _ piece h
  have hkeys : Metadata.kindKey ≠ Metadata.headerKey := by decide
  unfold Policy.isStandalone Piece.get?
  rw [hcurrent]
  cases current with
  | none => rfl
  | some title => simp [metadata, Metadata.ofList, hkeys]

end Heading

theorem Piece.exists_piece_at {pieces : List Piece} {offset : Nat}
    (h : offset < (pieces.flatMap Piece.text).length) :
    ∃ before piece after, pieces = before ++ piece :: after ∧
      (before.flatMap Piece.text).length ≤ offset ∧
      offset < (before.flatMap Piece.text).length + piece.length := by
  have hjoined : ∀ pieces : List Piece,
      Leaf.joined (pieces.map .ofPiece) = pieces.flatMap Piece.text := by
    intro pieces
    unfold Leaf.joined
    rw [List.flatMap_map]
    rfl
  rw [← hjoined] at h
  obtain ⟨before, leaf, after, hsplit, hle, hlt⟩ := Leaf.exists_leaf_at h
  obtain ⟨front, later, rfl, rfl, hlater⟩ := List.map_eq_append_iff.1 hsplit
  obtain ⟨piece, back, rfl, rfl, rfl⟩ := List.map_eq_cons_iff.1 hlater
  rw [hjoined] at hle hlt
  exact ⟨front, piece, back, rfl, hle, hlt⟩

/-! ## Blocks that no heading line touches -/

namespace Fence

/-- No heading line, of whatever rank, shares a character with a block of the text. -/
def Untouched (text : Text) : Prop :=
  ∀ level place n, Heading.lengthAt level (text.drop place) = some n →
    ∀ start length, Text.MarkAt blockLength text start length →
      place + n ≤ start ∨ start + length ≤ place

variable {level : HeadingLevel} {text : Text} {before after : List Piece} {piece : Piece}

theorem Untouched.clear (h : Untouched text)
    (split : (Heading.divide level text).pieces = before ++ after) :
    Text.Clear blockLength text (before.flatMap Piece.text).length := by
  have htexts := Heading.text_pieces level none
    (Text.segments (fun _ ahead => Heading.lengthAt level ahead) text)
  have hpieces : Heading.pieces level none
      (Text.segments (fun _ ahead => Heading.lengthAt level ahead) text) = before ++ after := split
  rw [hpieces, List.map_append] at htexts
  obtain ⟨front, back, hsegments, hfront, hback⟩ := List.map_eq_append_iff.1 htexts.symm
  rw [List.flatMap_def, ← hfront, ← List.flatMap_def]
  rcases Text.exists_mark_at_seam (Heading.sized_lengthAt level) hsegments with
    rfl | rfl | ⟨start, n, hmark, hseam⟩
  · exact fun _ _ _ => .inl (Nat.zero_le _)
  · intro start n hblock
    have hlength := congrArg List.length (Text.flatten_segments
      (fun _ ahead => Heading.lengthAt level ahead) text)
    rw [hsegments, List.append_nil, ← List.flatMap_def] at hlength
    rw [hlength]
    exact .inr (steady_blockLength.toSized.le_of_markAt hblock)
  · intro place length hblock
    have hpos := (Heading.sized_lengthAt level).pos_of_markAt hmark
    have happart := h level start n hmark.found place length hblock
    omega

section Pieces

variable (untouched : Untouched text)
  (split : (Heading.divide level text).pieces = before ++ piece :: after)

include split

theorem text_eq_of_split :
    text = before.flatMap Piece.text ++ (piece.text ++ after.flatMap Piece.text) := by
  have hjoined := Heading.joined_divide level text
  rw [Division.joined, split, List.flatMap_append, List.flatMap_cons] at hjoined
  exact hjoined.symm

include untouched

theorem Untouched.clear_behind :
    Text.Clear blockLength text ((before.flatMap Piece.text).length + piece.length) := by
  have hsplit : (Heading.divide level text).pieces = (before ++ [piece]) ++ after := by
    rw [split, List.append_assoc, List.singleton_append]
  have hclear := untouched.clear hsplit
  rwa [List.flatMap_append, List.flatMap_singleton, List.length_append] at hclear

theorem Untouched.markAt_piece_iff {start length : Nat} :
    Text.MarkAt blockLength piece.text start length ↔
      Text.MarkAt blockLength text ((before.flatMap Piece.text).length + start) length ∧
        start + length ≤ piece.length := by
  have hfront := untouched.clear split
  have hback := untouched.clear_behind split
  rw [text_eq_of_split split] at hfront hback ⊢
  exact Text.markAt_middle_iff steady_blockLength hfront hback

theorem Untouched.of_split : Untouched piece.text := by
  intro other place n hheading start length hblock
  have hle := (Heading.sized_lengthAt other).le hheading
  have hpos := (Heading.sized_lengthAt other).pos hheading
  rw [List.length_drop] at hle
  have hwithin : Heading.lengthAt other
      (text.drop ((before.flatMap Piece.text).length + place)) = some n := by
    rw [text_eq_of_split split, ← List.drop_drop, List.drop_left,
      List.drop_append_of_le_length (by omega)]
    exact Heading.lengthAt_append hheading _
  have hapart := untouched other _ n hwithin _ length
    ((untouched.markAt_piece_iff split).1 hblock).1
  omega

end Pieces

theorem Untouched.exists_piece {start length : Nat} (untouched : Untouched text)
    (block : Text.MarkAt blockLength text start length) (level : HeadingLevel) :
    ∃ before piece after offset, (Heading.divide level text).pieces = before ++ piece :: after ∧
      start = (before.flatMap Piece.text).length + offset ∧ offset + length ≤ piece.length ∧
      Text.MarkAt blockLength piece.text offset length := by
  have hpos := steady_blockLength.toSized.pos_of_markAt block
  have hle := steady_blockLength.toSized.le_of_markAt block
  have hjoined : (Heading.divide level text).pieces.flatMap Piece.text = text :=
    Heading.joined_divide level text
  have hstart : start < ((Heading.divide level text).pieces.flatMap Piece.text).length := by
    rw [hjoined]
    omega
  obtain ⟨before, piece, after, hsplit, le_start, start_lt⟩ := Piece.exists_piece_at hstart
  obtain ⟨offset, rfl⟩ := Nat.exists_eq_add_of_le le_start
  have hwithin : offset + length ≤ piece.length := by
    have hclear := untouched.clear_behind hsplit _ _ block
    omega
  exact ⟨before, piece, after, offset, hsplit, rfl, hwithin,
    (untouched.markAt_piece_iff hsplit).2 ⟨block, hwithin⟩⟩

theorem markAt_iff_block {start length : Nat} :
    Text.MarkAt blockLength text start length ↔
      ∃ before block after, (divide text).pieces = before ++ block :: after ∧ IsBlock block ∧
        start = (before.flatMap Piece.text).length ∧ length = block.length := by
  have htexts : ∀ segments : List Text.Segment,
      (segments.map piece).flatMap Piece.text = segments.flatMap Text.Segment.text := by
    intro segments
    rw [List.flatMap_map]
    simp only [text_piece]
  have hmark : ∀ block, IsBlock (piece (.mark block)) := fun block => isBlock_piece.2 trivial
  constructor
  · intro h
    obtain ⟨before, block, after, hsegments, rfl, rfl⟩ :=
      Text.exists_segments_of_markAt steady_blockLength.toSized h
    refine ⟨before.map piece, piece (.mark block), after.map piece, ?_, hmark block, ?_, rfl⟩
    · rw [divide, hsegments, List.map_append, List.map_cons]
    · rw [htexts]
  · rintro ⟨before, block, after, hpieces, hblock, rfl, rfl⟩
    obtain ⟨front, later, hsegments, rfl, hlater⟩ := List.map_eq_append_iff.1 hpieces
    obtain ⟨segment, back, rfl, rfl, rfl⟩ := List.map_eq_cons_iff.1 hlater
    rw [htexts]
    cases segment with
    | gap gap =>
        have hgap : (Text.Segment.gap gap).IsMark := isBlock_piece.1 hblock
        cases hgap
    | mark block => exact Text.markAt_of_segments steady_blockLength.toSized hsegments

end Fence

/-! ## Leaves that hold a stretch -/

namespace Policy

variable {policy : Policy} {leaves : List Leaf} {start stop : Nat}

/-- One leaf that fits holds all characters from `start` up to `stop`. -/
def Encloses (policy : Policy) (leaves : List Leaf) (start stop : Nat) : Prop :=
  ∃ before leaf after, leaves = before ++ leaf :: after ∧
    leaf.length ≤ policy.budget.maxSize ∧ (Leaf.joined before).length ≤ start ∧
    stop ≤ (Leaf.joined before).length + leaf.length

theorem Encloses.append (h : policy.Encloses leaves start stop) (front back : List Leaf) :
    policy.Encloses (front ++ (leaves ++ back)) ((Leaf.joined front).length + start)
      ((Leaf.joined front).length + stop) := by
  obtain ⟨before, leaf, after, rfl, fits, le_start, stop_le⟩ := h
  refine ⟨front ++ before, leaf, after ++ back, by simp, fits, ?_, ?_⟩ <;>
    rw [Leaf.joined_append, List.length_append] <;> omega

theorem Encloses.under (h : policy.Encloses leaves start stop) (piece : Piece) :
    policy.Encloses (leaves.map (.under piece)) start stop := by
  obtain ⟨before, leaf, after, rfl, fits, le_start, stop_le⟩ := h
  refine ⟨before.map (.under piece), .under piece leaf, after.map (.under piece),
    by rw [List.map_append, List.map_cons], fits, ?_, ?_⟩ <;>
    rwa [Leaf.joined_map_under]

variable {below : Text → List Leaf} {pieces before after : List Piece} {piece : Piece}

theorem encloses_leavesOf_fits (fits : piece.length ≤ policy.budget.maxSize)
    (stop_le : stop ≤ piece.length) : policy.Encloses (policy.leavesOf below piece) start stop := by
  rw [leavesOf_fits (Budget.fits_iff.2 fits)]
  exact ⟨[], .ofPiece piece, [], rfl, fits, Nat.zero_le _, by simpa using stop_le⟩

theorem Encloses.of_leavesOf (split : pieces = before ++ piece :: after)
    (joined_below : ∀ text, Leaf.joined (below text) = text)
    (h : policy.Encloses (policy.leavesOf below piece) start stop) :
    policy.Encloses (pieces.flatMap (policy.leavesOf below))
      ((before.flatMap Piece.text).length + start) ((before.flatMap Piece.text).length + stop) := by
  have hbefore : Leaf.joined (before.flatMap (policy.leavesOf below)) =
      before.flatMap Piece.text := joined_leavesOf fun piece _ _ => joined_below piece.text
  have happend := h.append (before.flatMap (policy.leavesOf below))
    (after.flatMap (policy.leavesOf below))
  rwa [hbefore, ← List.flatMap_cons, ← List.flatMap_append, ← split] at happend

theorem isElement_of_headings {levels : List HeadingLevel} {finer : List Boundary}
    (plain : ∀ boundary ∈ finer, boundary.isElement = false) :
    ∀ boundary ∈ levels.map .heading ++ .fence :: finer, boundary.isElement = false := by
  rw [List.forall_mem_append, List.forall_mem_map, List.forall_mem_cons]
  exact ⟨fun _ _ => rfl, rfl, plain⟩

theorem encloses_of_markAt {levels : List HeadingLevel} {finer : List Boundary} {text : Text}
    {length : Nat} (plain : ∀ boundary ∈ finer, boundary.isElement = false)
    (untouched : Fence.Untouched text) (block : Text.MarkAt Fence.blockLength text start length)
    (fits : length ≤ policy.budget.maxSize) :
    policy.Encloses (policy.leaves (levels.map .heading ++ .fence :: finer) text) start
      (start + length) := by
  induction levels generalizing text start with
  | nil =>
      obtain ⟨before, piece, after, hsplit, -, rfl, rfl⟩ := Fence.markAt_iff_block.1 block
      have hpiece : policy.Encloses (policy.leavesOf (policy.leaves finer) piece) 0 piece.length :=
        encloses_leavesOf_fits fits (Nat.le_refl _)
      exact hpiece.of_leavesOf hsplit fun text =>
        joined_leaves_of_firstUnclosed (firstUnclosed_of_plain plain text)
  | cons level levels ih =>
      obtain ⟨before, piece, after, offset, hsplit, rfl, hwithin, hblock⟩ :=
        untouched.exists_piece block level
      rw [Nat.add_assoc]
      refine Encloses.of_leavesOf hsplit (fun text => joined_leaves_of_firstUnclosed
        (firstUnclosed_of_plain (isElement_of_headings plain) text)) ?_
      by_cases hfits : piece.length ≤ policy.budget.maxSize
      · exact encloses_leavesOf_fits hfits hwithin
      · have hmem : piece ∈ (Heading.divide level text).pieces := by
          rw [hsplit]
          exact List.mem_append_right _ List.mem_cons_self
        have hlong : policy.isLeaf piece = false :=
          isLeaf_eq_false (Heading.isStandalone_eq_false hmem)
            (Budget.fits_eq_false_iff.2 (Nat.not_le.1 hfits))
        rw [leavesOf_long hlong]
        exact (ih (untouched.of_split hsplit) hblock).under piece

end Policy

/-! ## Chunks that hold a stretch -/

theorem Layout.exists_stretch {policy : Policy} {text : Text} {start reach position : Nat}
    {chunks : List Chunk} (layout : Layout policy text start reach chunks)
    (le : start ≤ position) (lt : position < text.length) :
    ∃ i < chunks.length, layout.cut i ≤ position ∧ position < layout.cut (i + 1) := by
  have hsome : ∀ count ≤ chunks.length, position < layout.cut count →
      ∃ i < chunks.length, layout.cut i ≤ position ∧ position < layout.cut (i + 1) := by
    intro count hcount hposition
    induction count with
    | zero =>
        rw [layout.cut_zero] at hposition
        omega
    | succ count ih =>
        by_cases hbefore : position < layout.cut count
        · exact ih (Nat.le_of_succ_le hcount) hbefore
        · exact ⟨count, hcount, Nat.le_of_not_lt hbefore, hposition⟩
  rw [← layout.cut_length] at lt
  exact hsome chunks.length (Nat.le_refl _) lt

theorem Policy.Encloses.exists_stretch {policy : Policy} {leaves : List Leaf} {text : Text}
    {start stop reach : Nat} {chunks : List Chunk} (h : policy.Encloses leaves start stop)
    (layout : Layout policy text 0 reach chunks)
    (adds : ∀ i (hi : i < chunks.length),
      policy.Adds leaves (layout.cut i) (chunks[i].text.drop (layout.overlap i)))
    (lt : start < text.length) :
    ∃ i < chunks.length, layout.cut i ≤ start ∧ stop ≤ layout.cut (i + 1) := by
  obtain ⟨before, leaf, after, split, fits, le_start, stop_le⟩ := h
  obtain ⟨i, hi, hle, hlt⟩ := layout.exists_stretch (Nat.zero_le start) lt
  have hstop := layout.length_drop_overlap hi
  have hinside := (adds i hi).stop_not_inside split fits (by omega)
  exact ⟨i, hi, hle, by omega⟩

/-! ## The header strategy -/

/-- Every block that fits is added by one chunk, and none of its characters by another. -/
def Layout.KeepsBlocks {policy : Policy} {text : Text} {chunks : List Chunk}
    (layout : Layout policy text 0 0 chunks) : Prop :=
  ∀ before block after, (Fence.divide text).pieces = before ++ block :: after →
    Fence.IsBlock block → block.length ≤ policy.budget.maxSize →
    ∃ i < chunks.length, layout.cut i ≤ (before.flatMap Piece.text).length ∧
      (before.flatMap Piece.text).length + block.length ≤ layout.cut (i + 1)

namespace Strategy

variable {budget : Budget} {text : Text}

theorem boundaries_markdown_header :
    (markdown .header).cascade.boundaries = HeadingLevel.all.map .heading ++
      .fence :: [.rule, .paragraph, .line, .sentence, .word, .character] := rfl

theorem exists_chunk_markdown_header (budget : Budget) (text : Text) :
    ∃ chunks, ((markdown .header).assembler budget).policy.chunk
      ((markdown .header).assembler budget).cascade text = .ok chunks := by
  rw [Policy.exists_chunk_eq_ok_iff]
  refine Policy.firstUnclosed_of_plain (fun boundary hboundary => ?_) text
  have hall : (markdown .header).cascade.boundaries.all
      fun boundary => !boundary.isElement := by decide
  simpa using List.all_eq_true.1 hall boundary hboundary

/-- Where no heading line touches a block, the chunks keep the blocks whole. -/
theorem chunk_keeps_untouched_blocks (budget : Budget) (untouched : Fence.Untouched text) :
    ∃ chunks, Chunker.chunk ((markdown .header).assembler budget) text = .ok chunks ∧
      ∃ layout : Layout ((markdown .header).assembler budget).policy text 0 0 chunks,
        layout.KeepsBlocks := by
  obtain ⟨chunks, hchunks⟩ := exists_chunk_markdown_header budget text
  obtain ⟨layout, hadds⟩ := Policy.exists_layout_of_chunk hchunks
  refine ⟨chunks, Assembler.chunk_eq_ok_iff.2 hchunks, layout, ?_⟩
  intro before block after split hblock fits
  have hmark := Fence.markAt_iff_block.2 ⟨before, block, after, split, hblock, rfl, rfl⟩
  have hle := Fence.steady_blockLength.toSized.le_of_markAt hmark
  have hpos := Fence.steady_blockLength.toSized.pos_of_markAt hmark
  have hplain : ∀ boundary ∈ ([.rule, .paragraph, .line, .sentence, .word, .character] :
      List Boundary), boundary.isElement = false := by decide
  have hencloses : ((markdown .header).assembler budget).policy.Encloses
      (((markdown .header).assembler budget).policy.leaves (markdown .header).cascade.boundaries
        text)
      (before.flatMap Piece.text).length
      ((before.flatMap Piece.text).length + block.length) := by
    rw [boundaries_markdown_header]
    exact Policy.encloses_of_markAt hplain untouched hmark fits
  exact hencloses.exists_stretch layout hadds (by omega)

def blockUnderHeading : Text :=
  "a\n# b\ncc dd\n```\ne\n```\n".toList

theorem untouched_blockUnderHeading : Fence.Untouched blockUnderHeading := by
  intro level place n hheading start length hblock
  have hlines : ∀ level ∈ HeadingLevel.all, ∀ place < blockUnderHeading.length,
      (Heading.lengthAt level (blockUnderHeading.drop place)).all fun n => place + n ≤ 6 := by
    decide +kernel
  have hfences : ∀ start < blockUnderHeading.length,
      (Fence.blockLength (blockUnderHeading.drop start)).isSome → 12 ≤ start := by
    decide +kernel
  have hplace := (Heading.sized_lengthAt level).le hheading
  have hn := (Heading.sized_lengthAt level).pos hheading
  rw [List.length_drop] at hplace
  have hstop := hlines level level.mem_all place (by omega)
  rw [hheading, Option.all_some, decide_eq_true_iff] at hstop
  have hle := Fence.steady_blockLength.toSized.le_of_markAt hblock
  have hpos := Fence.steady_blockLength.toSized.pos_of_markAt hblock
  have hstart := hfences start (by omega) (by rw [hblock.found]; rfl)
  omega

theorem chunk_keeps_untouched_blocks_blockUnderHeading :
    Fence.Untouched blockUnderHeading ∧
      ∃ chunks, Chunker.chunk ((markdown .header).assembler ⟨12, 3, by decide, by decide⟩)
          blockUnderHeading = .ok chunks ∧
        ∃ layout : Layout ((markdown .header).assembler ⟨12, 3, by decide, by decide⟩).policy
            blockUnderHeading 0 0 chunks, layout.KeepsBlocks :=
  ⟨untouched_blockUnderHeading,
    chunk_keeps_untouched_blocks ⟨12, 3, by decide, by decide⟩ untouched_blockUnderHeading⟩

/-! ## Heading lines in blocks -/

def headingInBlock : Text :=
  "ab\n```\nx\n# y\nz\n```\n".toList

/-- A line of the block is taken for a heading, and the block is cut behind it although it fits. -/
theorem chunk_cuts_block_at_heading :
    ∃ chunks, Chunker.chunk ((markdown .header).assembler ⟨17, 0, by decide, by decide⟩)
        headingInBlock = .ok chunks ∧
      ∃ before block, (Fence.divide headingInBlock).pieces = [before, block] ∧
        Fence.IsBlock block ∧ block.length = 16 ∧
        ∀ layout : Layout ((markdown .header).assembler ⟨17, 0, by decide, by decide⟩).policy
            headingInBlock 0 0 chunks,
          ¬∃ i < chunks.length, layout.cut i ≤ before.length ∧
            before.length + block.length ≤ layout.cut (i + 1) := by
  have hrun : ∃ chunks, ((markdown .header).assembler ⟨17, 0, by decide, by decide⟩).policy.chunk
      (markdown .header).cascade headingInBlock = .ok chunks ∧
        chunks.map (·.text) = ["ab\n```\nx\n# y\n".toList, "z\n```\n".toList] := by
    apply Policy.exists_of_toOption
    decide +kernel
  obtain ⟨chunks, hchunks, htexts⟩ := hrun
  obtain ⟨first, later, rfl, hfirst, hlater⟩ := List.map_eq_cons_iff.1 htexts
  obtain ⟨second, rfl, hsecond⟩ := List.map_eq_singleton_iff.1 hlater
  have hpieces : (Fence.divide headingInBlock).pieces = [Fence.piece (.gap "ab\n".toList),
      Fence.piece (.mark "```\nx\n# y\nz\n```\n".toList)] := by decide +kernel
  refine ⟨_, Assembler.chunk_eq_ok_iff.2 hchunks, _, _, hpieces, Fence.isBlock_piece.2 trivial,
    rfl, ?_⟩
  rintro layout ⟨i, hi, hle, hstop⟩
  have hcut : layout.cut 1 = 13 := by
    have hlength := layout.length_drop_overlap (Nat.zero_lt_succ 1 : 0 < [first, second].length)
    rw [layout.cut_zero, Nat.le_zero.1 layout.overlap_zero, List.drop_zero,
      List.getElem_cons_zero, hfirst] at hlength
    exact hlength.symm
  have hlengths : "ab\n".toList.length = 3 ∧ "```\nx\n# y\nz\n```\n".toList.length = 16 := by
    decide +kernel
  obtain ⟨hbefore, hblock⟩ := hlengths
  match i, hi with
  | 0, _ =>
      have hstop : "ab\n".toList.length + "```\nx\n# y\nz\n```\n".toList.length ≤ layout.cut 1 :=
        hstop
      omega
  | 1, _ =>
      have hle : layout.cut 1 ≤ "ab\n".toList.length := hle
      omega

end Strategy

end Chunking
