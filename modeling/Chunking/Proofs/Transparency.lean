import Chunking.Proofs.Blocks
import Chunking.Proofs.Moving
import Chunking.Proofs.Tightness

/-!
# Boundaries that find nothing

A boundary that leaves a long text in one piece is passed over.  Without overlap the chunks are
those of the boundaries below it, but that the piece has taken a number.
-/

namespace Chunking

/-! ## Texts without occurrences -/

namespace Text

variable {lengthAt : Text → Option Nat} {text : Text}

theorem unmarked_of_not_mem {start : Char}
    (hstart : ∀ c rest, c ≠ start → lengthAt (c :: rest) = none) (h : start ∉ text) :
    Unmarked lengthAt text := by
  intro ahead hahead ne_nil
  cases ahead with
  | nil => exact absurd rfl ne_nil
  | cons c rest =>
      refine hstart c rest fun heq => h ?_
      rw [← heq]
      exact hahead.subset List.mem_cons_self

theorem leftmost_of_unmarked (unmarked : Unmarked lengthAt text) :
    leftmost lengthAt text = none := by
  induction text with
  | nil => rfl
  | cons c rest ih =>
      have hrest : Unmarked lengthAt rest := fun ahead hahead =>
        unmarked ahead (hahead.trans (List.suffix_cons c rest))
      have hnone := unmarked (c :: rest) (List.suffix_refl _) (List.cons_ne_nil c rest)
      rw [leftmost, hnone, ih hrest]
      rfl

end Text

theorem Heading.unmarked_of_not_mem {text : Text} (h : '\n' ∉ text) (level : HeadingLevel) :
    Text.Unmarked (lengthAt level) text := by
  refine Text.unmarked_of_not_mem (fun c rest hne => ?_) h
  have hstart : (marker level).isPrefixOf (c :: rest) = false := by
    rw [marker, List.isPrefixOf_cons_cons, beq_eq_false_iff_ne.2 hne.symm, Bool.false_and]
  unfold lengthAt
  rw [hstart, if_neg Bool.false_ne_true]

theorem Element.unmarked_of_not_mem {text : Text} (h : '<' ∉ text) (name : TagName) :
    Text.Unmarked (openingLength name) text := by
  refine Text.unmarked_of_not_mem (fun c rest hne => ?_) h
  have hstart : ('<' :: name.letters).isPrefixOf (c :: rest) = false := by
    rw [List.isPrefixOf_cons_cons, beq_eq_false_iff_ne.2 hne.symm, Bool.false_and]
  unfold openingLength
  dsimp only
  rw [hstart, if_neg Bool.false_ne_true]

/-! ## Idle boundaries -/

namespace Boundary

variable {boundary : Boundary} {text : Text}

/-- The text is one piece, of which nothing is known. -/
def IsIdle (boundary : Boundary) (text : Text) : Prop :=
  boundary.divide text = .plain [text]

theorem split_of_idle (h : boundary.IsIdle text) (first : Nat) :
    boundary.split text first = .ok [{ text, id := first }] (first + 1) := by
  unfold split
  rw [h]
  rfl

theorem isIdle_heading {level : HeadingLevel}
    (unmarked : Text.Unmarked (Heading.lengthAt level) text) (ne_nil : text ≠ []) :
    (heading level).IsIdle text := by
  show Heading.divide level text = _
  unfold Heading.divide
  rw [Text.segments_of_unmarked unmarked ne_nil]
  rfl

theorem isIdle_headingElement {level : HeadingLevel}
    (unmarked : Text.Unmarked (Element.openingLength (.heading level)) text)
    (ne_nil : text ≠ []) : (headingElement level).IsIdle text := by
  have hscan : Element.scan (.heading level) text = .rest text := by
    rw [Element.scan]
    split
    · rfl
    · next opening hopening =>
        rw [Text.leftmost_of_unmarked unmarked] at hopening
        cases hopening
  show Element.divideHeadings level text = _
  unfold Element.divideHeadings Element.divideWith
  rw [hscan]
  dsimp only
  rw [if_neg (by simpa using ne_nil)]

end Boundary

namespace Policy

variable {policy : Policy} {text : Text}

/-! ## Without overlap -/

theorem assemble_of_overlap_eq (overlap_eq : policy.budget.maxOverlap = 0)
    (boundaries : List Boundary) (text : Text) :
    policy.assemble boundaries text = policy.settle boundaries { text } := by
  cases boundaries with
  | nil => rfl
  | cons boundary finer =>
      rw [assemble, lend_of_overlap_eq overlap_eq, settle]
      rfl

/-! ## Levels that are passed over -/

theorem flush_reopen (parts : List Chunk) (next : Nat) :
    ∃ packed : Option Chunk, (policy.reopen parts).2.flush next = .ok packed next ∧
      packed.toList = (policy.reopen parts).2.chunks := by
  unfold reopen
  split
  · exact ⟨none, rfl, rfl⟩
  · next last _ =>
      split
      · exact ⟨none, rfl, rfl⟩
      · exact ⟨some last, rfl, rfl⟩

theorem pack_singleton_of_long {descend : Chunk → Numbering (List Chunk)} {piece : Chunk}
    (joinable : policy.isStandalone piece.toPiece = false)
    (long : policy.budget.maxSize < piece.length) (first : Nat) :
    policy.pack descend .empty [piece] first = descend piece first := by
  have hlong := Budget.fits_eq_false_iff.2 long
  have hfull : policy.budget.hasRoom Buffer.empty.size piece.length = false := by
    rw [Budget.hasRoom_eq_false_iff, Buffer.size_empty, Nat.zero_add]
    exact long
  rw [pack, joinable, hfull, hlong]
  simp only [if_neg Bool.false_ne_true, Buffer.flush_empty, monadLift_self, pure_bind]
  cases hparts : descend piece first with
  | error tag last => rw [Numbering.bind_of_error hparts]
  | ok parts last =>
      obtain ⟨packed, hflush, hpacked⟩ := policy.flush_reopen parts last
      have hlater : policy.pack descend (policy.reopen parts).2 [] last =
          .ok (policy.reopen parts).2.chunks last := by
        simp only [pack, monadLift_self]
        rw [Numbering.bind_of_ok hflush, ← hpacked]
        rfl
      rw [Numbering.bind_of_ok hparts, Numbering.bind_of_ok hlater, Option.toList_none,
        List.nil_append, reopen_append]
      rfl

/-- An idle boundary only takes the number of its piece. -/
theorem assemble_cons_of_idle {boundary : Boundary} {finer : List Boundary}
    (overlap_eq : policy.budget.maxOverlap = 0) (ends : finer.getLast? = some .character)
    (idle : boundary.IsIdle text) (long : policy.budget.maxSize < text.length) (first : Nat) :
    policy.assemble (boundary :: finer) text first = policy.assemble finer text (first + 1) := by
  have hpack : policy.pack (fun part => policy.settle finer part.toPiece) .empty
      [{ text, id := first }] (first + 1) = policy.settle finer { text } (first + 1) :=
    pack_singleton_of_long rfl long (first + 1)
  rw [assemble_of_overlap_eq overlap_eq finer, assemble, lend_of_overlap_eq overlap_eq]
  simp only [level, monadLift_self]
  rw [Numbering.bind_of_ok (Boundary.split_of_idle idle first)]
  cases hparts : policy.settle finer { text } (first + 1) with
  | error tag last => rw [Numbering.bind_of_error (hpack.trans hparts)]
  | ok parts last =>
      have htight : policy.Tight (fun _ => False) 0 none parts := tight_of_settle ends rfl hparts 0
      have hne : ∀ part ∈ parts, part.text ≠ [] := fun part hpart =>
        ((texts_of_settle ends hparts).2 part hpart).1
      have hstitch : policy.stitch lendNothing .empty parts last = .ok parts last :=
        repack_of_tight htight last
      rw [Numbering.bind_of_ok (hpack.trans hparts), Numbering.bind_of_ok hstitch,
        settled_empty hne]
      rfl

theorem assemble_append_of_idle {coarse finer : List Boundary}
    (overlap_eq : policy.budget.maxOverlap = 0) (ends : finer.getLast? = some .character)
    (idle : ∀ boundary ∈ coarse, boundary.IsIdle text)
    (long : policy.budget.maxSize < text.length) (first : Nat) :
    policy.assemble (coarse ++ finer) text first =
      policy.assemble finer text (first + coarse.length) := by
  induction coarse generalizing first with
  | nil => rfl
  | cons boundary coarse ih =>
      obtain ⟨hboundary, hcoarse⟩ := List.forall_mem_cons.1 idle
      have hends : (coarse ++ finer).getLast? = some .character := by
        rw [List.getLast?_append, ends, Option.some_or]
      rw [List.cons_append, assemble_cons_of_idle overlap_eq hends hboundary long,
        ih hcoarse (first + 1), List.length_cons, Nat.add_assoc, Nat.add_comm 1]

end Policy

/-! ## Finished chunks -/

/-- The same finished chunk but for its number and the one that it is linked to, which are greater
by `shift`. -/
structure Chunk.Shifted (shift : Nat) (chunk other : Chunk) : Prop where
  text_eq : other.text = chunk.text
  id_eq : other.id = chunk.id + shift
  get?_id : chunk.get? Metadata.idKey = some (Text.decimal chunk.id)
  get?_id_other : other.get? Metadata.idKey = some (Text.decimal (chunk.id + shift))
  link : Metadata.MovedLink shift (chunk.get? Metadata.previousKey)
    (other.get? Metadata.previousKey)
  get?_eq : ∀ key, key ≠ Metadata.idKey → key ≠ Metadata.previousKey →
    other.get? key = chunk.get? key

theorem Chunk.Moved.shifted_stamp {shift : Nat} {chunk other : Chunk}
    (h : chunk.Moved shift other) (index : Nat) :
    (chunk.stamp index).Shifted shift (other.stamp index) where
  text_eq := h.piece.text_eq
  id_eq := h.id_eq
  get?_id := Policy.get?_stamp_id chunk index
  get?_id_other := by
    rw [Policy.get?_stamp_id other index, h.id_eq]
    rfl
  link := by
    rw [Policy.get?_stamp chunk index (by decide) (by decide),
      Policy.get?_stamp other index (by decide) (by decide)]
    exact h.piece.metadata.link
  get?_eq key hid hprevious := by
    by_cases hindex : key = Metadata.indexKey
    · rw [hindex, Policy.get?_stamp_index, Policy.get?_stamp_index]
    · rw [Policy.get?_stamp chunk index hid hindex, Policy.get?_stamp other index hid hindex]
      exact h.piece.metadata.get?_eq key hprevious

theorem forall₂_mapIdx {related : α → β → Prop} {also : γ → δ → Prop} {xs : List α} {ys : List β}
    {f : Nat → α → γ} {g : Nat → β → δ} (h : List.Forall₂ related xs ys)
    (hmap : ∀ i x y, related x y → also (f i x) (g i y)) :
    List.Forall₂ also (xs.mapIdx f) (ys.mapIdx g) := by
  induction h generalizing f g with
  | nil => exact .nil
  | cons hhead _ ih =>
      rw [List.mapIdx_cons, List.mapIdx_cons]
      exact .cons (hmap 0 _ _ hhead) (ih fun i => hmap (i + 1))

namespace Policy

/--
By the second cascade a text is divided as by the first one: it stops at the same tag, or gives
the same chunks, with numbers that are greater by `shift`.
-/
def Shifts (policy : Policy) (shift : Nat) (cascade other : Cascade) (text : Text) : Prop :=
  (∀ tag, policy.chunk cascade text = .error tag → policy.chunk other text = .error tag) ∧
    ∀ chunks, policy.chunk cascade text = .ok chunks →
      ∃ others, policy.chunk other text = .ok others ∧
        List.Forall₂ (Chunk.Shifted shift) chunks others

variable {policy : Policy} {text : Text}

theorem chunk_of_assemble {cascade : Cascade} {assembled : List Chunk} {last : Nat}
    (ne_nil : text ≠ []) (h : policy.assemble cascade.boundaries text 0 = .ok assembled last) :
    policy.chunk cascade text = .ok (stampAll assembled) := by
  rw [chunk, if_neg (by simpa using ne_nil), Numbering.runFrom, h]

theorem chunk_of_assemble_error {cascade : Cascade} {tag : UnclosedTag} {last : Nat}
    (ne_nil : text ≠ []) (h : policy.assemble cascade.boundaries text 0 = .error tag last) :
    policy.chunk cascade text = .error tag := by
  rw [chunk, if_neg (by simpa using ne_nil), Numbering.runFrom, h]

theorem shifts_of_idle {coarse : List Boundary} {cascade other : Cascade}
    (overlap_eq : policy.budget.maxOverlap = 0) (long : policy.budget.maxSize < text.length)
    (hother : other.boundaries = coarse ++ cascade.boundaries)
    (idle : ∀ boundary ∈ coarse, boundary.IsIdle text) :
    policy.Shifts coarse.length cascade other text := by
  have ne_nil : text ≠ [] := List.ne_nil_of_length_pos (Nat.lt_of_le_of_lt (Nat.zero_le _) long)
  have hassemble := assemble_append_of_idle overlap_eq cascade.ends idle long 0
  rw [← hother] at hassemble
  rcases moves_assemble cascade.boundaries text 0 with
    ⟨chunks, others, last, hchunks, hothers, hmoved⟩ | ⟨tag, last, herror, herror_other⟩
  · rw [Shifts, chunk_of_assemble ne_nil hchunks,
      chunk_of_assemble ne_nil (hassemble.trans hothers)]
    refine ⟨fun _ h => (nomatch h), fun finished hfinished => ⟨_, rfl, ?_⟩⟩
    cases hfinished
    exact forall₂_mapIdx hmoved fun index _ _ moved => moved.shifted_stamp index
  · rw [Shifts, chunk_of_assemble_error ne_nil herror,
      chunk_of_assemble_error ne_nil (hassemble.trans herror_other)]
    exact ⟨fun _ h => h, fun _ h => nomatch h⟩

theorem shifts_of_levels {level : HeadingLevel → Boundary} {cascade other : Cascade}
    (overlap_eq : policy.budget.maxOverlap = 0) (long : policy.budget.maxSize < text.length)
    (hother : other.boundaries = HeadingLevel.all.map level ++ cascade.boundaries)
    (idle : ∀ rank, (level rank).IsIdle text) : policy.Shifts 6 cascade other text := by
  refine shifts_of_idle overlap_eq long hother fun boundary hboundary => ?_
  obtain ⟨rank, -, rfl⟩ := List.mem_map.1 hboundary
  exact idle rank

/--
A boundary that leaves a long text in one piece is passed over if there is no overlap: the text is
divided as by the boundaries below it, with every number and every link greater by one.  So a text
without headings is divided by the header strategies as by the next ones.
-/
theorem chunk_skips_idle (overlap_eq : policy.budget.maxOverlap = 0)
    (long : policy.budget.maxSize < text.length) :
    (∀ (boundary : Boundary) (cascade other : Cascade),
      other.boundaries = boundary :: cascade.boundaries → boundary.IsIdle text →
        policy.Shifts 1 cascade other text) ∧
      ((∀ level, Text.Unmarked (Heading.lengthAt level) text) →
        policy.Shifts 6 (Strategy.markdown .codeBlock).cascade
          (Strategy.markdown .header).cascade text) ∧
      ((∀ level, Text.Unmarked (Element.openingLength (.heading level)) text) →
        policy.Shifts 6 (Strategy.html .paragraph).cascade
          (Strategy.html .header).cascade text) := by
  have ne_nil : text ≠ [] := List.ne_nil_of_length_pos (Nat.lt_of_le_of_lt (Nat.zero_le _) long)
  refine ⟨fun boundary cascade other hother idle => ?_, fun unmarked => ?_, fun unmarked => ?_⟩
  · exact shifts_of_idle overlap_eq long hother (List.forall_mem_singleton.2 idle)
  · exact shifts_of_levels overlap_eq long rfl fun level =>
      Boundary.isIdle_heading (unmarked level) ne_nil
  · exact shifts_of_levels overlap_eq long rfl fun level =>
      Boundary.isIdle_headingElement (unmarked level) ne_nil

def plainWords : Text :=
  "ab cd ef gh".toList

def sizeSix : Policy :=
  ⟨⟨6, 0, by decide, by decide⟩, [Metadata.codeBlockKind]⟩

theorem chunk_skips_idle_plainWords :
    (∃ chunks others,
      sizeSix.chunk (Strategy.markdown .codeBlock).cascade plainWords = .ok chunks ∧
        sizeSix.chunk (Strategy.markdown .header).cascade plainWords = .ok others ∧
        List.Forall₂ (Chunk.Shifted 6) chunks others) ∧
      sizeSix.Shifts 1 (Strategy.markdown .horizontalLine).cascade
        (Strategy.markdown .codeBlock).cascade plainWords ∧
      sizeSix.Shifts 6 (Strategy.html .paragraph).cascade (Strategy.html .header).cascade
        plainWords := by
  obtain ⟨hone, hmarkdown, hhtml⟩ := @chunk_skips_idle sizeSix plainWords rfl (by decide)
  have hfence : Boundary.fence.IsIdle plainWords := by
    show Boundary.fence.divide plainWords = .plain [plainWords]
    decide +kernel
  -- No boundary of a Markdown text stops at a tag.
  obtain ⟨chunks, hchunks⟩ : ∃ chunks,
      sizeSix.chunk (Strategy.markdown .codeBlock).cascade plainWords = .ok chunks :=
    exists_chunk_eq_ok_iff.2 (firstUnclosed_of_plain (by decide) plainWords)
  obtain ⟨others, hothers, hshifted⟩ :=
    (hmarkdown (Heading.unmarked_of_not_mem (by decide))).2 chunks hchunks
  exact ⟨⟨chunks, others, hchunks, hothers, hshifted⟩, hone .fence _ _ rfl hfence,
    hhtml fun level => Element.unmarked_of_not_mem (by decide) (.heading level)⟩

end Policy

end Chunking
