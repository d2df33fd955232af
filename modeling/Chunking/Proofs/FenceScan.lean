import Chunking.Proofs.Blocks
import Chunking.Proofs.Scanning

/-!
# A scan for fenced blocks

Fenced blocks by position: where an opening fence is, and where the block that it begins ends.
The division at fences is what a scan of the text comes upon and what it passes over, and no
piece of it is divided once more.
-/

namespace Chunking

/-! ## The first word of a line -/

namespace Text

/-- The word stands in front of a blank or of the end, and before it there are only blanks. -/
def IsFirstWord (line word : Text) : Prop :=
  (word ≠ [] ∧ ∀ c ∈ word, isBlank c = false) ∧ ∃ front behind, line = front ++ (word ++ behind) ∧
    (∀ c ∈ front, isBlank c = true) ∧ ∀ c ∈ behind.head?, isBlank c = true

theorem isFirstWord_of_firstWord? {line word : Text} (h : firstWord? line = some word) :
    IsFirstWord line word := by
  refine ⟨firstWord?_eq_some h, line.takeWhile isBlank,
    (line.dropWhile isBlank).dropWhile (!isBlank ·), ?_, fun c => of_mem_takeWhile, ?_⟩
  · have hword : (line.dropWhile isBlank).takeWhile (!isBlank ·) = word := by
      unfold firstWord? at h
      split at h
      · cases h
      · next heq =>
          cases h
          exact heq
    rw [← hword, List.takeWhile_append_dropWhile, List.takeWhile_append_dropWhile]
  · intro c hc
    have hhead := List.head?_dropWhile_not (!isBlank ·) (line.dropWhile isBlank)
    rw [hc] at hhead
    simpa using hhead

theorem isBlank_of_firstWord? {line : Text} (h : firstWord? line = none) :
    ∀ c ∈ line, isBlank c = true := by
  unfold firstWord? at h
  split at h
  · next heq =>
      cases hdrop : line.dropWhile isBlank with
      | nil =>
          have hsplit := List.takeWhile_append_dropWhile (p := isBlank) (l := line)
          rw [hdrop, List.append_nil] at hsplit
          intro c hc
          rw [← hsplit] at hc
          exact of_mem_takeWhile hc
      | cons c rest =>
          have hhead := List.head?_dropWhile_not isBlank line
          rw [hdrop] at heq hhead
          simp [List.takeWhile_cons] at heq hhead
          simp [hhead] at heq
  · cases h

end Text

namespace Fence

/-! ## Blocks by position -/

/-- Three backticks and the rest of their line, which holds no backtick. -/
def OpensAt (text : Text) (start opened : Nat) : Prop :=
  ∃ line, (∀ c ∈ line, c ≠ '`' ∧ c ≠ '\n') ∧
    '`' :: '`' :: '`' :: (line ++ ['\n']) <+: text.drop start ∧ opened = start + line.length + 4

/-- Three backticks in front of a line end, or of the end of the text. -/
def ClosesAt (text : Text) (start stop : Nat) : Prop :=
  ['`', '`', '`', '\n'] <+: text.drop start ∧ stop = start + 4 ∨
    text.drop start = ['`', '`', '`'] ∧ stop = start + 3

/-- A block ends where it is closed first, and else at the end of the text. -/
def EndsAt (text : Text) (opened stop : Nat) : Prop :=
  (∃ closing, Text.First (ClosesAt text) opened closing stop) ∨
    (∀ closing stop, opened ≤ closing → ¬ClosesAt text closing stop) ∧ stop = text.length

variable {text : Text} {start opened stop : Nat}

theorem opensAt_iff : OpensAt text start opened ↔ Text.Occurs openingLength text start opened := by
  unfold Text.Occurs
  simp only [openingLength_eq_some_iff]
  constructor
  · rintro ⟨line, hline, hbegins, rfl⟩
    exact ⟨_, ⟨line, hline, hbegins, rfl⟩, by omega⟩
  · rintro ⟨n, ⟨line, hline, hbegins, rfl⟩, rfl⟩
    exact ⟨line, hline, hbegins, by omega⟩

theorem closesAt_iff : ClosesAt text start stop ↔ Text.Occurs closingLength text start stop := by
  unfold Text.Occurs
  simp only [closingLength_eq_some_iff]
  constructor
  · rintro (⟨hbegins, rfl⟩ | ⟨hend, rfl⟩)
    · exact ⟨4, .inl ⟨rfl, hbegins⟩, rfl⟩
    · exact ⟨3, .inr ⟨rfl, hend⟩, rfl⟩
  · rintro ⟨n, ⟨rfl, hbegins⟩ | ⟨rfl, hend⟩, rfl⟩
    · exact .inl ⟨hbegins, rfl⟩
    · exact .inr ⟨hend, rfl⟩

theorem functional_opensAt (text : Text) : Text.Functional (OpensAt text) :=
  Text.functional_of_occurs opensAt_iff

theorem functional_closesAt (text : Text) : Text.Functional (ClosesAt text) :=
  Text.functional_of_occurs closesAt_iff

theorem functional_endsAt (text : Text) : Text.Functional (EndsAt text) := by
  rintro opened stop other (⟨closing, hfirst⟩ | ⟨hnone, rfl⟩) (⟨closing', hfirst'⟩ | ⟨hnone', rfl⟩)
  · exact (hfirst.unique (functional_closesAt text) hfirst').2
  · exact absurd hfirst.found (hnone' _ _ hfirst.le)
  · exact absurd hfirst'.found (hnone _ _ hfirst'.le)
  · rfl

theorem closingLength_pos {text : Text} {n : Nat} (h : closingLength text = some n) : 0 < n := by
  rcases closingLength_eq_some_iff.1 h with ⟨rfl, -⟩ | ⟨rfl, -⟩ <;> omega

theorem endsAt_bodyLength (le : opened ≤ text.length) :
    EndsAt text opened (opened + bodyLength (text.drop opened)) := by
  unfold EndsAt bodyLength
  cases hleftmost : Text.leftmost closingLength (text.drop opened) with
  | none =>
      refine .inr ⟨?_, ?_⟩
      · intro closing stop hclosing hcloses
        exact Text.not_occurs_of_leftmost closingLength_pos length_of_closingLength hleftmost
          hclosing stop (closesAt_iff.1 hcloses)
      · simp only [List.length_drop]
        omega
  | some cut =>
      obtain ⟨closing, stop, hfirst, hcut⟩ :=
        Text.first_of_leftmost closingLength_pos length_of_closingLength hleftmost
      have hstop : opened + (cut.before.length + cut.mark.length) = stop := by
        have hle := hcut.le
        have hopened := hfirst.le
        obtain ⟨n, -, rfl⟩ := hfirst.found
        rw [hcut.before_eq, hcut.mark_eq]
        simp only [List.extract_eq_take_drop, List.length_take, List.length_drop]
        omega
      dsimp only
      rw [hstop]
      exact .inl ⟨closing, hfirst.congr closesAt_iff.symm⟩

theorem le_length_of_opensAt (h : OpensAt text start opened) : opened ≤ text.length := by
  obtain ⟨line, -, hbegins, rfl⟩ := h
  have hle := hbegins.length_le
  simp only [List.length_cons, List.length_append, List.length_drop] at hle
  omega

theorem occurs_blockLength_iff : Text.Occurs blockLength text start stop ↔
    ∃ opened, OpensAt text start opened ∧ EndsAt text opened stop := by
  constructor
  · rintro ⟨n, hn, rfl⟩
    obtain ⟨opening, hopening, rfl⟩ := Option.map_eq_some_iff.1 hn
    have hopens : OpensAt text start (start + opening) := opensAt_iff.2 ⟨opening, hopening, rfl⟩
    have hends := endsAt_bodyLength (le_length_of_opensAt hopens)
    rw [List.drop_drop, ← Nat.add_assoc]
    exact ⟨_, hopens, hends⟩
  · rintro ⟨opened, hopens, hends⟩
    obtain ⟨opening, hopening, rfl⟩ := opensAt_iff.1 hopens
    have hends' := endsAt_bodyLength (le_length_of_opensAt hopens)
    rw [functional_endsAt text _ _ _ hends hends']
    refine ⟨opening + bodyLength (text.drop (start + opening)), ?_, by omega⟩
    rw [blockLength, hopening, Option.map_some, List.drop_drop]

/-! ## Pieces -/

/-- The first word of an opening line, or what stands for it where there is none. -/
def IsLanguage (line : Text) (language : String) : Prop :=
  Text.IsFirstWord line language.toList ∨ (∀ c ∈ line, Text.isBlank c = true) ∧ language = "unknown"

/-- What is passed over is plain, and a block is of its kind and in the language of its line. -/
inductive Describes : Text.Segment → Piece → Prop
  | plain (text : Text) : Describes (.gap text) { text }
  | block {block line : Text} {language : String} (unbroken : ∀ c ∈ line, c ≠ '`' ∧ c ≠ '\n')
      (opens : '`' :: '`' :: '`' :: (line ++ ['\n']) <+: block) (named : IsLanguage line language) :
      Describes (.mark block) ⟨block, .ofList [(Metadata.kindKey, Metadata.codeBlockKind),
        (Metadata.languageKey, language)]⟩

theorem blockLength_of_mem_segments {block : Text}
    (h : .mark block ∈ Text.segments (fun _ ahead => blockLength ahead) text) :
    blockLength block = some block.length := by
  obtain ⟨before, after, hsegments⟩ := List.append_of_mem h
  have hfound := (Text.markAt_of_segments steady_blockLength.toSized hsegments).found
  have hjoin := Text.flatten_segments (fun _ ahead => blockLength ahead) text
  rw [hsegments, ← List.flatMap_def, List.flatMap_append, List.flatMap_cons] at hjoin
  rw [← hjoin, List.drop_left] at hfound
  exact steady_blockLength.some_of_append hfound (Nat.le_refl _)

theorem describes_piece {segment : Text.Segment}
    (h : segment ∈ Text.segments (fun _ ahead => blockLength ahead) text) :
    Describes segment (piece segment) := by
  cases segment with
  | gap text => exact .plain text
  | mark block =>
      obtain ⟨opening, hopening, -⟩ := Option.map_eq_some_iff.1 (blockLength_of_mem_segments h)
      obtain ⟨line, hline, ⟨behind, rfl⟩, -⟩ := openingLength_eq_some_iff.1 hopening
      refine .block hline (List.prefix_append _ _) ?_
      have hinfo : info (line ++ ['\n'] ++ behind) = line :=
        (Text.takeWhile_of_prefix (p := fun c => c != '`' && c != '\n') (by simpa using hline) rfl
          (List.prefix_append _ _)).1
      have hlanguage : language ('`' :: '`' :: '`' :: (line ++ ['\n']) ++ behind) =
          (Text.firstWord? line).getD "unknown".toList := by
        show (Text.firstWord? (info (line ++ ['\n'] ++ behind))).getD _ = _
        rw [hinfo]
      rw [hlanguage]
      cases hword : Text.firstWord? line with
      | some word => exact .inl (by simpa using Text.isFirstWord_of_firstWord? hword)
      | none => exact .inr ⟨Text.isBlank_of_firstWord? hword, rfl⟩

theorem divide_of_blockLength {block : Text} (h : blockLength block = some block.length) :
    (divide block).pieces = [piece (.mark block)] := by
  have hsegments := @Text.segments_eq_leftmost blockLength blockLength_pos block
  cases block with
  | nil => cases blockLength_pos h
  | cons c rest =>
      rw [Text.leftmost, h] at hsegments
      simp only [List.take_length, List.drop_length] at hsegments
      rw [divide, hsegments]
      simp [Text.segments, Text.segmentsFrom, Text.Segment.gapOf]

theorem divide_of_mem_divide {part : Piece} (h : part ∈ (divide text).pieces) :
    (divide part.text).pieces = [part] := by
  by_cases hblock : IsBlock part
  · obtain ⟨segment, hsegment, rfl⟩ := List.mem_map.1 h
    cases segment with
    | gap text => cases isBlock_piece.1 hblock
    | mark block => exact divide_of_blockLength (blockLength_of_mem_segments hsegment)
  · exact divide_of_plain h hblock

theorem not_opensAt_of_plain {part : Piece} (h : part ∈ (divide text).pieces)
    (plain : ¬IsBlock part) (start opened : Nat) : ¬OpensAt part.text start opened := by
  obtain ⟨segment, hsegment, rfl⟩ := List.mem_map.1 h
  cases segment with
  | mark block =>
      have hmark : (Text.Segment.mark block).IsMark := trivial
      exact absurd (isBlock_piece.2 hmark) plain
  | gap inner =>
      rw [text_piece]
      intro hopens
      have hends := endsAt_bodyLength (le_length_of_opensAt hopens)
      obtain ⟨n, hn, -⟩ := occurs_blockLength_iff.2 ⟨_, hopens, hends⟩
      change blockLength (inner.drop start) = some n at hn
      have hne : inner.drop start ≠ [] := by
        intro hnil
        rw [hnil] at hn
        cases hn
      have hunmarked := (alternates_segments text).unmarked inner hsegment
      have hnone := hunmarked _ (List.drop_suffix start inner) hne
      rw [hnone] at hn
      cases hn

theorem exists_scans (text : Text) :
    ∃ blocks, Text.Scans (OpensAt text) (EndsAt text) 0 blocks ∧
      Text.segments (fun _ ahead => blockLength ahead) text = Text.layout text 0 blocks := by
  refine Text.exists_scans_segments blockLength_pos steady_blockLength.le occurs_blockLength_iff
    ?_ 0
  intro start opened hopens
  exact ⟨_, endsAt_bodyLength (le_length_of_opensAt hopens)⟩

/--
The pieces at fences are the blocks that the one scan of a content comes upon, each of its kind
and in the language of its opening line, and what the scan passes over.  Plain pieces have text,
hold no opening fence and do not touch one another, and every piece on its own stays as it is.
-/
theorem split_follows_fences (content : Text) (first : Nat) :
    ∃ blocks pieces last,
      (∀ others, Text.Scans (OpensAt content) (EndsAt content) 0 others ↔ others = blocks) ∧
      Boundary.fence.split content first = .ok pieces last ∧
      List.Forall₂ Describes (Text.layout content 0 blocks) (pieces.map Chunk.toPiece) ∧
      (pieces.map Chunk.toPiece).IsChain (fun one next => IsBlock one ∨ IsBlock next) ∧
      ∀ piece ∈ pieces,
        (¬IsBlock piece.toPiece →
          piece.text ≠ [] ∧ ∀ start opened, ¬OpensAt piece.text start opened) ∧
        ∀ next, Boundary.fence.split piece.text next =
          .ok [{ piece with id := next }] (next + 1) := by
  obtain ⟨blocks, hscans, hlayout⟩ := exists_scans content
  have hsplit : ∀ text next, Boundary.fence.split text next =
      .ok (Chunk.consecutive next (divide text).pieces) (next + (divide text).pieces.length) :=
    fun text next => @Division.number_of_closed (divide text) rfl next
  have hpieces := Chunk.toPiece_consecutive first (divide content).pieces
  refine ⟨blocks, _, _, ?_, hsplit content first, ?_, ?_, ?_⟩
  · exact hscans.iff_eq (functional_opensAt content) (functional_endsAt content)
  · rw [hpieces, ← hlayout, divide, List.forall₂_map_right_iff, List.forall₂_same]
    exact fun segment hsegment => describes_piece hsegment
  · rw [hpieces]
    exact isChain_divide content
  · intro piece hpiece
    have hmem : piece.toPiece ∈ (divide content).pieces := by
      rw [← hpieces]
      exact List.mem_map_of_mem hpiece
    refine ⟨fun plain => ⟨ne_nil_of_mem_divide hmem, not_opensAt_of_plain hmem plain⟩, ?_⟩
    intro next
    rw [hsplit, divide_of_mem_divide hmem]
    rfl

/-- Of four backticks the last three are a fence. -/
example : (divide "a````rust x\nb\n```\n".toList).pieces =
    [{ text := "a`".toList }, ⟨"```rust x\nb\n```\n".toList,
      .ofList [(Metadata.kindKey, Metadata.codeBlockKind), (Metadata.languageKey, "rust")]⟩] := by
  decide +kernel

end Fence

end Chunking
