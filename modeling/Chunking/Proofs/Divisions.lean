import Chunking.Boundary

/-!
# What boundaries make of a text

Pieces have no metadata, or those of a heading, or those of a fenced block, which
then has text.  So no boundary writes a key of finished chunks, and a piece of a
certain kind is never empty.
-/

namespace Chunking

/-! ## Single characters -/

namespace Text

theorem segmentsFrom_word_nil (before : Option Char) (text : Text) :
    segmentsFrom (word []) before text = ([], text.map fun c => .gap [c]) := by
  induction text generalizing before with
  | nil => simp [segmentsFrom]
  | cons c rest ih =>
      have hword : word [] before (c :: rest) = some 0 := rfl
      rw [segmentsFrom, hword]
      simp only [ih (some c)]
      rfl

theorem segments_word_nil (text : Text) :
    segments (word []) text = text.map fun c => .gap [c] := by
  unfold segments
  rw [segmentsFrom_word_nil]
  rfl

end Text

/-! ## Metadata of pieces -/

/-- The metadata that a boundary may give to a piece with the given text. -/
inductive Piece.Marked (text : Text) : Metadata → Prop
  | plain : Marked text .empty
  | heading (title : String) : Marked text (.ofList [(Metadata.headerKey, title)])
  | headingElement (level : HeadingLevel) (title : String) :
      Marked text (.ofList [(Metadata.headerKey ++ Text.decimal level.rank, title),
        (Metadata.headerKey, title)])
  | block (ne_nil : text ≠ []) : Marked text (Fence.metadata text)

theorem Metadata.ne_header_of_head? {key : String} (h : key.toList.head? ≠ some 'h')
    (letters : String) : key ≠ headerKey ++ letters := by
  rintro rfl
  rw [String.toList_append] at h
  exact h rfl

namespace Piece.Marked

variable {text : Text} {metadata : Metadata}

theorem get?_eq_none (h : Marked text metadata) {key : String} (hkind : key ≠ Metadata.kindKey)
    (hlanguage : key ≠ Metadata.languageKey)
    (hheader : ∀ letters, key ≠ Metadata.headerKey ++ letters) : metadata.get? key = none := by
  have hplain : key ≠ Metadata.headerKey := by simpa using hheader ""
  cases h with
  | plain => rfl
  | heading title => simp [Metadata.ofList, hplain]
  | headingElement level title => simp [Metadata.ofList, hplain, hheader]
  | block => simp [Fence.metadata, Metadata.ofList, hkind, hlanguage]

/-- Only fenced blocks are of a kind, and they are not empty. -/
theorem ne_nil_of_kind (h : Marked text metadata) {kind : String}
    (hkind : metadata.get? Metadata.kindKey = some kind) : text ≠ [] := by
  cases h with
  | plain => cases hkind
  | heading title =>
      have hplain : Metadata.kindKey ≠ Metadata.headerKey := by decide
      simp [Metadata.ofList, hplain] at hkind
  | headingElement level title =>
      have hplain : Metadata.kindKey ≠ Metadata.headerKey := by decide
      have hranked : ∀ letters, Metadata.kindKey ≠ Metadata.headerKey ++ letters :=
        Metadata.ne_header_of_head? (by decide)
      simp [Metadata.ofList, hplain, hranked] at hkind
  | block ne_nil => exact ne_nil

end Piece.Marked

/-! ## Divisions into marked pieces -/

def Division.Marked (division : Division) : Prop :=
  ∀ piece ∈ division.pieces, Piece.Marked piece.text piece.metadata

theorem Division.marked_plain (texts : List Text) : (Division.plain texts).Marked := by
  intro piece hpiece
  obtain ⟨text, -, rfl⟩ := List.mem_map.1 hpiece
  exact .plain

theorem Heading.exists_metadata_eq (level : HeadingLevel) (current : Option Text)
    (segments : List Text.Segment) :
    ∀ piece ∈ pieces level current segments, ∃ title, piece.metadata = metadata title := by
  induction segments generalizing current with
  | nil => exact fun piece hpiece => absurd hpiece List.not_mem_nil
  | cons segment rest ih =>
      cases segment with
      | gap text => exact List.forall_mem_cons.2 ⟨⟨current, rfl⟩, ih current⟩
      | mark line => exact List.forall_mem_cons.2 ⟨⟨some (title level line), rfl⟩, ih _⟩

theorem Heading.marked_divide (level : HeadingLevel) (text : Text) :
    (divide level text).Marked := by
  intro piece hpiece
  obtain ⟨title, htitle⟩ := exists_metadata_eq level none _ piece hpiece
  rw [htitle]
  cases title with
  | none => exact .plain
  | some title => exact .heading _

theorem Fence.marked_divide (text : Text) : (divide text).Marked := by
  intro piece hpiece
  obtain ⟨segment, hsegment, rfl⟩ := List.mem_map.1 hpiece
  have hne := Text.ne_nil_of_mem_segments hsegment
  cases segment with
  | gap text => exact .plain
  | mark text => exact .block hne

theorem Element.forall_mem_triples {P : Piece → Prop} {name : TagName} {metadata : Text → Metadata}
    (plain : ∀ text, P { text })
    (annotated : ∀ content text, P { text, metadata := metadata content }) (before : Text)
    (found : Scan) : ∀ piece ∈ (found.triples name metadata before).pieces, P piece := by
  induction found generalizing before with
  | rest text => exact fun piece hpiece => absurd hpiece List.not_mem_nil
  | unclosed text => exact fun piece hpiece => absurd hpiece List.not_mem_nil
  | element _ content next ih =>
      intro piece hpiece
      simp only [Scan.triples, List.mem_cons] at hpiece
      obtain rfl | rfl | rfl | hpiece := hpiece
      · exact plain before
      · exact annotated content content
      · exact annotated content next.lead
      · exact ih [] piece hpiece

theorem Element.forall_mem_divideWith {P : Piece → Prop} {name : TagName}
    {metadata : Text → Metadata} (plain : ∀ text, P { text })
    (annotated : ∀ content text, P { text, metadata := metadata content }) (text : Text) :
    ∀ piece ∈ (divideWith name metadata text).pieces, P piece := by
  unfold divideWith
  split
  · exact List.forall_mem_map.2 fun text _ => plain text
  · exact forall_mem_triples plain annotated _ _

namespace Boundary

theorem marked_divide (boundary : Boundary) (text : Text) : (boundary.divide text).Marked := by
  cases boundary with
  | literal delimiter => exact Division.marked_plain _
  | pattern program => exact Division.marked_plain _
  | sentence => exact Division.marked_plain _
  | rule => exact Division.marked_plain _
  | heading level => exact Heading.marked_divide level text
  | fence => exact Fence.marked_divide text
  | element name => exact Element.forall_mem_divideWith (fun _ => .plain) (fun _ _ => .plain) text
  | headingElement level =>
      exact Element.forall_mem_divideWith (fun _ => .plain)
        (fun _ _ => .headingElement level _) text

theorem unclosed_divide_nil (boundary : Boundary) : (boundary.divide []).unclosed = none := by
  have hscan : ∀ name, Element.scan name [] = .rest [] := by
    intro name
    rw [Element.scan]
    rfl
  cases boundary with
  | element name => rw [divide, Element.divide, Element.divideWith, hscan]; rfl
  | headingElement level => rw [divide, Element.divideHeadings, Element.divideWith, hscan]; rfl
  | _ => rfl

/-- The last boundary of a cascade leaves nothing that could be divided. -/
theorem length_of_mem_divide_character {text : Text} {piece : Piece}
    (h : piece ∈ (character.divide text).pieces) : piece.length = 1 := by
  have hdivide : character.divide text = .plain (text.map fun c => [c]) := by
    rw [character, divide, divideAround, Text.segments_word_nil, List.map_map]
    rfl
  rw [hdivide] at h
  obtain ⟨letters, hletters, rfl⟩ := List.mem_map.1 h
  obtain ⟨c, -, rfl⟩ := List.mem_map.1 hletters
  rfl

theorem split_of_closed {boundary : Boundary} {text : Text}
    (h : (boundary.divide text).unclosed = none) (next : Nat) :
    boundary.split text next = .ok (Chunk.consecutive next (boundary.divide text).pieces)
      (next + (boundary.divide text).pieces.length) :=
  Division.number_of_closed h next

theorem split_eq_ok {boundary : Boundary} {text : Text} {pieces : List Chunk} {next last : Nat}
    (h : boundary.split text next = .ok pieces last) :
    (boundary.divide text).unclosed = none ∧
      pieces.map Chunk.toPiece = (boundary.divide text).pieces := by
  unfold split at h
  cases hunclosed : (boundary.divide text).unclosed with
  | none =>
      rw [Division.number_of_closed hunclosed] at h
      cases h
      exact ⟨rfl, Chunk.toPiece_consecutive _ _⟩
  | some tag =>
      rw [Division.number_of_unclosed hunclosed] at h
      cases h

theorem mem_divide_of_split {boundary : Boundary} {text : Text} {pieces : List Chunk}
    {next last : Nat} (h : boundary.split text next = .ok pieces last) {piece : Chunk}
    (mem : piece ∈ pieces) : piece.toPiece ∈ (boundary.divide text).pieces := by
  rw [← (split_eq_ok h).2]
  exact List.mem_map_of_mem mem

end Boundary

end Chunking
