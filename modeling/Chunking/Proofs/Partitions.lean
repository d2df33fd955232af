import Chunking.Proofs.Divisions
import Chunking.Proofs.Fences

/-!
# Partitions

Every boundary cuts a text into consecutive pieces and leaves nothing out.  The pieces have text,
except around elements: an element stands between two pieces of its own, which may be empty.
-/

namespace Chunking

theorem Heading.ne_nil_of_mem_divide {level : HeadingLevel} {text : Text} {piece : Piece}
    (h : piece ∈ (divide level text).pieces) : piece.text ≠ [] := by
  have htexts := text_pieces level none (Text.segments (fun _ ahead => lengthAt level ahead) text)
  have hmem : piece.text ∈ (divide level text).pieces.map Piece.text := List.mem_map_of_mem h
  rw [divide, htexts] at hmem
  obtain ⟨segment, hsegment, heq⟩ := List.mem_map.1 hmem
  rw [← heq]
  exact Text.ne_nil_of_mem_segments hsegment

/-! ## Elements and the pieces around them -/

namespace Element

/-- The pieces that an element gives: the text before it, the element, the text behind it. -/
structure Triple where
  before : Piece
  element : Piece
  after : Piece

def Triple.pieces (triple : Triple) : List Piece :=
  [triple.before, triple.element, triple.after]

structure Triple.IsAround (name : TagName) (triple : Triple) : Prop where
  opens : '<' :: name.letters <+: triple.element.text
  closes : closingTag name <:+ triple.element.text

theorem Triple.IsAround.ne_nil {name : TagName} {triple : Triple} (h : triple.IsAround name) :
    triple.element.text ≠ [] := by
  intro hnil
  have hopens := h.opens
  rw [hnil, List.prefix_nil] at hopens
  cases hopens

theorem prefix_of_openingLength {name : TagName} {text : Text} {n : Nat}
    (h : openingLength name text = some n) : '<' :: name.letters <+: text.take n := by
  unfold openingLength at h
  simp only [List.length_cons] at h
  split at h
  · next hopens =>
      have hstart := List.isPrefixOf_iff_prefix.1 hopens
      refine List.prefix_take_iff.2 ⟨hstart, ?_⟩
      rw [List.length_cons]
      split at h
      · cases h
      · cases h
        exact Nat.le_succ _
      · split at h
        · cases h
          omega
        · cases h
  · cases h

theorem take_of_closingLength {name : TagName} {text : Text} {n : Nat}
    (h : closingLength name text = some n) : text.take n = closingTag name := by
  unfold closingLength Text.word at h
  split at h
  · next hclosing =>
      cases h
      obtain ⟨behind, rfl⟩ := List.isPrefixOf_iff_prefix.1 hclosing
      exact List.take_left
  · cases h

theorem isAround_of_leftmost {name : TagName} {text : Text} {opening closing : Text.Cut}
    (hopening : Text.leftmost (openingLength name) text = some opening)
    (hclosing : Text.leftmost (closingLength name) opening.after = some closing)
    (before after : Piece) (metadata : Metadata) :
    Triple.IsAround name ⟨before,
      { text := opening.mark ++ closing.before ++ closing.mark, metadata }, after⟩ where
  opens := by
    obtain ⟨n, hlength, hmark, -⟩ := Text.lengthAt_of_leftmost hopening
    have hprefix := prefix_of_openingLength hlength
    rw [← hmark] at hprefix
    rw [List.append_assoc]
    exact hprefix.trans (List.prefix_append _ _)
  closes := by
    obtain ⟨n, hlength, hmark, -⟩ := Text.lengthAt_of_leftmost hclosing
    rw [hmark, take_of_closingLength hlength]
    exact List.suffix_append _ _

theorem exists_triples_of_scan (name : TagName) (metadata : Text → Metadata) (text before : Text) :
    ∃ triples : List Triple,
      ((scan name text).triples name metadata before).pieces = triples.flatMap Triple.pieces ∧
        ∀ triple ∈ triples, triple.IsAround name := by
  fun_induction scan name text generalizing before with
  | case1 text hopening => exact ⟨[], rfl, by simp⟩
  | case2 text opening hopening hclosing => exact ⟨[], rfl, by simp⟩
  | case3 text opening hopening closing hclosing ih =>
      obtain ⟨triples, hpieces, haround⟩ := ih []
      have hfirst := isAround_of_leftmost hopening hclosing { text := before }
        { text := (scan name closing.after).lead,
          metadata := metadata (opening.mark ++ closing.before ++ closing.mark) }
        (metadata (opening.mark ++ closing.before ++ closing.mark))
      refine ⟨_ :: triples, ?_, List.forall_mem_cons.2 ⟨hfirst, haround⟩⟩
      rw [List.flatMap_cons, ← hpieces]
      rfl

theorem exists_triples (name : TagName) (metadata : Text → Metadata) (text : Text) :
    (text ≠ [] ∧ (divideWith name metadata text).pieces = [{ text }]) ∨
      ∃ triples : List Triple,
        (divideWith name metadata text).pieces = triples.flatMap Triple.pieces ∧
          ∀ triple ∈ triples, triple.IsAround name := by
  obtain ⟨triples, hpieces, haround⟩ :=
    exists_triples_of_scan name metadata text (scan name text).lead
  unfold divideWith
  cases hscan : scan name text with
  | rest found =>
      have hfound : found = text := joined?_scan (by rw [hscan]; rfl)
      subst hfound
      cases found with
      | nil => exact .inr ⟨[], rfl, by simp⟩
      | cons c rest => exact .inl ⟨List.cons_ne_nil c rest, rfl⟩
  | unclosed lead =>
      rw [hscan] at hpieces
      exact .inr ⟨triples, hpieces, haround⟩
  | element lead content next =>
      rw [hscan] at hpieces
      exact .inr ⟨triples, hpieces, haround⟩

theorem unclosed_triples_eq_some_iff {name : TagName} {metadata : Text → Metadata}
    {before : Text} {found : Scan} {tag : UnclosedTag} :
    (found.triples name metadata before).unclosed = some tag ↔
      tag = ⟨name⟩ ∧ found.joined? = none := by
  induction found generalizing before with
  | rest text => simp [Scan.triples, Scan.joined?]
  | unclosed text => simp [Scan.triples, Scan.joined?, eq_comm]
  | element _ content next ih => simp [Scan.triples, Scan.joined?, ih]

theorem unclosed_divideWith {name : TagName} {metadata : Text → Metadata} {text : Text}
    {tag : UnclosedTag} :
    (divideWith name metadata text).unclosed = some tag ↔
      tag = ⟨name⟩ ∧ (scan name text).joined? = none := by
  unfold divideWith
  split
  · next hscan => simp [hscan, Division.plain, Scan.joined?]
  · exact unclosed_triples_eq_some_iff

end Element

/-! ## All boundaries -/

namespace Boundary

theorem ne_nil_of_mem_divideAround {recognizer : Text.Recognizer} {text : Text} {piece : Piece}
    (h : piece ∈ (divideAround recognizer text).pieces) : piece.text ≠ [] := by
  obtain ⟨letters, hletters, rfl⟩ := List.mem_map.1 h
  obtain ⟨segment, hsegment, rfl⟩ := List.mem_map.1 hletters
  exact Text.ne_nil_of_mem_segments hsegment

theorem ne_nil_or_exists_triples (boundary : Boundary) (text : Text) :
    (∀ piece ∈ (boundary.divide text).pieces, piece.text ≠ []) ∨
      ∃ name, boundary.tagName? = some name ∧ ∃ triples : List Element.Triple,
        (boundary.divide text).pieces = triples.flatMap Element.Triple.pieces ∧
          ∀ triple ∈ triples, triple.IsAround name := by
  have helement : ∀ name metadata,
      (∀ piece ∈ (Element.divideWith name metadata text).pieces, piece.text ≠ []) ∨
        ∃ triples : List Element.Triple, (Element.divideWith name metadata text).pieces =
          triples.flatMap Element.Triple.pieces ∧ ∀ triple ∈ triples, triple.IsAround name := by
    intro name metadata
    refine (Element.exists_triples name metadata text).imp ?_ id
    rintro ⟨ne_nil, hpieces⟩
    rw [hpieces]
    exact List.forall_mem_singleton.2 ne_nil
  cases boundary with
  | literal delimiter => exact .inl fun _ => ne_nil_of_mem_divideAround
  | pattern program => exact .inl fun _ => ne_nil_of_mem_divideAround
  | rule => exact .inl fun _ => ne_nil_of_mem_divideAround
  | sentence =>
      refine .inl fun piece hpiece => ?_
      obtain ⟨sentence, hsentence, rfl⟩ := List.mem_map.1 hpiece
      exact Text.Sentence.ne_nil_of_mem_divide hsentence
  | heading level => exact .inl fun _ => Heading.ne_nil_of_mem_divide
  | fence => exact .inl fun _ => Fence.ne_nil_of_mem_divide
  | element name => exact (helement name _).imp id fun h => ⟨name, rfl, h⟩
  | headingElement level => exact (helement (.heading level) _).imp id fun h => ⟨_, rfl, h⟩

theorem tagName?_of_unclosed {boundary : Boundary} {text : Text} {tag : UnclosedTag}
    (h : (boundary.divide text).unclosed = some tag) : boundary.tagName? = some tag.name := by
  have helement : ∀ {name metadata}, (Element.divideWith name metadata text).unclosed = some tag →
      some name = some tag.name := by
    intro name metadata hunclosed
    rw [(Element.unclosed_divideWith.1 hunclosed).1]
  cases boundary with
  | element name => exact helement h
  | headingElement level => exact helement h
  | _ => exact nomatch h

/--
A boundary splits every text into pieces that join to it and are numbered one after the other,
up to the number that comes next.  All of them have text, or they are in triples around elements,
of which the first and the third may be empty.  Only at an element can it fail.
-/
theorem split_partitions (boundary : Boundary) (text : Text) (first : Nat) :
    (∀ pieces last, boundary.split text first = .ok pieces last →
      pieces.flatMap (·.text) = text ∧
      pieces.map Chunk.id = List.range' first pieces.length ∧ last = first + pieces.length ∧
      ((∀ piece ∈ pieces, piece.text ≠ []) ∨
        ∃ name, boundary.tagName? = some name ∧ ∃ triples : List Element.Triple,
          pieces.map Chunk.toPiece = triples.flatMap Element.Triple.pieces ∧
            ∀ triple ∈ triples, triple.element.text ≠ [] ∧ triple.IsAround name)) ∧
    ∀ tag last, boundary.split text first = .error tag last →
      boundary.tagName? = some tag.name := by
  unfold split
  cases hunclosed : (boundary.divide text).unclosed with
  | some tag =>
      rw [Division.number_of_unclosed hunclosed]
      refine ⟨fun pieces last h => (nomatch h), fun other last h => ?_⟩
      cases h
      exact tagName?_of_unclosed hunclosed
  | none =>
      rw [Division.number_of_closed hunclosed]
      refine ⟨fun pieces last h => ?_, fun tag last h => nomatch h⟩
      cases h
      have hpieces := Chunk.toPiece_consecutive first (boundary.divide text).pieces
      have hlength : (Chunk.consecutive first (boundary.divide text).pieces).length =
          (boundary.divide text).pieces.length := by
        rw [← List.length_map Chunk.toPiece, hpieces]
      have hjoined : (Chunk.consecutive first (boundary.divide text).pieces).flatMap (·.text) =
          (boundary.divide text).joined := by
        rw [Division.joined, ← hpieces, List.flatMap_map, hpieces]
      refine ⟨?_, ?_, ?_, ?_⟩
      · rw [hjoined, joined_divide hunclosed]
      · rw [Chunk.id_consecutive, hlength]
      · rw [hlength]
      · refine (boundary.ne_nil_or_exists_triples text).imp ?_ ?_
        · intro hne piece hpiece
          refine hne piece.toPiece ?_
          rw [← hpieces]
          exact List.mem_map_of_mem hpiece
        · rintro ⟨name, hname, triples, htriples, haround⟩
          exact ⟨name, hname, triples, hpieces.trans htriples, fun triple htriple =>
            ⟨(haround triple htriple).ne_nil, haround triple htriple⟩⟩

/-- A paragraph around which there is no more text, and one that is not closed. -/
theorem split_partitions_paragraphElement :
    (∃ pieces, paragraphElement.split "a<p>b</p>".toList 4 = .ok pieces 7 ∧
        pieces.flatMap (·.text) = "a<p>b</p>".toList ∧ pieces.map Chunk.id = [4, 5, 6] ∧
        ∃ piece ∈ pieces, piece.text = []) ∧
      ∃ tag, paragraphElement.split "a<p>b".toList 4 = .error tag 4 ∧
        paragraphElement.tagName? = some tag.name := by
  constructor
  · have hclosed : (paragraphElement.divide "a<p>b</p>".toList).unclosed = none := by
      decide +kernel
    have hlength : (paragraphElement.divide "a<p>b</p>".toList).pieces.length = 3 := by
      decide +kernel
    have hsplit := Division.number_of_closed hclosed 4
    rw [hlength] at hsplit
    obtain ⟨hjoined, hid, hlast, -⟩ :=
      (split_partitions paragraphElement "a<p>b</p>".toList 4).1 _ _ hsplit
    refine ⟨_, hsplit, hjoined, ?_, ?_⟩
    · rw [hid, ← Nat.add_left_cancel hlast]
      rfl
    · decide +kernel
  · have hunclosed : (paragraphElement.divide "a<p>b".toList).unclosed = some ⟨.paragraph⟩ := by
      decide +kernel
    have hlength : (paragraphElement.divide "a<p>b".toList).pieces.length = 0 := by
      decide +kernel
    have hsplit := Division.number_of_unclosed hunclosed 4
    rw [hlength] at hsplit
    exact ⟨_, hsplit, (split_partitions paragraphElement "a<p>b".toList 4).2 _ _ hsplit⟩

end Boundary

end Chunking
