import Chunking.Proofs.Overlaps

/-!
# Sections under heading elements

A heading element and the text behind it know the heading.  What a chunk adds inside of such a
section tells of it, since finer boundaries say nothing about headings of that rank.  Borrowed
text has a say as well: the chunk keeps the heading only if what it borrows tells of it too.
-/

namespace Chunking

/-! ## The heading of a section -/

namespace Element

def levelKey (level : HeadingLevel) : String :=
  Metadata.headerKey ++ Text.decimal level.rank

def title (content : Text) : String :=
  String.ofList (Text.trim (withoutMarkup content))

theorem levelKey_ne_headerKey (level : HeadingLevel) : levelKey level ≠ Metadata.headerKey := by
  have hall : ∀ level ∈ HeadingLevel.all, levelKey level ≠ Metadata.headerKey := by decide
  exact hall level level.mem_all

theorem levelKey_injective {level other : HeadingLevel} (h : levelKey level = levelKey other) :
    level = other := by
  have hall : ∀ level ∈ HeadingLevel.all, ∀ other ∈ HeadingLevel.all,
      levelKey level = levelKey other → level = other := by decide
  exact hall level level.mem_all other other.mem_all h

theorem levelKey_ne_of_head? (level : HeadingLevel) {key : String}
    (h : key.toList.head? ≠ some 'h') : levelKey level ≠ key :=
  (Metadata.ne_header_of_head? h _).symm

theorem isSourceKey_levelKey (level : HeadingLevel) : Metadata.IsSourceKey (levelKey level) :=
  ⟨levelKey_ne_of_head? level (by decide), levelKey_ne_of_head? level (by decide),
    levelKey_ne_of_head? level (by decide)⟩

theorem get?_headingMetadata (level other : HeadingLevel) (content : Text) :
    (headingMetadata other content).get? (levelKey level) =
      if level = other then some (title content) else none := by
  have hplain := levelKey_ne_headerKey level
  have hmetadata : headingMetadata other content =
      .ofList [(levelKey other, title content), (Metadata.headerKey, title content)] := rfl
  split
  · next heq =>
      subst heq
      simp [hmetadata, Metadata.ofList, hplain]
  · next hne =>
      have hother : levelKey level ≠ levelKey other := fun heq => hne (levelKey_injective heq)
      simp [hmetadata, Metadata.ofList, hplain, hother]

/-- A heading element of a text, and the text behind it up to the next one. -/
structure Span (level : HeadingLevel) (text : Text) where
  before : List Piece
  element : Piece
  behind : Piece
  after : List Piece
  split : (divideHeadings level text).pieces = before ++ element :: behind :: after
  element_metadata : element.metadata = headingMetadata level element.text
  behind_metadata : behind.metadata = headingMetadata level element.text

namespace Span

variable {level : HeadingLevel} {text : Text}

def start (span : Span level text) : Nat :=
  (span.before.flatMap Piece.text).length

def stop (span : Span level text) : Nat :=
  span.start + span.element.length + span.behind.length

theorem get?_eq (span : Span level text) {piece : Piece}
    (mem : piece ∈ [span.element, span.behind]) :
    piece.get? (levelKey level) = some (title span.element.text) := by
  have hmetadata : piece.metadata = headingMetadata level span.element.text := by
    rcases List.mem_pair.1 mem with rfl | rfl
    · exact span.element_metadata
    · exact span.behind_metadata
  rw [Piece.get?, hmetadata, get?_headingMetadata, if_pos rfl]

end Span

end Element

/-! ## Boundaries that say nothing about a key -/

/-- No piece at the boundary has a value of the key. -/
def Boundary.IsSilent (boundary : Boundary) (key : String) : Prop :=
  ∀ text, ∀ piece ∈ (boundary.divide text).pieces, piece.get? key = none

theorem Boundary.isSilent_of_ne {boundary : Boundary} {level : HeadingLevel}
    (ne : boundary ≠ .headingElement level) : boundary.IsSilent (Element.levelKey level) := by
  have hplain : ∀ texts : List Text, ∀ piece ∈ (Division.plain texts).pieces,
      piece.get? (Element.levelKey level) = none := by
    intro texts
    exact List.forall_mem_map.2 fun _ _ => rfl
  intro text
  cases boundary with
  | literal | pattern | sentence | rule => exact hplain _
  | heading other =>
      intro piece hpiece
      obtain ⟨title, htitle⟩ := Heading.exists_metadata_eq other none _ piece hpiece
      rw [Piece.get?, htitle]
      cases title with
      | none => rfl
      | some title =>
          simp [Heading.metadata, Metadata.ofList, Element.levelKey_ne_headerKey level]
  | fence =>
      refine List.forall_mem_map.2 fun segment _ => ?_
      have hkind : Element.levelKey level ≠ Metadata.kindKey :=
        Element.levelKey_ne_of_head? level (by decide)
      have hlanguage : Element.levelKey level ≠ Metadata.languageKey :=
        Element.levelKey_ne_of_head? level (by decide)
      cases segment with
      | gap => rfl
      | mark => simp [Fence.piece, Piece.get?, Fence.metadata, Metadata.ofList, hkind, hlanguage]
  | element => exact Element.forall_mem_divideWith (fun _ => rfl) (fun _ _ => rfl) text
  | headingElement other =>
      have hother : level ≠ other := fun heq => ne (by rw [heq])
      refine Element.forall_mem_divideWith (fun _ => rfl) (fun content _ => ?_) text
      rw [Piece.get?, Element.get?_headingMetadata, if_neg hother]

namespace Policy

variable {policy : Policy} {key : String}

/-- Below a piece about which the finer boundaries say nothing, the piece itself has the say. -/
theorem effective?_of_mem_leavesOf {below : Text → List Leaf} {piece : Piece} {leaf : Leaf}
    (silent : ∀ leaf ∈ below piece.text, leaf.effective? key = none)
    (h : leaf ∈ policy.leavesOf below piece) : leaf.effective? key = piece.get? key := by
  unfold leavesOf at h
  split at h
  · rw [List.mem_singleton.1 h, Leaf.effective?_ofPiece]
  · obtain ⟨inner, hinner, rfl⟩ := List.mem_map.1 h
    rw [(Leaf.surrounds_under piece).effective?_eq, silent inner hinner, Option.none_or]

theorem effective?_of_silent {boundaries : List Boundary}
    (silent : ∀ boundary ∈ boundaries, boundary.IsSilent key) (text : Text) :
    ∀ leaf ∈ policy.leaves boundaries text, leaf.effective? key = none := by
  induction boundaries generalizing text with
  | nil =>
      intro leaf hleaf
      rw [List.mem_singleton.1 hleaf, Leaf.effective?_ofPiece]
      rfl
  | cons boundary finer ih =>
      obtain ⟨hboundary, hfiner⟩ := List.forall_mem_cons.1 silent
      intro leaf hleaf
      obtain ⟨piece, hpiece, hleaf⟩ := List.mem_flatMap.1 hleaf
      rw [effective?_of_mem_leavesOf (ih hfiner piece.text) hleaf]
      exact hboundary text piece hpiece

/-! ## Chunks in a section -/

section Sections

variable {level : HeadingLevel} {finer : List Boundary} {text : Text} {start stop : Nat}
  {piece : Piece}

theorem effective?_of_meets
    (silent : ∀ boundary ∈ finer, boundary.IsSilent (Element.levelKey level))
    (closed : policy.firstUnclosed (.headingElement level :: finer) text = none)
    (span : Element.Span level text) (lt : start < stop) (le_start : span.start ≤ start)
    (stop_le : stop ≤ span.stop) {leaf : Leaf}
    (meets : leaf.Meets (policy.leaves (.headingElement level :: finer) text) start stop) :
    leaf.effective? (Element.levelKey level) = some (Element.title span.element.text) := by
  have hsplit : (Boundary.divide (.headingElement level) text).pieces =
      span.before ++ ([span.element, span.behind] ++ span.after) := span.split
  have hjoined : ∀ pieces : List Piece, (∀ piece ∈ pieces,
      piece ∈ (Boundary.divide (.headingElement level) text).pieces) →
      Leaf.joined (pieces.flatMap (policy.leavesOf (policy.leaves finer))) =
        pieces.flatMap Piece.text := fun pieces hpieces =>
    joined_leavesOf fun piece hpiece long =>
      joined_leaves_of_firstUnclosed (firstUnclosed_cons_eq_none closed (hpieces piece hpiece) long)
  have hbefore := hjoined span.before fun piece hpiece => by
    rw [hsplit]
    exact List.mem_append_left _ hpiece
  have hspan := hjoined [span.element, span.behind] fun piece hpiece => by
    rw [hsplit]
    exact List.mem_append_right _ (List.mem_append_left _ hpiece)
  have hleaves : policy.leaves (.headingElement level :: finer) text =
      span.before.flatMap (policy.leavesOf (policy.leaves finer)) ++
        ([span.element, span.behind].flatMap (policy.leavesOf (policy.leaves finer)) ++
          span.after.flatMap (policy.leavesOf (policy.leaves finer))) := by
    rw [leaves, hsplit, List.flatMap_append, List.flatMap_append]
  have hlength : ([span.element, span.behind].flatMap Piece.text).length =
      span.element.length + span.behind.length := by
    simp [Piece.length]
  have hmem := Leaf.mem_run_of_meets hleaves lt (by rwa [hbefore])
    (by rwa [hbefore, hspan, hlength, ← Nat.add_assoc]) meets
  obtain ⟨piece, hpiece, hleaf⟩ := List.mem_flatMap.1 hmem
  rw [effective?_of_mem_leavesOf (effective?_of_silent silent piece.text) hleaf]
  exact span.get?_eq hpiece

theorem TellsOf.get?_of_span
    (silent : ∀ boundary ∈ finer, boundary.IsSilent (Element.levelKey level))
    (closed : policy.firstUnclosed (.headingElement level :: finer) text = none)
    (h : TellsOf (policy.leaves (.headingElement level :: finer) text) start stop 0 piece)
    (span : Element.Span level text) (lt : start < stop) (le_start : span.start ≤ start)
    (stop_le : stop ≤ span.stop) :
    piece.get? (Element.levelKey level) = some (Element.title span.element.text) := by
  obtain ⟨run, run_ne_nil, hrun, htells⟩ := h
  have hkey := Element.isSourceKey_levelKey level
  refine htells.complete rfl run_ne_nil _ _ hkey fun leaf hleaf => ?_
  exact effective?_of_meets silent closed span lt le_start stop_le ((hrun leaf).1 hleaf)

end Sections

theorem Seam.get?_eq_some_iff {cascade : Cascade} {own : Piece} {before : Option Chunk}
    {chunk : Chunk} {value : String} (h : policy.Seam cascade own before chunk)
    (hkey : Metadata.IsSourceKey key) (hown : own.get? key = some value) :
    chunk.get? key = some value ↔ chunk.text = own.text ∨
      ∃ lender, before = some lender ∧ ∃ overlap_pos : 0 < policy.budget.maxOverlap, ∃ donor,
        (policy.within (policy.budget.window overlap_pos)).lastPart? cascade lender.text =
          some donor ∧ (donor.get? key).or (lender.get? key) = some value := by
  cases h with
  | opening text_eq get?_eq =>
      exact iff_of_true ((get?_eq key hkey).trans hown) (.inl text_eq)
  | bare _ _ text_eq get?_eq =>
      exact iff_of_true ((get?_eq key hkey).trans hown) (.inl text_eq)
  | @behind lender _ donor _ overlap_pos _ last ne_nil _ _ text_eq get?_iff =>
      rw [get?_iff key hkey value, and_iff_left hown]
      constructor
      · exact fun hvalue => .inr ⟨lender, rfl, overlap_pos, donor, last, hvalue⟩
      · rintro (htext | ⟨other, hother, _, part, hpart, hvalue⟩)
        · rw [text_eq, List.append_left_eq_self] at htext
          exact absurd htext ne_nil
        · cases hother
          rw [last, Option.some.injEq] at hpart
          rwa [hpart]

/-- The places of finished chunks, and which of those in a section keep its heading. -/
theorem exists_headed_layout_of_chunk {cascade : Cascade} {level : HeadingLevel}
    {finer : List Boundary} {text : Text} {chunks : List Chunk}
    (boundaries_eq : cascade.boundaries = .headingElement level :: finer)
    (silent : ∀ boundary ∈ finer, boundary.IsSilent (Element.levelKey level))
    (h : policy.chunk cascade text = .ok chunks) :
    ∃ layout : Layout policy text 0 0 chunks,
      ∀ span : Element.Span level text, ∀ i (hi : i < chunks.length),
        policy.isStandalone chunks[i].toPiece = false →
        span.start ≤ layout.cut i → layout.cut (i + 1) ≤ span.stop →
        (chunks[i].get? (Element.levelKey level) = some (Element.title span.element.text) ↔
          layout.overlap i = 0 ∨ ∃ lender, policy.lender? none chunks i = some lender ∧
            ∃ overlap_pos : 0 < policy.budget.maxOverlap, ∃ donor,
              (policy.within (policy.budget.window overlap_pos)).lastPart? cascade lender.text =
                some donor ∧
              (donor.get? (Element.levelKey level)).or (lender.get? (Element.levelKey level)) =
                some (Element.title span.element.text)) := by
  have hclosed := exists_chunk_eq_ok_iff.1 ⟨chunks, h⟩
  obtain ⟨layout, hlayout⟩ := exists_seamed_layout_of_chunk h
  rw [boundaries_eq] at hclosed hlayout
  refine ⟨layout, fun span i hi joinable le_start stop_le => ?_⟩
  obtain ⟨own, htext, ne_nil, htells, hseam⟩ := hlayout i hi joinable
  have hown := htells.get?_of_span silent hclosed span (layout.cut_lt i hi) le_start stop_le
  have hwhole : chunks[i].text = own.text ↔ layout.overlap i = 0 := by
    rw [htext]
    constructor
    · intro heq
      have hlength := congrArg List.length heq
      have hpos := List.length_pos_iff.2 ne_nil
      rw [htext] at hpos
      rw [List.length_drop] at hlength hpos
      omega
    · intro hzero
      rw [hzero, List.drop_zero]
  rw [hseam.get?_eq_some_iff (Element.isSourceKey_levelKey level) hown, hwhole]

end Policy

/-! ## The heading strategy for HTML -/

namespace Strategy

variable {budget : Budget} {text : Text} {chunks : List Chunk}

def firstLevel : HeadingLevel :=
  HeadingLevel.all.head (by decide)

theorem levelKey_firstLevel : Element.levelKey firstLevel = "header1" := by decide

theorem boundaries_html_header :
    (html .header).cascade.boundaries = .headingElement firstLevel ::
      (html .header).cascade.boundaries.tail := rfl

theorem isStandalone_html (strategy : HtmlStrategy) (budget : Budget) (piece : Piece) :
    ((html strategy).assembler budget).policy.isStandalone piece = false := by
  show (piece.get? Metadata.kindKey).any (fun kind => [].contains kind) = false
  cases piece.get? Metadata.kindKey <;> rfl

/--
A chunk that adds text of a section under a first heading carries the heading if it repeats
nothing.  If it repeats the end of the chunk before, it does so just where that end on its own
carries this heading, or carries none and the chunk before does.
-/
def CarriesHeadings (budget : Budget) {text : Text} {chunks : List Chunk}
    (layout : Layout ((html .header).assembler budget).policy text 0 0 chunks) : Prop :=
  ∀ span : Element.Span firstLevel text, ∀ i (hi : i < chunks.length),
    span.start ≤ layout.cut i → layout.cut (i + 1) ≤ span.stop →
    (chunks[i].get? "header1" = some (Element.title span.element.text) ↔
      layout.overlap i = 0 ∨ ∃ before, chunks[i - 1]? = some before ∧
        ∃ overlap_pos : 0 < budget.maxOverlap, ∃ donor,
          (((html .header).assembler budget).policy.within
            (budget.window overlap_pos)).lastPart? (html .header).cascade before.text =
              some donor ∧
          (donor.get? "header1").or (before.get? "header1") =
            some (Element.title span.element.text))

theorem chunk_carries_heading_iff
    (h : Chunker.chunk ((html .header).assembler budget) text = .ok chunks) :
    ∃ layout : Layout ((html .header).assembler budget).policy text 0 0 chunks,
      CarriesHeadings budget layout := by
  rw [Assembler.chunk_eq_ok_iff] at h
  have hsilent : ∀ boundary ∈ (html .header).cascade.boundaries.tail,
      boundary.IsSilent (Element.levelKey firstLevel) := by
    have hne : ∀ boundary ∈ (html .header).cascade.boundaries.tail,
        boundary ≠ .headingElement firstLevel := by decide
    exact fun boundary hboundary => Boundary.isSilent_of_ne (hne boundary hboundary)
  obtain ⟨layout, hlayout⟩ := Policy.exists_headed_layout_of_chunk boundaries_html_header hsilent h
  refine ⟨layout, fun span i hi le_start stop_le => ?_⟩
  rw [← levelKey_firstLevel, hlayout span i hi (isStandalone_html _ _ _) le_start stop_le]
  cases i with
  | zero =>
      have hzero := Nat.le_zero.1 layout.overlap_zero
      exact iff_of_true (.inl hzero) (.inl hzero)
  | succ i =>
      rw [Policy.lender?_succ_of_joinable (Nat.lt_of_succ_lt hi) (isStandalone_html _ _ _),
        Nat.add_sub_cancel, List.getElem?_eq_getElem (Nat.lt_of_succ_lt hi)]
      rfl

def straddledHeading : Text :=
  "x <h1>a</h1>cd ef gh".toList

/-- The first chunk ends with the heading but says nothing, and what it lends carries it. -/
theorem chunk_carries_heading_iff_straddledHeading :
    ∃ chunks, Chunker.chunk ((html .header).assembler ⟨12, 3, by decide, by decide⟩)
        straddledHeading = .ok chunks ∧
      ∃ layout : Layout ((html .header).assembler ⟨12, 3, by decide, by decide⟩).policy
          straddledHeading 0 0 chunks,
        CarriesHeadings ⟨12, 3, by decide, by decide⟩ layout := by
  have hrun : ∃ chunks, ((html .header).assembler ⟨12, 3, by decide, by decide⟩).policy.chunk
      (html .header).cascade straddledHeading = .ok chunks :=
    Policy.exists_chunk_eq_ok_iff.2 (by decide +kernel)
  obtain ⟨chunks, hchunks⟩ := hrun
  have hok := Assembler.chunk_eq_ok_iff.2 hchunks
  exact ⟨chunks, hok, chunk_carries_heading_iff hok⟩

/-! ## A heading that is lost -/

def cutHeading : Text :=
  "b<br><h1>c<br>d</h1>".toList

def cutHeadingSpan : Element.Span firstLevel cutHeading where
  before := [{ text := "b<br>".toList }]
  element := {
    text := "<h1>c<br>d</h1>".toList,
    metadata := Element.headingMetadata firstLevel "<h1>c<br>d</h1>".toList }
  behind := {
    text := [], metadata := Element.headingMetadata firstLevel "<h1>c<br>d</h1>".toList }
  after := []
  split := by decide +kernel
  element_metadata := rfl
  behind_metadata := rfl

/--
The last chunk and what it repeats lie in the section, but it does not carry the heading.  What it
repeats is the end of a chunk that cuts the element, and was found without looking for elements.
-/
theorem chunk_loses_heading :
    ∃ chunks, Chunker.chunk ((html .header).assembler ⟨14, 5, by decide, by decide⟩)
        cutHeading = .ok chunks ∧
      ∃ hi : 1 < chunks.length,
        chunks[1].get? "header1" ≠ some (Element.title cutHeadingSpan.element.text) ∧
        ∀ layout : Layout ((html .header).assembler ⟨14, 5, by decide, by decide⟩).policy
            cutHeading 0 0 chunks,
          cutHeadingSpan.start ≤ layout.cut 1 - layout.overlap 1 ∧
            layout.cut 2 ≤ cutHeadingSpan.stop := by
  have hrun : ∃ chunks, ((html .header).assembler ⟨14, 5, by decide, by decide⟩).policy.chunk
      (html .header).cascade cutHeading = .ok chunks ∧
        chunks.map (fun chunk => (chunk.text, chunk.get? "header1")) =
          [("b<br><h1>c<br>".toList, none), ("<br>d</h1>".toList, none)] := by
    apply Policy.exists_of_toOption
    decide +kernel
  obtain ⟨chunks, hchunks, hviews⟩ := hrun
  obtain ⟨first, later, rfl, -, hlater⟩ := List.map_eq_cons_iff.1 hviews
  obtain ⟨second, rfl, hsecond⟩ := List.map_eq_singleton_iff.1 hlater
  obtain ⟨htext, hheading⟩ := Prod.mk.inj hsecond
  refine ⟨_, Assembler.chunk_eq_ok_iff.2 hchunks, Nat.lt_succ_self 1, ?_, fun layout => ?_⟩
  · show second.get? "header1" ≠ _
    rw [hheading]
    exact (Option.some_ne_none _).symm
  · have hcut : layout.cut 2 = cutHeading.length := layout.cut_length
    have htext_eq : second.text = cutHeading.extract (layout.cut 1 - layout.overlap 1)
        (layout.cut 2) := layout.text_eq 1 (Nat.lt_succ_self 1)
    have hlength := congrArg List.length htext_eq
    rw [htext, hcut, List.extract_eq_take_drop, List.length_take, List.length_drop,
      Nat.min_self] at hlength
    have hlengths : "<br>d</h1>".toList.length = 10 ∧ cutHeading.length = 20 ∧
        cutHeadingSpan.start = 5 ∧ cutHeadingSpan.stop = 20 := by decide +kernel
    omega

end Strategy

end Chunking
