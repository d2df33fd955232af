import Chunking.Proofs.Partitions
import Chunking.Proofs.Scanning

/-!
# A scan for elements

Elements by position: where an opening tag is, and where the first closing tag behind it ends.
The pieces around elements are what a scan of the text comes upon and what it passes over, and
a text cannot be divided just where the scan comes upon an opening tag that is not closed.
-/

namespace Chunking

namespace Element

/-! ## Tags by position -/

/-- An opening tag is bare, or has attributes behind a blank. -/
inductive IsOpeningTag (name : TagName) : Text → Prop
  | bare : IsOpeningTag name ('<' :: (name.letters ++ ['>']))
  | attributes {blank : Char} {attributes : Text} (isBlank : Text.isAsciiBlank blank = true)
      (inner : '>' ∉ attributes) :
      IsOpeningTag name ('<' :: (name.letters ++ blank :: (attributes ++ ['>'])))

def OpensAt (name : TagName) (text : Text) (start opened : Nat) : Prop :=
  ∃ tag, IsOpeningTag name tag ∧ tag <+: text.drop start ∧ opened = start + tag.length

def ClosesAt (name : TagName) (text : Text) (start stop : Nat) : Prop :=
  closingTag name <+: text.drop start ∧ stop = start + (closingTag name).length

/-- An element ends with the first closing tag behind its opening tag. -/
def EndsAt (name : TagName) (text : Text) (opened stop : Nat) : Prop :=
  ∃ closing, Text.First (ClosesAt name text) opened closing stop

variable {name : TagName} {text : Text} {start opened stop : Nat}

theorem takeWhile_inside {inner : Text} (h : '>' ∉ inner) (behind : Text) :
    (inner ++ '>' :: behind).takeWhile (· != '>') = inner := by
  have hinner : ∀ c ∈ inner, (c != '>') = true := by
    intro c hc
    simpa using fun heq : c = '>' => h (heq ▸ hc)
  rw [List.takeWhile_append_of_pos hinner]
  simp

theorem mem_of_takeWhile_lt (h : (text.takeWhile (· != '>')).length < text.length) :
    '>' ∈ text := by
  by_cases hmem : '>' ∈ text
  · exact hmem
  · have hall : ∀ c ∈ text, (c != '>') = true := by
      intro c hc
      simpa using fun heq : c = '>' => hmem (heq ▸ hc)
    have hread : (text ++ []).takeWhile (· != '>') = text := by
      rw [List.takeWhile_append_of_pos hall]
      simp
    rw [List.append_nil] at hread
    rw [hread] at h
    exact absurd h (Nat.lt_irrefl _)

theorem openingLength_of_isOpeningTag {tag : Text} (h : IsOpeningTag name tag) (behind : Text) :
    openingLength name (tag ++ behind) = some tag.length := by
  cases h with
  | bare => simp [openingLength]
  | @attributes blank attributes hblank hinner =>
      have hne : blank ≠ '>' := by
        rintro rfl
        exact absurd hblank (by decide)
      have htake := takeWhile_inside hinner behind
      have hstart : ('<' :: name.letters).isPrefixOf
          ('<' :: (name.letters ++ blank :: (attributes ++ ['>'])) ++ behind) = true := by simp
      have hdrop : ('<' :: (name.letters ++ blank :: (attributes ++ ['>'])) ++ behind).drop
          ('<' :: name.letters).length = blank :: (attributes ++ '>' :: behind) := by simp
      rw [openingLength]
      dsimp only
      rw [if_pos hstart, hdrop]
      split
      · simp_all
      · simp_all
      · next heq =>
          obtain ⟨rfl, rfl⟩ := List.cons.inj heq
          simp [htake, hblank]
          omega

theorem exists_isOpeningTag {n : Nat} (h : openingLength name text = some n) :
    ∃ tag, IsOpeningTag name tag ∧ tag <+: text ∧ n = tag.length := by
  unfold openingLength at h
  dsimp only at h
  split at h
  · next hstart =>
      obtain ⟨behind, rfl⟩ := List.isPrefixOf_iff_prefix.1 hstart
      rw [List.drop_left] at h
      split at h
      · cases h
      · next rest =>
          cases h
          exact ⟨_, .bare, ⟨rest, by simp⟩, by simp⟩
      · next c rest hne =>
          split at h
          · next hblank =>
              cases h
              rw [Bool.and_eq_true, decide_eq_true_eq] at hblank
              obtain ⟨hblank, hlength⟩ := hblank
              obtain ⟨inner, more, rfl, hinner⟩ :=
                List.eq_append_cons_of_mem (mem_of_takeWhile_lt hlength)
              rw [takeWhile_inside hinner]
              exact ⟨_, .attributes hblank hinner, ⟨more, by simp⟩, by simp; omega⟩
          · cases h
  · cases h

theorem opensAt_iff : OpensAt name text start opened ↔
    Text.Occurs (openingLength name) text start opened := by
  constructor
  · rintro ⟨tag, htag, ⟨behind, hbehind⟩, rfl⟩
    refine ⟨tag.length, ?_, rfl⟩
    rw [← hbehind]
    exact openingLength_of_isOpeningTag htag behind
  · rintro ⟨n, hn, rfl⟩
    obtain ⟨tag, htag, hbegins, rfl⟩ := exists_isOpeningTag hn
    exact ⟨tag, htag, hbegins, rfl⟩

theorem closesAt_iff : ClosesAt name text start stop ↔
    Text.Occurs (closingLength name) text start stop := by
  unfold Text.Occurs closingLength Text.word
  constructor
  · rintro ⟨hbegins, rfl⟩
    exact ⟨_, if_pos (List.isPrefixOf_iff_prefix.2 hbegins), rfl⟩
  · rintro ⟨n, hn, rfl⟩
    split at hn
    · next hclosing =>
        cases hn
        exact ⟨List.isPrefixOf_iff_prefix.1 hclosing, rfl⟩
    · cases hn

theorem lt_of_opensAt (h : OpensAt name text start opened) : start < opened := by
  obtain ⟨n, hn, rfl⟩ := opensAt_iff.1 h
  exact Nat.lt_add_of_pos_right (openingLength_pos hn)

theorem lt_of_closesAt (h : ClosesAt name text start stop) : start < stop := by
  obtain ⟨-, rfl⟩ := h
  simp [closingTag]

theorem functional_opensAt (name : TagName) (text : Text) :
    Text.Functional (OpensAt name text) :=
  Text.functional_of_occurs opensAt_iff

theorem functional_endsAt (name : TagName) (text : Text) :
    Text.Functional (EndsAt name text) := by
  rintro opened stop other ⟨closing, hfirst⟩ ⟨closing', hfirst'⟩
  exact (hfirst.unique (Text.functional_of_occurs closesAt_iff) hfirst').2

theorem length_of_openingLength {n : Nat} (h : openingLength name text = some n) :
    n ≤ text.length := by
  obtain ⟨tag, -, hbegins, rfl⟩ := exists_isOpeningTag h
  exact hbegins.length_le

theorem closingLength_pos {n : Nat} (h : closingLength name text = some n) : 0 < n := by
  have htake := take_of_closingLength h
  cases n with
  | zero => cases htake
  | succ n => exact Nat.succ_pos n

theorem length_of_closingLength {n : Nat} (h : closingLength name text = some n) :
    n ≤ text.length := by
  unfold closingLength Text.word at h
  split at h
  · next hclosing =>
      cases h
      exact (List.isPrefixOf_iff_prefix.1 hclosing).length_le
  · cases h

/-! ## Scanning by position -/

theorem first_opensAt_of_leftmost {place : Nat} {opening : Text.Cut}
    (h : Text.leftmost (openingLength name) (text.drop place) = some opening) :
    ∃ start opened, Text.First (OpensAt name text) place start opened ∧
      opening.IsAt text place start opened := by
  obtain ⟨start, opened, hfirst, hcut⟩ :=
    Text.first_of_leftmost openingLength_pos length_of_openingLength h
  exact ⟨start, opened, hfirst.congr opensAt_iff.symm, hcut⟩

theorem first_closesAt_of_leftmost {place : Nat} {closing : Text.Cut}
    (h : Text.leftmost (closingLength name) (text.drop place) = some closing) :
    ∃ start stop, Text.First (ClosesAt name text) place start stop ∧
      closing.IsAt text place start stop := by
  obtain ⟨start, stop, hfirst, hcut⟩ :=
    Text.first_of_leftmost closingLength_pos length_of_closingLength h
  exact ⟨start, stop, hfirst.congr closesAt_iff.symm, hcut⟩

def scanOf (text : Text) (place : Nat) : List Text.Extent → Scan
  | [] => .rest (text.drop place)
  | span :: later =>
      .element (text.extract place span.start) (text.extract span.start span.stop)
        (scanOf text span.stop later)

theorem joined?_scanOf (text : Text) (place : Nat) (spans : List Text.Extent) :
    (scanOf text place spans).joined?.isSome = true := by
  induction spans generalizing place with
  | nil => rfl
  | cons span later ih => simp [scanOf, Scan.joined?, ih]

/-- A scan stops at an opening tag that is not closed, or comes upon elements up to the end. -/
theorem stuck_or_scans (name : TagName) (text : Text) (place : Nat) :
    (Text.Stuck (OpensAt name text) (EndsAt name text) place ∧
      (scan name (text.drop place)).joined? = none) ∨
    ∃ spans, Text.Scans (OpensAt name text) (EndsAt name text) place spans ∧
      scan name (text.drop place) = scanOf text place spans := by
  -- The induction is on what is left of the text, which is less behind each closing tag.
  induction hlength : text.length - place using Nat.strongRecOn generalizing place with
  | ind length ih =>
      rw [scan]
      split
      · next hopening =>
          refine .inr ⟨[], .rest ?_, rfl⟩
          intro start opened hplace hopens
          exact Text.not_occurs_of_leftmost openingLength_pos length_of_openingLength hopening
            hplace opened (opensAt_iff.1 hopens)
      · next opening hopening =>
          obtain ⟨start, opened, hopens, hcut⟩ := first_opensAt_of_leftmost hopening
          split
          · next hclosing =>
              refine .inl ⟨.endless hopens ?_, rfl⟩
              rintro stop ⟨closing, hfirst⟩
              rw [hcut.after_eq] at hclosing
              exact Text.not_occurs_of_leftmost closingLength_pos length_of_closingLength hclosing
                hfirst.le stop (closesAt_iff.1 hfirst.found)
          · next closing hclosing =>
              rw [hcut.after_eq] at hclosing
              obtain ⟨closes, stop, hcloses, hcut'⟩ := first_closesAt_of_leftmost hclosing
              have hlt := lt_of_opensAt hopens.found
              have hlt' := lt_of_closesAt hcloses.found
              have hplace := hopens.le
              have hopened := hcloses.le
              have hstop := hcut'.le
              have hcontent : opening.mark ++ closing.before ++ closing.mark =
                  text.extract start stop := by
                rw [hcut.mark_eq, hcut'.before_eq, hcut'.mark_eq,
                  Text.extract_append_extract text hlt.le hopened,
                  Text.extract_append_extract text (by omega) hlt'.le]
              rw [hcut.before_eq, hcontent, hcut'.after_eq]
              rcases ih (text.length - stop) (by omega) stop rfl with
                ⟨hstuck, hnone⟩ | ⟨spans, hscans, hscan⟩
              · refine .inl ⟨.later hopens ⟨closes, hcloses⟩ hstuck, ?_⟩
                simp [Scan.joined?, hnone]
              · refine .inr ⟨_, .found hopens ⟨closes, hcloses⟩ hscans, ?_⟩
                rw [hscan]
                rfl

/-! ## The pieces around elements -/

def nextStart (text : Text) : List Text.Extent → Nat
  | [] => text.length
  | span :: _ => span.start

/-- Triples around elements, in order.  The first piece of the first triple holds `before`, that of
a later one nothing; the third holds the text up to the next element. -/
inductive Around (name : TagName) (text : Text) (annotates : Text → Metadata → Prop) :
    Text → List Text.Extent → List Triple → Prop
  | nil (before : Text) : Around name text annotates before [] []
  | cons {before span spans triple triples} (before_eq : triple.before = { text := before })
      (element_eq : triple.element.text = text.extract span.start span.stop)
      (after_eq : triple.after.text = text.extract span.stop (nextStart text spans))
      (plain : ∀ start opened, ¬OpensAt name triple.after.text start opened)
      (element_metadata : annotates triple.element.text triple.element.metadata)
      (after_metadata : triple.after.metadata = triple.element.metadata)
      (later : Around name text annotates [] spans triples) :
      Around name text annotates before (span :: spans) (triple :: triples)

theorem lead_scanOf (text : Text) (place : Nat) (spans : List Text.Extent) :
    (scanOf text place spans).lead = text.extract place (nextStart text spans) := by
  cases spans with
  | nil =>
      rw [nextStart, List.extract_eq_take_drop, List.take_of_length_le (by simp)]
      rfl
  | cons span spans => rfl

theorem not_opensAt_of_scans {place : Nat} {spans : List Text.Extent}
    (h : Text.Scans (OpensAt name text) (EndsAt name text) place spans) (start opened : Nat) :
    ¬OpensAt name (text.extract place (nextStart text spans)) start opened := by
  rintro ⟨tag, htag, hbegins, -⟩
  rw [List.extract_eq_take_drop, List.drop_take, List.drop_drop] at hbegins
  have hopens : OpensAt name text (place + start) (place + start + tag.length) :=
    ⟨tag, htag, hbegins.trans (List.take_prefix _ _), rfl⟩
  cases h with
  | rest nothing => exact nothing _ _ (Nat.le_add_right place start) hopens
  | found first =>
      have hstart := first.earliest (Nat.le_add_right place start) hopens
      have hlength := hbegins.length_le
      have hlt := lt_of_opensAt hopens
      simp only [List.length_take, nextStart] at hlength
      omega

theorem closingTag_suffix_of_endsAt (h : EndsAt name text opened stop) (le : start ≤ opened) :
    closingTag name <:+ text.extract start stop := by
  obtain ⟨closing, hfirst⟩ := h
  obtain ⟨hbegins, rfl⟩ := hfirst.found
  have hle := hfirst.le
  rw [← Text.extract_append_extract text (by omega : start ≤ closing) (Nat.le_add_right _ _),
    Text.extract_eq_of_prefix hbegins]
  exact List.suffix_append _ _

theorem exists_around {metadata : Text → Metadata} {annotates : Text → Metadata → Prop}
    (annotated : ∀ content, closingTag name <:+ content → annotates content (metadata content))
    {place : Nat} {spans : List Text.Extent}
    (h : Text.Scans (OpensAt name text) (EndsAt name text) place spans) (before : Text) :
    ∃ triples, ((scanOf text place spans).triples name metadata before).pieces =
      triples.flatMap Triple.pieces ∧ Around name text annotates before spans triples := by
  induction h generalizing before with
  | rest => exact ⟨[], rfl, .nil before⟩
  | @found place start opened stop spans first ended later ih =>
      obtain ⟨triples, hpieces, haround⟩ := ih []
      have hcloses := closingTag_suffix_of_endsAt ended (lt_of_opensAt first.found).le
      refine ⟨⟨{ text := before }, ⟨text.extract start stop, metadata (text.extract start stop)⟩,
        ⟨(scanOf text stop spans).lead, metadata (text.extract start stop)⟩⟩ :: triples, ?_, ?_⟩
      · rw [List.flatMap_cons, ← hpieces]
        rfl
      · apply Around.cons rfl rfl (lead_scanOf text stop spans) _ _ rfl haround
        · dsimp only
          rw [lead_scanOf]
          exact not_opensAt_of_scans later
        · exact annotated _ hcloses

/-! ## Text without markup -/

/-- The second text is what the first one holds outside of tags. -/
inductive Stripped : Text → Text → Prop
  | nil : Stripped [] []
  | keep {c : Char} {rest plain : Text} (ne : c ≠ '<') (later : Stripped rest plain) :
      Stripped (c :: rest) (c :: plain)
  | tag {inner rest plain : Text} (inside : '>' ∉ inner) (later : Stripped rest plain) :
      Stripped ('<' :: (inner ++ '>' :: rest)) plain

theorem Stripped.not_mem {text plain : Text} (h : Stripped text plain) : '<' ∉ plain := by
  induction h with
  | nil => exact List.not_mem_nil
  | keep ne _ ih => simp [ne.symm, ih]
  | tag _ _ ih => exact ih

theorem markupLength_pos {text : Text} {n : Nat} (h : markupLength text = some n) : 0 < n := by
  unfold markupLength at h
  split at h
  · dsimp only at h
    split at h
    · cases h
      omega
    · cases h
  · cases h

theorem flatMap_gapOf {f : Text.Segment → Text} (h : ∀ gap, f (.gap gap) = gap) (gap : Text) :
    (Text.Segment.gapOf gap).flatMap f = gap := by
  cases gap <;> simp [Text.Segment.gapOf, h]

theorem withoutMarkup_eq_leftmost (text : Text) :
    withoutMarkup text =
      match Text.leftmost markupLength text with
      | none => text
      | some cut => cut.before ++ withoutMarkup cut.after := by
  unfold withoutMarkup
  rw [@Text.segments_eq_leftmost markupLength markupLength_pos]
  cases Text.leftmost markupLength text with
  | none => exact flatMap_gapOf (fun _ => rfl) text
  | some cut =>
      dsimp only
      rw [List.flatMap_append, flatMap_gapOf fun _ => rfl]
      rfl

theorem withoutMarkup_nil : withoutMarkup [] = [] := by
  rw [withoutMarkup_eq_leftmost]
  rfl

theorem withoutMarkup_cons {c : Char} {rest : Text} (h : markupLength (c :: rest) = none) :
    withoutMarkup (c :: rest) = c :: withoutMarkup rest := by
  rw [withoutMarkup_eq_leftmost, withoutMarkup_eq_leftmost rest, Text.leftmost, h]
  cases Text.leftmost markupLength rest <;> rfl

theorem withoutMarkup_tag {inner rest : Text} (h : '>' ∉ inner) :
    withoutMarkup ('<' :: (inner ++ '>' :: rest)) = withoutMarkup rest := by
  have htake := takeWhile_inside h rest
  have hlength : markupLength ('<' :: (inner ++ '>' :: rest)) = some (inner.length + 2) := by
    simp [markupLength, htake]
  have hdrop : ('<' :: (inner ++ '>' :: rest)).drop (inner.length + 2) = rest := by
    simp
  rw [withoutMarkup_eq_leftmost, Text.leftmost, hlength]
  simp only [List.nil_append, hdrop]

/-- In a text that ends with a tag, every tag ends, so that all of them are taken out at once. -/
theorem stripped_withoutMarkup {text : Text} (h : text = [] ∨ ['>'] <:+ text) :
    Stripped text (withoutMarkup text) := by
  induction hlength : text.length using Nat.strongRecOn generalizing text with
  | ind length ih =>
      subst hlength
      cases text with
      | nil =>
          rw [withoutMarkup_nil]
          exact .nil
      | cons c rest =>
          -- Whatever is left behind a character or a tag ends as the whole text does.
          have hsuffix : ['>'] <:+ c :: rest := h.resolve_left (List.cons_ne_nil c rest)
          have hends : ∀ {more : Text}, more <:+ c :: rest → more = [] ∨ ['>'] <:+ more := by
            intro more hmore
            by_cases hnil : more = []
            · exact .inl hnil
            · refine .inr (List.suffix_of_suffix_length_le hsuffix hmore ?_)
              exact List.length_pos_iff.2 hnil
          by_cases hc : c = '<'
          · subst hc
            have hmem : '>' ∈ rest := by
              have hmem : '>' ∈ '<' :: rest := hsuffix.subset (List.mem_singleton.2 rfl)
              simpa using hmem
            obtain ⟨inner, more, rfl, hinner⟩ := List.eq_append_cons_of_mem hmem
            rw [withoutMarkup_tag hinner]
            apply Stripped.tag hinner
            apply ih more.length
            · simp
              omega
            · exact hends ⟨'<' :: (inner ++ ['>']), by simp⟩
            · rfl
          · have hnone : markupLength (c :: rest) = none := by
              unfold markupLength
              split
              · next heq => exact absurd (List.cons.inj heq).1 hc
              · rfl
            rw [withoutMarkup_cons hnone]
            apply Stripped.keep hc
            exact ih rest.length (Nat.lt_succ_self _) (hends (List.suffix_cons c rest)) rfl

/-- The metadata of a heading element: its text without markup and outer blanks, as a heading and
as a heading of its rank, and nothing else. -/
def IsHeading (level : HeadingLevel) (content : Text) (metadata : Metadata) : Prop :=
  ∃ plain, Stripped content plain ∧ '<' ∉ plain ∧ metadata = .ofList
    [(Metadata.headerKey ++ Text.decimal level.rank, String.ofList (Text.trim plain)),
      (Metadata.headerKey, String.ofList (Text.trim plain))]

theorem isHeading_headingMetadata (level : HeadingLevel) {content : Text}
    (h : closingTag name <:+ content) :
    IsHeading level content (headingMetadata level content) := by
  have hsuffix : ['>'] <:+ content := (List.suffix_append _ _).trans h
  have hstripped := stripped_withoutMarkup (.inr hsuffix)
  exact ⟨withoutMarkup content, hstripped, hstripped.not_mem, rfl⟩

/-! ## Splitting at elements -/

/-- What a boundary around elements makes of a content, by the one scan of it. -/
structure SplitsByScan (boundary : Boundary) (name : TagName)
    (annotates : Text → Metadata → Prop) (content : Text) : Prop where
  fails_iff : ∀ first tag, (∃ last, boundary.split content first = .error tag last) ↔
    tag = ⟨name⟩ ∧ Text.Stuck (OpensAt name content) (EndsAt name content) 0
  splits : ∀ first, ¬Text.Stuck (OpensAt name content) (EndsAt name content) 0 →
    ∃ spans pieces last, boundary.split content first = .ok pieces last ∧
      (∀ others, Text.Scans (OpensAt name content) (EndsAt name content) 0 others ↔
        others = spans) ∧
      (spans = [] → pieces.map Chunk.toPiece = if content = [] then [] else [{ text := content }]) ∧
      (spans ≠ [] → ∃ triples, pieces.map Chunk.toPiece = triples.flatMap Triple.pieces ∧
        Around name content annotates (content.extract 0 (nextStart content spans)) spans triples)

theorem splitsByScan_divideWith {boundary : Boundary} {metadata : Text → Metadata}
    {annotates : Text → Metadata → Prop} {content : Text}
    (divide_eq : boundary.divide content = divideWith name metadata content)
    (annotated : ∀ element, closingTag name <:+ element → annotates element (metadata element)) :
    SplitsByScan boundary name annotates content := by
  have hscan := stuck_or_scans name content 0
  rw [List.drop_zero] at hscan
  have hstuck : (scan name content).joined? = none ↔
      Text.Stuck (OpensAt name content) (EndsAt name content) 0 := by
    rcases hscan with ⟨hstuck, hnone⟩ | ⟨spans, hscans, hscan⟩
    · exact iff_of_true hnone hstuck
    · refine iff_of_false ?_
        (hscans.not_stuck (functional_opensAt name content) (functional_endsAt name content))
      rw [hscan, ← Option.not_isSome_iff_eq_none, joined?_scanOf]
      simp
  have hunclosed : ∀ tag, (boundary.divide content).unclosed = some tag ↔
      tag = ⟨name⟩ ∧ Text.Stuck (OpensAt name content) (EndsAt name content) 0 := by
    intro tag
    rw [divide_eq, unclosed_divideWith, hstuck]
  constructor
  · intro first tag
    rw [← hunclosed]
    unfold Boundary.split
    cases hdivide : (boundary.divide content).unclosed with
    | none => simp [Division.number_of_closed hdivide]
    | some other => simp [Division.number_of_unclosed hdivide]
  · intro first hclosing
    rcases hscan with ⟨h, -⟩ | ⟨spans, hscans, hscan⟩
    · exact absurd h hclosing
    have hclosed : (boundary.divide content).unclosed = none := by
      apply Option.eq_none_iff_forall_ne_some.2
      intro tag htag
      exact hclosing ((hunclosed tag).1 htag).2
    have hpieces := Chunk.toPiece_consecutive first (boundary.divide content).pieces
    refine ⟨spans, _, _, Division.number_of_closed hclosed first, ?_, ?_, ?_⟩
    · exact hscans.iff_eq (functional_opensAt name content) (functional_endsAt name content)
    · rintro rfl
      rw [hpieces, divide_eq, divideWith, hscan]
      cases content <;> rfl
    · intro hne
      obtain ⟨span, later, rfl⟩ := List.exists_cons_of_ne_nil hne
      rw [hpieces, divide_eq, divideWith, hscan]
      exact exists_around annotated hscans (content.extract 0 span.start)

/--
Splitting at elements follows the one scan of the content.  It fails just where the scan comes
upon an opening tag that is not closed.  Else the pieces are a triple for each element, or the
content itself where there is none.  Only the pieces at heading elements have metadata: the
heading, out of which all markup is taken.
-/
theorem split_follows_tags (content : Text) :
    (∀ name, SplitsByScan (.element name) name (fun _ metadata => metadata = .empty) content) ∧
      ∀ level, SplitsByScan (.headingElement level) (.heading level) (IsHeading level) content := by
  constructor
  · intro name
    exact splitsByScan_divideWith rfl fun _ _ => rfl
  · intro level
    exact splitsByScan_divideWith rfl fun _ => isHeading_headingMetadata level

/-- An opening tag ends even inside of an attribute, and a closing tag too many is plain text. -/
example : (divide .paragraph "a<p id='</p>'>b</p></p>c".toList).pieces.map Piece.text =
    ["a".toList, "<p id='</p>'>b</p>".toList, "</p>c".toList] := by
  decide +kernel

end Element

end Chunking
