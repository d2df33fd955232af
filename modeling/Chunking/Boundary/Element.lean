import Chunking.Boundary.Division
import Chunking.Text.Blank
import Chunking.Text.Occurrence

/-!
# Elements

An element runs from an opening tag, which may have attributes, to the first
closing tag of the same name behind it.  Elements of one name do not nest.  Each
gives three pieces: the text before it, the element, and the text up to the next
opening tag; only before the first element can the first of the three hold text.
-/

namespace Chunking.Element

/-! ## Tags -/

def openingLength (name : TagName) (text : Text) : Option Nat :=
  let start := '<' :: name.letters
  if start.isPrefixOf text then
    match text.drop start.length with
    | [] => none
    | '>' :: _ => some (start.length + 1)
    | c :: rest =>
        let attributes := rest.takeWhile (· != '>')
        if Text.isAsciiBlank c && attributes.length < rest.length then
          some (start.length + attributes.length + 2)
        else
          none
  else
    none

theorem openingLength_pos {name : TagName} {text : Text} {n : Nat}
    (h : openingLength name text = some n) : 0 < n := by
  unfold openingLength at h
  simp only [List.length_cons] at h
  split at h
  · split at h
    · simp at h
    · simp only [Option.some.injEq] at h
      omega
    · split at h
      · simp only [Option.some.injEq] at h
        omega
      · simp at h
  · simp at h

def closingTag (name : TagName) : Text :=
  '<' :: '/' :: name.letters ++ ['>']

def closingLength (name : TagName) (text : Text) : Option Nat :=
  Text.word (closingTag name) none text

/-! ## Scanning for elements -/

/-- The elements of a text, each with the text before it, up to the end of the scan. -/
inductive Scan where
  | rest (text : Text)
  /-- An opening tag follows, and no closing tag follows that. -/
  | unclosed (before : Text)
  | element (before content : Text) (next : Scan)
deriving DecidableEq

def scan (name : TagName) (text : Text) : Scan :=
  match _ : Text.leftmost (openingLength name) text with
  | none => .rest text
  | some opening =>
      match _ : Text.leftmost (closingLength name) opening.after with
      | none => .unclosed opening.before
      | some closing =>
          .element opening.before (opening.mark ++ closing.before ++ closing.mark)
            (scan name closing.after)
termination_by text.length
decreasing_by
  have hlt := Text.length_after_lt_of_leftmost openingLength_pos
    ‹Text.leftmost (openingLength name) text = some opening›
  have hle := Text.length_after_le_of_leftmost
    ‹Text.leftmost (closingLength name) opening.after = some closing›
  omega

namespace Scan

def lead : Scan → Text
  | rest text => text
  | unclosed before => before
  | element before _ _ => before

/--
Three pieces for each element, of which the first has the text `before`.  The
metadata of an element are also those of the text behind it.
-/
def triples (name : TagName) (metadata : Text → Metadata) (before : Text) : Scan → Division
  | rest _ => { pieces := [] }
  | unclosed _ => { pieces := [], unclosed := some ⟨name⟩ }
  | element _ content next =>
      let later := next.triples name metadata []
      { later with
        pieces :=
          { text := before } :: { text := content, metadata := metadata content } ::
            { text := next.lead, metadata := metadata content } :: later.pieces }

end Scan

/-- The pieces of a text around its elements.  A text without any is one piece. -/
def divideWith (name : TagName) (metadata : Text → Metadata) (text : Text) : Division :=
  match scan name text with
  | .rest text => .plain (if text.isEmpty then [] else [text])
  | found => found.triples name metadata found.lead

/-- The text of a scan that found every element closed. -/
def Scan.joined? : Scan → Option Text
  | rest text => some text
  | unclosed _ => none
  | element before content next => next.joined?.map fun text => before ++ content ++ text

theorem joined?_scan {name : TagName} {text joined : Text}
    (h : (scan name text).joined? = some joined) : joined = text := by
  fun_induction scan name text generalizing joined with
  | case1 text hopening =>
      simp only [Scan.joined?, Option.some.injEq] at h
      exact h.symm
  | case2 text opening hopening hclosing => simp [Scan.joined?] at h
  | case3 text opening hopening closing hclosing ih =>
      simp only [Scan.joined?, Option.map_eq_some_iff] at h
      obtain ⟨later, hlater, rfl⟩ := h
      rw [ih hlater, ← Text.join_of_leftmost hopening, ← Text.join_of_leftmost hclosing]
      simp

theorem unclosed_triples (name : TagName) (metadata : Text → Metadata) (before : Text)
    (found : Scan) :
    (found.triples name metadata before).unclosed = none ↔ found.joined?.isSome := by
  induction found generalizing before with
  | rest text => simp [Scan.triples, Scan.joined?]
  | unclosed text => simp [Scan.triples, Scan.joined?]
  | element _ content next ih => simp [Scan.triples, Scan.joined?, ih []]

theorem lead_append_joined_triples (name : TagName) (metadata : Text → Metadata) {found : Scan}
    {joined : Text} (h : found.joined? = some joined) :
    found.lead ++ (found.triples name metadata []).joined = joined := by
  induction found generalizing joined with
  | rest text =>
      simp only [Scan.joined?, Option.some.injEq] at h
      simp [Scan.lead, Scan.triples, Division.joined, h]
  | unclosed before => simp [Scan.joined?] at h
  | element before content next ih =>
      simp only [Scan.joined?, Option.map_eq_some_iff] at h
      obtain ⟨later, hlater, rfl⟩ := h
      rw [← ih hlater]
      simp [Scan.lead, Scan.triples, Division.joined]

theorem joined_divideWith {name : TagName} {metadata : Text → Metadata} {text : Text}
    (h : (divideWith name metadata text).unclosed = none) :
    (divideWith name metadata text).joined = text := by
  unfold divideWith at h ⊢
  cases hscan : scan name text with
  | rest found =>
      have hjoined : found = text := joined?_scan (by rw [hscan]; rfl)
      subst hjoined
      cases found <;> simp
  | unclosed before => simp [hscan, Scan.triples] at h
  | element before content next =>
      simp only [hscan] at h ⊢
      obtain ⟨joined, hjoined⟩ := Option.isSome_iff_exists.1 ((unclosed_triples _ _ _ _).1 h)
      have hlead := lead_append_joined_triples name metadata hjoined
      have htext : joined = text := joined?_scan (by rw [hscan, hjoined])
      rw [← htext, ← hlead]
      simp [Scan.lead, Scan.triples, Division.joined]

/-! ## Headings among the elements -/

def markupLength : Text → Option Nat
  | '<' :: rest =>
      let inner := rest.takeWhile (· != '>')
      if inner.length < rest.length then some (inner.length + 2) else none
  | _ => none

def withoutMarkup (text : Text) : Text :=
  (Text.segments (fun _ ahead => markupLength ahead) text).flatMap fun
    | .gap text => text
    | .mark _ => []

/-- The metadata under a heading element: its text, as a heading and as a heading of its rank. -/
def headingMetadata (level : HeadingLevel) (content : Text) : Metadata :=
  let title := String.ofList (Text.trim (withoutMarkup content))
  .ofList [(Metadata.headerKey ++ Text.decimal level.rank, title), (Metadata.headerKey, title)]

def divide (name : TagName) (text : Text) : Division :=
  divideWith name (fun _ => .empty) text

def divideHeadings (level : HeadingLevel) (text : Text) : Division :=
  divideWith (.heading level) (headingMetadata level) text

end Chunking.Element
