import Mathlib.Data.List.Chain
import Chunking.Boundary.Fence

/-!
# Fences

Blocks are apart from one another or touch, but no two stretches of other text do.  The text
between two blocks holds no opening fence, so on its own it is one piece again.
-/

namespace Chunking

/-! ## Marks and gaps in turn -/

namespace Text

def Segment.IsMark : Segment → Prop
  | gap _ => False
  | mark _ => True

/-- No occurrence starts at a character of the text. -/
def Unmarked (lengthAt : Text → Option Nat) (text : Text) : Prop :=
  ∀ ahead, ahead <:+ text → ahead ≠ [] → lengthAt ahead = none

/-- No occurrence starts in a gap, and no two gaps meet. -/
structure Alternates (lengthAt : Text → Option Nat) (segments : List Segment) : Prop where
  unmarked : ∀ text, .gap text ∈ segments → Unmarked lengthAt text
  apart : segments.IsChain fun first second => first.IsMark ∨ second.IsMark

variable {lengthAt : Text → Option Nat} {text : Text}

namespace Alternates

variable {gap block : Text} {later : List Segment}

theorem nothing : Alternates lengthAt [.gap []] where
  unmarked := by
    intro text htext ahead hahead hne
    rw [List.mem_singleton, Segment.gap.injEq] at htext
    rw [htext, List.suffix_nil] at hahead
    exact absurd hahead hne
  apart := .singleton _

theorem lengthen {c : Char} (h : Alternates lengthAt (.gap gap :: later))
    (hnone : lengthAt (c :: gap) = none) : Alternates lengthAt (.gap (c :: gap) :: later) where
  unmarked := by
    intro text htext
    rcases List.mem_cons.1 htext with heq | hlater
    · rw [Segment.gap.injEq] at heq
      intro ahead hahead hne
      rw [heq, List.suffix_cons_iff] at hahead
      rcases hahead with rfl | hahead
      · exact hnone
      · exact h.unmarked gap List.mem_cons_self ahead hahead hne
    · exact h.unmarked text (List.mem_cons_of_mem _ hlater)
  apart := by
    have hapart := h.apart
    rw [List.isChain_cons] at hapart ⊢
    exact hapart

theorem gapOf (h : Alternates lengthAt (.gap gap :: later)) :
    Alternates lengthAt (Segment.gapOf gap ++ later) := by
  cases gap with
  | nil => exact ⟨fun text htext => h.unmarked text (List.mem_cons_of_mem _ htext), h.apart.tail⟩
  | cons c rest => exact h

theorem mark (h : Alternates lengthAt later) :
    Alternates lengthAt (.gap [] :: .mark block :: later) where
  unmarked := by
    intro text htext
    rcases List.mem_cons.1 htext with heq | htext
    · exact nothing.unmarked text (List.mem_singleton.2 heq)
    · rcases List.mem_cons.1 htext with heq | htext
      · cases heq
      · exact h.unmarked text htext
  apart := by
    rw [List.isChain_cons_cons, List.isChain_cons]
    exact ⟨.inr trivial, fun _ _ => .inl trivial, h.apart⟩

end Alternates

theorem alternates_segmentsFrom (pos : ∀ {text n}, lengthAt text = some n → 0 < n)
    (stable : ∀ {text behind}, lengthAt (text ++ behind) = none → lengthAt text = none)
    (before : Option Char) (text : Text) :
    Alternates lengthAt (.gap (segmentsFrom (fun _ ahead => lengthAt ahead) before text).1 ::
      (segmentsFrom (fun _ ahead => lengthAt ahead) before text).2) := by
  fun_induction segmentsFrom (fun _ ahead => lengthAt ahead) before text with
  | case1 => exact .nothing
  | case2 before c rest hnone gap later heq ih =>
      have hjoin := segmentsFrom_join (fun _ ahead => lengthAt ahead) (some c) rest
      rw [heq] at ih hjoin
      rw [← hjoin] at hnone
      exact ih.lengthen (stable hnone)
  | case3 before c rest hzero => exact absurd (pos hzero) (Nat.lt_irrefl 0)
  | case4 before c rest n hsome mark gap later heq ih =>
      rw [heq] at ih
      exact ih.gapOf.mark

theorem alternates_segments (pos : ∀ {text n}, lengthAt text = some n → 0 < n)
    (stable : ∀ {text behind}, lengthAt (text ++ behind) = none → lengthAt text = none)
    (text : Text) : Alternates lengthAt (segments (fun _ ahead => lengthAt ahead) text) :=
  (alternates_segmentsFrom pos stable none text).gapOf

theorem segmentsFrom_of_unmarked (h : Unmarked lengthAt text) (before : Option Char) :
    segmentsFrom (fun _ ahead => lengthAt ahead) before text = (text, []) := by
  induction text generalizing before with
  | nil => rw [segmentsFrom]
  | cons c rest ih =>
      have hrest : Unmarked lengthAt rest := fun ahead hahead =>
        h ahead (hahead.trans (List.suffix_cons c rest))
      have hnone := h (c :: rest) (List.suffix_refl _) (List.cons_ne_nil c rest)
      rw [segmentsFrom]
      simp only [hnone, ih hrest]

theorem segments_of_unmarked (h : Unmarked lengthAt text) (ne_nil : text ≠ []) :
    segments (fun _ ahead => lengthAt ahead) text = [.gap text] := by
  unfold segments
  rw [segmentsFrom_of_unmarked h]
  cases text with
  | nil => exact absurd rfl ne_nil
  | cons c rest => rfl

end Text

/-! ## Lines -/

namespace Text

variable {p : Char → Bool} {text line : Text}

theorem prefix_of_drop_takeWhile {stop : Char} {more : Text}
    (h : text.drop (text.takeWhile p).length = stop :: more) :
    text.takeWhile p ++ [stop] <+: text := by
  have hsplit := List.takeWhile_append_dropWhile (p := p) (l := text)
  have hdrop := congrArg (List.drop (text.takeWhile p).length) hsplit
  rw [List.drop_left, h] at hdrop
  rw [hdrop] at hsplit
  exact ⟨more, by rw [List.append_assoc, List.singleton_append, hsplit]⟩

theorem takeWhile_of_prefix {stop : Char} (hline : ∀ c ∈ line, p c = true) (hstop : p stop = false)
    (h : line ++ [stop] <+: text) :
    text.takeWhile p = line ∧ ∃ more, text.drop line.length = stop :: more := by
  obtain ⟨more, rfl⟩ := h
  rw [List.append_assoc, List.singleton_append, List.takeWhile_append_of_pos hline,
    List.takeWhile_cons_of_neg (by simp [hstop]), List.append_nil, List.drop_left]
  exact ⟨rfl, more, rfl⟩

theorem of_mem_takeWhile {c : Char} (h : c ∈ text.takeWhile p) : p c = true :=
  List.all_eq_true.1 (List.all_takeWhile (p := p) (l := text)) c h

end Text

/-! ## Blocks and what is between them -/

namespace Fence

theorem openingLength_eq_some_iff {text : Text} {length : Nat} :
    openingLength text = some length ↔ ∃ line, (∀ c ∈ line, c ≠ '`' ∧ c ≠ '\n') ∧
      '`' :: '`' :: '`' :: (line ++ ['\n']) <+: text ∧ length = line.length + 4 := by
  constructor
  · intro h
    unfold openingLength at h
    split at h
    · next rest =>
        split at h
        · next more hdrop =>
            cases h
            refine ⟨info rest, fun c hc => ?_, ?_, rfl⟩
            · simpa using Text.of_mem_takeWhile hc
            · simpa [info] using Text.prefix_of_drop_takeWhile hdrop
        · cases h
    · cases h
  · rintro ⟨line, hline, hprefix, rfl⟩
    obtain ⟨more, rfl⟩ := hprefix
    have hread : line ++ ['\n'] <+: line ++ ['\n'] ++ more := List.prefix_append _ _
    obtain ⟨hinfo, later, hdrop⟩ := Text.takeWhile_of_prefix
      (p := fun c => c != '`' && c != '\n') (by simpa using hline) rfl hread
    have hinfo : info (line ++ ['\n'] ++ more) = line := hinfo
    simp only [List.cons_append, openingLength, hinfo, hdrop]

theorem openingLength_append {text : Text} {length : Nat} (h : openingLength text = some length)
    (behind : Text) : openingLength (text ++ behind) = some length := by
  rw [openingLength_eq_some_iff] at h ⊢
  obtain ⟨line, hline, hprefix, hlength⟩ := h
  exact ⟨line, hline, hprefix.trans (List.prefix_append text behind), hlength⟩

theorem blockLength_of_append {text behind : Text} (h : blockLength (text ++ behind) = none) :
    blockLength text = none := by
  unfold blockLength at h ⊢
  rw [Option.map_eq_none_iff] at h ⊢
  cases htext : openingLength text with
  | none => rfl
  | some length =>
      rw [openingLength_append htext] at h
      cases h

theorem blockLength_pos {text : Text} {length : Nat} (h : blockLength text = some length) :
    0 < length := by
  unfold blockLength at h
  obtain ⟨opening, hopening, rfl⟩ := Option.map_eq_some_iff.1 h
  unfold openingLength at hopening
  split at hopening
  · split at hopening
    · cases hopening
      omega
    · cases hopening
  · cases hopening

/-- The piece is a fenced block, as its metadata say. -/
def IsBlock (piece : Piece) : Prop :=
  piece.get? Metadata.kindKey = some Metadata.codeBlockKind

instance : DecidablePred IsBlock := fun piece =>
  inferInstanceAs (Decidable (piece.get? Metadata.kindKey = some Metadata.codeBlockKind))

theorem isBlock_piece {segment : Text.Segment} : IsBlock (piece segment) ↔ segment.IsMark := by
  cases segment with
  | gap text =>
      refine iff_of_false ?_ not_false
      intro h
      cases h
  | mark text =>
      refine iff_of_true ?_ trivial
      have hkeys : Metadata.kindKey ≠ Metadata.languageKey := by decide
      show (metadata text).get? Metadata.kindKey = some Metadata.codeBlockKind
      simp [metadata, Metadata.ofList, hkeys]

theorem alternates_segments (text : Text) :
    Text.Alternates blockLength (Text.segments (fun _ ahead => blockLength ahead) text) :=
  Text.alternates_segments blockLength_pos blockLength_of_append text

theorem isChain_divide (text : Text) :
    (divide text).pieces.IsChain fun first second => IsBlock first ∨ IsBlock second := by
  unfold divide
  rw [List.isChain_map]
  simp only [isBlock_piece]
  exact (alternates_segments text).apart

theorem divide_nil : (divide []).pieces = [] := by
  simp [divide, Text.segments, Text.segmentsFrom, Text.Segment.gapOf]

theorem ne_nil_of_mem_divide {text : Text} {part : Piece} (h : part ∈ (divide text).pieces) :
    part.text ≠ [] := by
  obtain ⟨segment, hsegment, rfl⟩ := List.mem_map.1 h
  rw [text_piece]
  exact Text.ne_nil_of_mem_segments hsegment

theorem divide_of_plain {text : Text} {part : Piece} (h : part ∈ (divide text).pieces)
    (plain : ¬IsBlock part) : (divide part.text).pieces = [part] := by
  obtain ⟨segment, hsegment, rfl⟩ := List.mem_map.1 h
  cases segment with
  | mark block =>
      have hmark : (Text.Segment.mark block).IsMark := trivial
      exact absurd (isBlock_piece.2 hmark) plain
  | gap inner =>
      have hne : inner ≠ [] := Text.ne_nil_of_mem_segments hsegment
      have hunmarked := (alternates_segments text).unmarked inner hsegment
      show (Text.segments _ inner).map piece = _
      rw [Text.segments_of_unmarked hunmarked hne]
      rfl

end Fence

end Chunking
