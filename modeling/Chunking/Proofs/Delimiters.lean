import Chunking.Proofs.Divisions
import Chunking.Proofs.Fences
import Chunking.Proofs.Scanning

/-!
# Delimiters

A text around the occurrences of a delimiter, found one behind the other.  Which tokens these are
can be said without looking for them: the conditions of `Text.Tokenizes` hold of one list only, and
the division at the delimiter is this list.  The empty delimiter stands between any two characters.
-/

namespace Chunking

namespace Text

/--
The tokens of a text: the delimiter, where it stands first behind the token before, and what is
between two of its occurrences.
-/
structure Tokenizes (delimiter text : Text) (tokens : List Text) : Prop where
  joined : tokens.flatten = text
  ne_nil : ∀ token ∈ tokens, token ≠ []
  free : ∀ token ∈ tokens, token = delimiter ∨ ¬delimiter <:+: token
  apart : tokens.IsChain fun one next => one = delimiter ∨ next = delimiter
  first : ∀ gap later, gap :: delimiter :: later <:+ tokens → gap ≠ delimiter →
    ∀ offset < gap.length, ¬delimiter <+: (gap :: delimiter :: later).flatten.drop offset

variable {delimiter text gap token : Text} {tokens later : List Text}

namespace Tokenizes

theorem nothing : Tokenizes delimiter [] [] where
  joined := rfl
  ne_nil := by simp
  free := by simp
  apart := .nil
  first := by simp

theorem single (ne_nil : token ≠ []) (free : token = delimiter ∨ ¬delimiter <:+: token) :
    Tokenizes delimiter token [token] where
  joined := by simp
  ne_nil := List.forall_mem_singleton.2 ne_nil
  free := List.forall_mem_singleton.2 free
  apart := .singleton _
  first := by
    intro gap later hsuffix
    have hle := hsuffix.length_le
    simp only [List.length_cons, List.length_nil] at hle
    omega

theorem tail (h : Tokenizes delimiter text (token :: later)) :
    Tokenizes delimiter later.flatten later where
  joined := rfl
  ne_nil := (List.forall_mem_cons.1 h.ne_nil).2
  free := (List.forall_mem_cons.1 h.free).2
  apart := h.apart.tail
  first := fun gap rest hsuffix => h.first gap rest (hsuffix.trans (List.suffix_cons token later))

theorem cons_delimiter (h : Tokenizes delimiter text tokens) (ne_nil : delimiter ≠ []) :
    Tokenizes delimiter (delimiter ++ text) (delimiter :: tokens) where
  joined := by rw [List.flatten_cons, h.joined]
  ne_nil := List.forall_mem_cons.2 ⟨ne_nil, h.ne_nil⟩
  free := List.forall_mem_cons.2 ⟨.inl rfl, h.free⟩
  apart := List.isChain_cons.2 ⟨fun _ _ => .inl rfl, h.apart⟩
  first := by
    intro gap later hsuffix hgap
    rcases List.suffix_cons_iff.1 hsuffix with heq | hsuffix
    · exact absurd (List.cons.inj heq).1 hgap
    · exact h.first gap later hsuffix hgap

theorem cons_gap (h : Tokenizes delimiter text (delimiter :: later)) (ne_nil : gap ≠ [])
    (first : ∀ offset < gap.length, ¬delimiter <+: (gap ++ text).drop offset) :
    Tokenizes delimiter (gap ++ text) (gap :: delimiter :: later) where
  joined := by rw [List.flatten_cons, h.joined]
  ne_nil := List.forall_mem_cons.2 ⟨ne_nil, h.ne_nil⟩
  free := by
    refine List.forall_mem_cons.2 ⟨.inr ?_, h.free⟩
    rintro ⟨before, behind, rfl⟩
    have hne := h.ne_nil delimiter List.mem_cons_self
    have hpos := List.length_pos_iff.2 hne
    refine first before.length (by simp only [List.length_append]; omega) ?_
    rw [List.append_assoc, List.append_assoc, List.drop_left]
    exact List.prefix_append _ _
  apart := List.isChain_cons.2 ⟨fun _ hnext => .inr (by simpa using hnext.symm), h.apart⟩
  first := by
    intro other rest hsuffix hother
    rcases List.suffix_cons_iff.1 hsuffix with heq | hsuffix
    · obtain ⟨rfl, hrest⟩ := List.cons.inj heq
      rw [List.flatten_cons, hrest, h.joined]
      exact first
    · exact h.first other rest hsuffix hother

end Tokenizes

/-! ## Occurrences of a delimiter -/

theorem word_eq_some_iff {before : Option Char} {n : Nat} :
    word delimiter before text = some n ↔ delimiter <+: text ∧ n = delimiter.length := by
  unfold word
  rw [← List.isPrefixOf_iff_prefix]
  split
  · next h => simp [h, eq_comm]
  · next h => simp [h]

theorem word_eq_none_iff {before : Option Char} :
    word delimiter before text = none ↔ ¬delimiter <+: text := by
  unfold word
  rw [← List.isPrefixOf_iff_prefix]
  split <;> simp [*]

theorem unmarked_of_free (free : ¬delimiter <:+: text) : Unmarked (word delimiter none) text := by
  intro ahead hahead _
  exact word_eq_none_iff.2 fun hbegins => free (hbegins.isInfix.trans hahead.isInfix)

section Occurrences

variable (ne_nil : delimiter ≠ [])

include ne_nil

theorem word_pos {text : Text} {n : Nat} (h : word delimiter none text = some n) : 0 < n := by
  rw [(word_eq_some_iff.1 h).2]
  exact List.length_pos_iff.2 ne_nil

theorem leftmost_word_of_first {behind : Text}
    (first : ∀ offset < gap.length, ¬delimiter <+: (gap ++ (delimiter ++ behind)).drop offset) :
    leftmost (word delimiter none) (gap ++ (delimiter ++ behind)) =
      some ⟨gap, delimiter, behind⟩ := by
  induction gap with
  | nil =>
      have hfound : word delimiter none (delimiter ++ behind) = some delimiter.length :=
        word_eq_some_iff.2 ⟨List.prefix_append _ _, rfl⟩
      obtain ⟨c, rest, hdelimiter⟩ := List.exists_cons_of_ne_nil ne_nil
      rw [hdelimiter, List.cons_append] at hfound
      rw [List.nil_append, hdelimiter, List.cons_append, leftmost, hfound]
      simp
  | cons c gap ih =>
      have hhere : word delimiter none (c :: (gap ++ (delimiter ++ behind))) = none :=
        word_eq_none_iff.2 (first 0 (Nat.succ_pos _))
      have hlater := ih fun offset hoffset => first (offset + 1) (Nat.succ_lt_succ hoffset)
      rw [List.cons_append, leftmost, hhere, hlater]
      rfl

theorem free_of_leftmost_word (h : leftmost (word delimiter none) text = none) :
    ¬delimiter <:+: text := by
  rintro ⟨before, behind, rfl⟩
  have hle : ∀ {text n}, word delimiter none text = some n → n ≤ text.length := by
    intro text n hn
    obtain ⟨hbegins, rfl⟩ := word_eq_some_iff.1 hn
    exact hbegins.length_le
  refine lengthAt_ne_of_leftmost (word_pos ne_nil) hle h before.length delimiter.length ?_
  rw [List.append_assoc, List.drop_left]
  exact word_eq_some_iff.2 ⟨List.prefix_append _ _, rfl⟩

end Occurrences

theorem first_of_leftmost_word {cut : Cut} (h : leftmost (word delimiter none) text = some cut) :
    text = cut.before ++ (delimiter ++ cut.after) ∧
      ∀ offset < cut.before.length, ¬delimiter <+: text.drop offset := by
  obtain ⟨n, hn, hmark, -⟩ := lengthAt_of_leftmost h
  obtain ⟨hbegins, rfl⟩ := word_eq_some_iff.1 hn
  rw [← List.prefix_iff_eq_take.1 hbegins] at hmark
  refine ⟨?_, ?_⟩
  · rw [← join_of_leftmost h, hmark, List.append_assoc]
  · intro offset hoffset hoccurs
    have hle := before_le_of_leftmost h (word_eq_some_iff.2 ⟨hoccurs, rfl⟩)
    omega

/-! ## The division at a delimiter -/

theorem segments_nil (recognizer : Recognizer) : segments recognizer [] = [] := by
  simp [segments, segmentsFrom, Segment.gapOf]

section Segments

variable (ne_nil : delimiter ≠ [])

include ne_nil

theorem segments_word_of_first {behind : Text}
    (first : ∀ offset < gap.length, ¬delimiter <+: (gap ++ (delimiter ++ behind)).drop offset) :
    segments (word delimiter) (gap ++ (delimiter ++ behind)) =
      Segment.gapOf gap ++ .mark delimiter :: segments (word delimiter) behind := by
  have hsegments := @segments_eq_leftmost (word delimiter none) (word_pos ne_nil)
    (gap ++ (delimiter ++ behind))
  rw [leftmost_word_of_first ne_nil first] at hsegments
  exact hsegments

theorem segments_word_append (behind : Text) : segments (word delimiter) (delimiter ++ behind) =
    .mark delimiter :: segments (word delimiter) behind :=
  @segments_word_of_first delimiter [] ne_nil behind (by simp)

theorem tokenizes_segments (text : Text) :
    Tokenizes delimiter text ((segments (word delimiter) text).map Segment.text) := by
  induction hlength : text.length using Nat.strongRecOn generalizing text with
  | ind length ih =>
      cases hleftmost : leftmost (word delimiter none) text with
      | none =>
          have hfree := free_of_leftmost_word ne_nil hleftmost
          cases text with
          | nil =>
              rw [segments_nil]
              exact .nothing
          | cons c rest =>
              have hsegments : segments (word delimiter) (c :: rest) = [.gap (c :: rest)] :=
                segments_of_unmarked (unmarked_of_free hfree) (List.cons_ne_nil c rest)
              rw [hsegments]
              exact .single (List.cons_ne_nil c rest) (.inr hfree)
      | some cut =>
          obtain ⟨htext, hfirst⟩ := first_of_leftmost_word hleftmost
          have hshorter : cut.after.length < length := by
            have hpos := List.length_pos_iff.2 ne_nil
            rw [← hlength, htext, List.length_append, List.length_append]
            omega
          have hlater := (ih _ hshorter cut.after rfl).cons_delimiter ne_nil
          rw [htext] at hfirst ⊢
          rw [segments_word_of_first ne_nil hfirst]
          cases hbefore : cut.before with
          | nil => exact hlater
          | cons c gap =>
              rw [hbefore] at hfirst
              exact hlater.cons_gap (List.cons_ne_nil c gap) hfirst

theorem Tokenizes.eq_segments (h : Tokenizes delimiter text tokens) :
    tokens = (segments (word delimiter) text).map Segment.text := by
  induction hlength : tokens.length using Nat.strongRecOn generalizing text tokens with
  | ind length ih =>
      obtain rfl := h.joined
      cases tokens with
      | nil =>
          rw [List.flatten_nil, segments_nil]
          rfl
      | cons token later =>
          by_cases htoken : token = delimiter
          · subst htoken
            have hlater := ih later.length (by rw [← hlength]; exact Nat.lt_succ_self _) h.tail rfl
            rw [List.flatten_cons, segments_word_append ne_nil]
            exact congrArg (token :: ·) hlater
          · have hne : token ≠ [] := h.ne_nil token List.mem_cons_self
            cases later with
            | nil =>
                have hfree : ¬delimiter <:+: token :=
                  (h.free token List.mem_cons_self).resolve_left htoken
                have hsegments : segments (word delimiter) token = [.gap token] :=
                  segments_of_unmarked (unmarked_of_free hfree) hne
                rw [List.flatten_singleton, hsegments]
                rfl
            | cons next more =>
                obtain rfl : next = delimiter :=
                  (List.isChain_cons_cons.1 h.apart).1.resolve_left htoken
                have hshorter : more.length < length := by
                  simp only [← hlength, List.length_cons]
                  omega
                have hmore := ih more.length hshorter h.tail.tail rfl
                have hfirst := h.first token more (List.suffix_refl _) htoken
                simp only [List.flatten_cons] at hfirst ⊢
                rw [segments_word_of_first ne_nil hfirst, List.map_append, List.map_cons, ← hmore]
                obtain ⟨c, rest, rfl⟩ := List.exists_cons_of_ne_nil hne
                rfl

end Segments

theorem tokenizes_iff (ne_nil : delimiter ≠ []) :
    Tokenizes delimiter text tokens ↔
      tokens = (segments (word delimiter) text).map Segment.text := by
  constructor
  · exact fun h => h.eq_segments ne_nil
  · rintro rfl
    exact tokenizes_segments ne_nil text

theorem segments_of_mem_segments
    (h : token ∈ (segments (word delimiter) text).map Segment.text) :
    (segments (word delimiter) token).map Segment.text = [token] := by
  by_cases hdelimiter : delimiter = []
  · subst hdelimiter
    rw [segments_word_nil, List.map_map] at h
    obtain ⟨c, -, rfl⟩ := List.mem_map.1 h
    rw [segments_word_nil]
    rfl
  · have htokens := tokenizes_segments hdelimiter text
    have hsingle := Tokenizes.single (htokens.ne_nil token h) (htokens.free token h)
    exact (hsingle.eq_segments hdelimiter).symm

end Text

theorem Division.text_plain (texts : List Text) : (plain texts).pieces.map Piece.text = texts := by
  simp [plain, Function.comp_def]

namespace Boundary

/--
The pieces at a delimiter are the only tokens of the text, and at the empty delimiter its single
characters.  Every piece on its own stays as it is.
-/
theorem split_tokenizes (delimiter text : Text) (first : Nat) :
    ∃ pieces last, (literal delimiter).split text first = .ok pieces last ∧
      (delimiter ≠ [] → ∀ tokens,
        Text.Tokenizes delimiter text tokens ↔ tokens = pieces.map (·.text)) ∧
      (delimiter = [] → pieces.map (·.text) = text.map fun c => [c]) ∧
      ∀ piece ∈ pieces, ∀ next,
        (literal delimiter).split piece.text next = .ok [{ piece with id := next }] (next + 1) := by
  have hsplit : ∀ text next, (literal delimiter).split text next =
      .ok (Chunk.consecutive next ((literal delimiter).divide text).pieces)
        (next + ((literal delimiter).divide text).pieces.length) :=
    fun _ next => split_of_closed rfl next
  have hdivide : ∀ text, (literal delimiter).divide text =
      .plain ((Text.segments (Text.word delimiter) text).map Text.Segment.text) := fun _ => rfl
  have hpieces := Chunk.toPiece_consecutive first ((literal delimiter).divide text).pieces
  have htexts : (Chunk.consecutive first ((literal delimiter).divide text).pieces).map (·.text) =
      (Text.segments (Text.word delimiter) text).map Text.Segment.text := by
    have hmap := congrArg (List.map Piece.text) hpieces
    rw [List.map_map, hdivide, Division.text_plain] at hmap
    exact hmap
  refine ⟨_, _, hsplit text first, ?_, ?_, ?_⟩
  · intro ne_nil tokens
    rw [htexts]
    exact Text.tokenizes_iff ne_nil
  · rintro rfl
    rw [htexts, Text.segments_word_nil, List.map_map]
    rfl
  · intro piece hpiece next
    have hmem : piece.toPiece ∈ ((literal delimiter).divide text).pieces := by
      rw [← hpieces]
      exact List.mem_map_of_mem hpiece
    obtain ⟨token, htoken, heq⟩ := List.mem_map.1 hmem
    rw [hsplit, ← heq, hdivide token, Text.segments_of_mem_segments htoken]
    rfl

/-- Of five line ends in a row, two pairs are delimiters, and the last one is not. -/
example : (paragraph.divide "a\n\n\n\n\nb".toList).pieces.map Piece.text =
    [['a'], ['\n', '\n'], ['\n', '\n'], ['\n', 'b']] := by
  decide +kernel

end Boundary

end Chunking
