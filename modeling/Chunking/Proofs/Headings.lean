import Chunking.Proofs.Blocks
import Chunking.Proofs.Scanning

/-!
# Lines under headings

A text read line by line.  A heading line stands between two line ends, which its piece takes
along; so of two heading lines with one line end between them only the first is read.  Every line
is in a piece under the title of the nearest heading that is read, at the line or above it.
-/

namespace Chunking

/-! ## Lines -/

namespace Text

/-- What is before, between and behind the line ends. -/
def lines (text : Text) : List Text :=
  text.splitOn '\n'

/-- Lines with a line end behind each of them. -/
def ended (lines : List Text) : Text :=
  lines.flatMap (· ++ ['\n'])

variable {text line : Text} {index : Nat}

theorem lines_line_end (rest : Text) : lines ('\n' :: rest) = [] :: lines rest := by
  simp [lines, List.splitOn_cons_eq_if_modifyHead]

theorem exists_lines_cons {c : Char} (hne : c ≠ '\n') (rest : Text) :
    ∃ head tail, lines rest = head :: tail ∧ lines (c :: rest) = (c :: head) :: tail := by
  obtain ⟨head, tail, hlines⟩ := List.exists_cons_of_ne_nil (List.splitOn_ne_nil '\n' rest)
  refine ⟨head, tail, hlines, ?_⟩
  rw [lines, List.splitOn_cons_eq_if_modifyHead, if_neg (by simpa using hne), hlines]
  rfl

theorem lines_append (before behind : Text) :
    lines (before ++ '\n' :: behind) = lines before ++ lines behind :=
  List.splitOn_append_cons_self before behind

theorem lines_of_not_mem (h : '\n' ∉ line) : lines line = [line] :=
  List.splitOn_eq_singleton h

theorem not_mem_of_mem_lines (h : line ∈ lines text) : '\n' ∉ line := by
  induction text generalizing line with
  | nil =>
      rw [List.mem_singleton.1 h]
      exact List.not_mem_nil
  | cons c rest ih =>
      by_cases hend : c = '\n'
      · subst hend
        rw [lines_line_end] at h
        rcases List.mem_cons.1 h with rfl | h
        · exact List.not_mem_nil
        · exact ih h
      · obtain ⟨head, tail, hrest, hlines⟩ := exists_lines_cons hend rest
        rw [hrest] at ih
        rw [hlines] at h
        rcases List.mem_cons.1 h with rfl | h
        · rw [List.mem_cons, not_or]
          exact ⟨Ne.symm hend, ih List.mem_cons_self⟩
        · exact ih (List.mem_cons_of_mem head h)

theorem ended_lines (text : Text) : ended (lines text) = text ++ ['\n'] := by
  induction text with
  | nil => rfl
  | cons c rest ih =>
      by_cases hend : c = '\n'
      · rw [hend, lines_line_end]
        exact congrArg ('\n' :: ·) ih
      · obtain ⟨head, tail, hrest, hlines⟩ := exists_lines_cons hend rest
        rw [hrest] at ih
        rw [hlines]
        exact congrArg (c :: ·) ih

theorem ended_append (above below : List Text) :
    ended (above ++ below) = ended above ++ ended below :=
  List.flatMap_append

theorem ended_cons (line : Text) (below : List Text) :
    ended (line :: below) = line ++ '\n' :: ended below := by
  simp [ended]

theorem exists_ended_eq {lines : List Text} (ne_nil : lines ≠ []) :
    ∃ before, ended lines = before ++ ['\n'] := by
  rcases List.eq_nil_or_concat lines with rfl | ⟨init, last, rfl⟩
  · exact absurd rfl ne_nil
  · refine ⟨ended init ++ last, ?_⟩
    rw [List.concat_eq_append, ended_append, ended_cons, List.append_assoc]
    rfl

theorem exists_behind_line (h : (lines text)[index]? = some line) :
    ∃ behind, text = ended ((lines text).take index) ++ (line ++ behind) ∧
      (index + 1 < (lines text).length → ∃ below, behind = '\n' :: below) := by
  obtain ⟨hindex, hline⟩ := List.getElem?_eq_some_iff.1 h
  have hlines := List.take_append_drop index (lines text)
  rw [List.drop_eq_getElem_cons hindex, hline] at hlines
  have htext := ended_lines text
  rw [← hlines, ended_append, ended_cons] at htext
  by_cases hlast : (lines text).drop (index + 1) = []
  · refine ⟨[], ?_, fun hlt => ?_⟩
    · rw [hlast, ← List.append_assoc] at htext
      rw [List.append_nil]
      exact (List.append_cancel_right htext).symm
    · rw [List.drop_eq_nil_iff] at hlast
      omega
  · obtain ⟨below, hbelow⟩ := exists_ended_eq hlast
    refine ⟨'\n' :: below, ?_, fun _ => ⟨below, rfl⟩⟩
    rw [hbelow, ← List.cons_append, ← List.append_assoc, ← List.append_assoc] at htext
    rw [← List.append_assoc]
    exact (List.append_cancel_right htext).symm

end Text

namespace Heading

/-- The line consists of number signs, as many as the rank says, a space and a rest. -/
def lineOf (level : HeadingLevel) (rest : Text) : Text :=
  List.replicate level.rank '#' ++ ' ' :: rest

/-- The line at an index is a heading line: it has a line end before it and behind it. -/
structure IsHeading (level : HeadingLevel) (lines : List Text) (index : Nat) (rest : Text) :
    Prop where
  preceded : 0 < index
  followed : index + 1 < lines.length
  line : lines[index]? = some (lineOf level rest)

/-- A heading line is read if the line end before it is not taken by one right above it. -/
def IsRead (level : HeadingLevel) (lines : List Text) : Nat → Prop
  | 0 => False
  | index + 1 => (∃ rest, IsHeading level lines (index + 1) rest) ∧ ¬IsRead level lines index

/-- The title of the nearest heading that is read, at the line or above it. -/
inductive Titled (level : HeadingLevel) (lines : List Text) (index : Nat) : Option Text → Prop
  | untitled (unread : ∀ other ≤ index, ¬IsRead level lines other) : Titled level lines index none
  | titled {heading rest} (le : heading ≤ index) (is_heading : IsHeading level lines heading rest)
      (read : IsRead level lines heading)
      (nearest : ∀ other, heading < other → other ≤ index → ¬IsRead level lines other) :
      Titled level lines index (some (Text.trim rest))

/-- One of the pieces holds the line that comes behind the text above it. -/
def Holds (pieces : List Piece) (above line : Text) (piece : Piece) : Prop :=
  ∃ front back lead trail, pieces = front ++ piece :: back ∧
    piece.text = lead ++ (line ++ trail) ∧ front.flatMap Piece.text ++ lead = above

variable {level : HeadingLevel} {text rest : Text} {index : Nat}

/-! ## Heading lines and occurrences -/

theorem marker_append (rest : Text) : marker level ++ rest = '\n' :: lineOf level rest := by
  simp [marker, lineOf]

theorem lineOf_append (rest more : Text) :
    lineOf level (rest ++ more) = lineOf level rest ++ more := by
  simp [lineOf]

theorem not_mem_lineOf_iff : '\n' ∉ lineOf level rest ↔ '\n' ∉ rest := by
  simp [lineOf]

theorem lengthAt_lineOf (h : '\n' ∉ rest) (below : Text) :
    lengthAt level ('\n' :: (lineOf level rest ++ '\n' :: below)) =
      some ((lineOf level rest).length + 2) := by
  refine lengthAt_eq_some_iff.2 ⟨rest, fun c hc heq => h (heq ▸ hc), ⟨below, ?_⟩, ?_⟩
  · rw [marker_append, lineOf_append]
    simp
  · simp only [marker, lineOf, List.length_cons, List.length_append, List.length_replicate,
      List.length_nil]
    omega

theorem IsHeading.exists_occurrence (h : IsHeading level (Text.lines text) index rest) :
    ∃ place n, place < (Text.ended ((Text.lines text).take index)).length ∧
      lengthAt level (text.drop place) = some n := by
  obtain ⟨behind, htext, hbehind⟩ := Text.exists_behind_line h.line
  obtain ⟨below, rfl⟩ := hbehind h.followed
  have hrest : '\n' ∉ rest :=
    not_mem_lineOf_iff.1 (Text.not_mem_of_mem_lines (List.mem_of_getElem? h.line))
  have hindex := h.preceded
  have hlength := h.followed
  have habove : (Text.lines text).take index ≠ [] := by
    rw [Ne, List.take_eq_nil_iff, not_or, ← List.length_eq_zero_iff]
    omega
  obtain ⟨above, habove⟩ := Text.exists_ended_eq habove
  rw [habove] at htext ⊢
  have hdrop : text.drop above.length = '\n' :: (lineOf level rest ++ '\n' :: below) := by
    rw [htext, List.append_assoc, List.drop_left]
    rfl
  refine ⟨above.length, (lineOf level rest).length + 2, ?_, ?_⟩
  · rw [List.length_append]
    exact Nat.lt_succ_self _
  · rw [hdrop]
    exact lengthAt_lineOf hrest below

theorem not_isHeading_of_leftmost (h : Text.leftmost (lengthAt level) text = none) (index : Nat)
    (rest : Text) : ¬IsHeading level (Text.lines text) index rest := by
  intro hheading
  obtain ⟨place, n, -, hn⟩ := hheading.exists_occurrence
  have hsized := sized_lengthAt level
  exact Text.lengthAt_ne_of_leftmost hsized.pos hsized.le h place n hn

section Cut

variable {cut : Text.Cut} (h : Text.leftmost (lengthAt level) text = some cut)

include h

theorem exists_lineOf_of_leftmost : ∃ rest, '\n' ∉ rest ∧
    cut.mark = '\n' :: (lineOf level rest ++ ['\n']) ∧
    Text.lines text = Text.lines cut.before ++ lineOf level rest :: Text.lines cut.after := by
  obtain ⟨n, hn, hmark, -⟩ := Text.lengthAt_of_leftmost h
  obtain ⟨rest, hrest, hbegins, rfl⟩ := lengthAt_eq_some_iff.1 hn
  have hrest : '\n' ∉ rest := fun hmem => hrest _ hmem rfl
  have hlength : (marker level).length + rest.length + 1 =
      (marker level ++ (rest ++ ['\n'])).length := by
    simp only [List.length_append, List.length_singleton]
    omega
  rw [hlength, ← List.prefix_iff_eq_take.1 hbegins, marker_append, lineOf_append] at hmark
  refine ⟨rest, hrest, hmark, ?_⟩
  have htext : text = cut.before ++ '\n' :: (lineOf level rest ++ '\n' :: cut.after) := by
    rw [← Text.join_of_leftmost h, hmark]
    simp
  rw [htext, Text.lines_append, Text.lines_append,
    Text.lines_of_not_mem (not_mem_lineOf_iff.2 hrest)]
  rfl

theorem not_isHeading_before {index : Nat} (lt : index < (Text.lines cut.before).length)
    (rest : Text) : ¬IsHeading level (Text.lines text) index rest := by
  intro hheading
  obtain ⟨place, n, hplace, hn⟩ := hheading.exists_occurrence
  have hle := Text.before_le_of_leftmost h hn
  obtain ⟨_, -, -, hlines⟩ := exists_lineOf_of_leftmost h
  obtain ⟨behind, hbefore, -⟩ := Text.exists_behind_line (List.getElem?_eq_getElem lt)
  have hlength := congrArg List.length hbefore
  rw [hlines, List.take_append_of_le_length (Nat.le_of_lt lt)] at hplace
  rw [List.length_append] at hlength
  omega

end Cut

theorem title_lineOf (h : '\n' ∉ rest) :
    title level ('\n' :: (lineOf level rest ++ ['\n'])) = Text.trim rest := by
  have hline : ∀ c ∈ rest, (c != '\n') = true := by
    intro c hc
    rw [bne_iff_ne]
    rintro rfl
    exact h hc
  have hread : restOfLine (rest ++ ['\n']) = rest :=
    (Text.takeWhile_of_prefix hline rfl (List.prefix_refl _)).1
  rw [← lineOf_append, ← marker_append, title, List.drop_left, hread]

/-! ## Lines around a heading that is read -/

theorem getElem?_below (above : List Text) (line : Text) (below : List Text) (index : Nat) :
    (above ++ line :: below)[above.length + 1 + index]? = below[index]? := by
  rw [List.getElem?_append_right (by omega), Nat.add_assoc, Nat.add_sub_cancel_left,
    Nat.add_comm 1 index, List.getElem?_cons_succ]

theorem take_below (above : List Text) (line : Text) (below : List Text) (index : Nat) :
    (above ++ line :: below).take (above.length + 1 + index) =
      above ++ line :: below.take index := by
  rw [Nat.add_assoc, List.take_length_add_append, Nat.add_comm 1 index, List.take_succ_cons]

theorem not_isRead_of_not_isHeading {lines : List Text}
    (h : ∀ rest, ¬IsHeading level lines index rest) : ¬IsRead level lines index := by
  cases index with
  | zero => exact id
  | succ index => exact fun hread => hread.1.elim h

section Around

variable {above below : List Text} (above_ne_nil : above ≠ []) (below_ne_nil : below ≠ [])
  (first : ∀ other < above.length, ∀ title,
    ¬IsHeading level (above ++ lineOf level rest :: below) other title)

theorem isHeading_below_iff {title : Text} (pos : 0 < index) :
    IsHeading level (above ++ lineOf level rest :: below) (above.length + 1 + index) title ↔
      IsHeading level below index title := by
  have hline := getElem?_below above (lineOf level rest) below index
  have hlength : above.length + 1 + index + 1 < (above ++ lineOf level rest :: below).length ↔
      index + 1 < below.length := by
    rw [List.length_append, List.length_cons]
    omega
  constructor
  · intro h
    exact ⟨pos, hlength.1 h.followed, by rw [← hline, h.line]⟩
  · intro h
    exact ⟨Nat.lt_of_lt_of_le pos (Nat.le_add_left _ _), hlength.2 h.followed,
      by rw [hline, h.line]⟩

include above_ne_nil below_ne_nil in
theorem isHeading_middle :
    IsHeading level (above ++ lineOf level rest :: below) above.length rest where
  preceded := List.length_pos_iff.2 above_ne_nil
  followed := by
    have hpos := List.length_pos_iff.2 below_ne_nil
    rw [List.length_append, List.length_cons]
    omega
  line := by simp

include above_ne_nil below_ne_nil first in
theorem isRead_middle : IsRead level (above ++ lineOf level rest :: below) above.length := by
  have hheading : IsHeading level (above ++ lineOf level rest :: below) above.length rest :=
    isHeading_middle above_ne_nil below_ne_nil
  cases hlength : above.length with
  | zero => exact absurd (List.length_eq_zero_iff.1 hlength) above_ne_nil
  | succ other =>
      rw [hlength] at hheading
      exact ⟨⟨rest, hheading⟩, not_isRead_of_not_isHeading (first other (by omega))⟩

include above_ne_nil below_ne_nil first in
theorem isRead_below_iff :
    IsRead level (above ++ lineOf level rest :: below) (above.length + 1 + index) ↔
      IsRead level below index := by
  induction index with
  | zero =>
      refine iff_of_false ?_ id
      rintro ⟨-, hunread⟩
      exact hunread (isRead_middle above_ne_nil below_ne_nil first)
  | succ index ih =>
      exact and_congr (exists_congr fun _ => isHeading_below_iff (Nat.succ_pos index))
        (not_congr ih)

include above_ne_nil below_ne_nil first in
theorem Titled.of_below {title : Option Text} (h : Titled level below index title) :
    Titled level (above ++ lineOf level rest :: below) (above.length + 1 + index)
      (title.or (some (Text.trim rest))) := by
  have hread := isRead_middle above_ne_nil below_ne_nil first
  have hbelow : ∀ index, IsRead level (above ++ lineOf level rest :: below)
      (above.length + 1 + index) ↔ IsRead level below index :=
    fun _ => isRead_below_iff above_ne_nil below_ne_nil first
  cases h with
  | untitled unread =>
      refine .titled (by omega) (isHeading_middle above_ne_nil below_ne_nil) hread ?_
      intro other hlt hle
      obtain ⟨offset, rfl⟩ := Nat.exists_eq_add_of_le hlt
      rw [hbelow]
      exact unread offset (by omega)
  | @titled heading title le is_heading read nearest =>
      have hpos := is_heading.preceded
      refine .titled (by omega) ((isHeading_below_iff hpos).2 is_heading)
        ((hbelow heading).2 read) ?_
      intro other hlt hle
      obtain ⟨offset, rfl⟩ := Nat.exists_eq_add_of_le (by omega : above.length + 1 ≤ other)
      rw [hbelow]
      exact nearest offset (by omega) (by omega)

end Around

/-! ## Lines in pieces -/

theorem Holds.append {pieces : List Piece} {above line : Text} {piece : Piece}
    (h : Holds pieces above line piece) (front : List Piece) :
    Holds (front ++ pieces) (front.flatMap Piece.text ++ above) line piece := by
  obtain ⟨before, back, lead, trail, rfl, htext, rfl⟩ := h
  exact ⟨front ++ before, back, lead, trail, by simp, htext, by simp⟩

theorem holds_cons {pieces : List Piece} {above line trail : Text} {piece : Piece}
    (h : piece.text = above ++ (line ++ trail)) : Holds (piece :: pieces) above line piece :=
  ⟨[], pieces, above, trail, rfl, h, rfl⟩

/-- Every line with text is in a piece under its title, or else under the current one. -/
def Attributed (level : HeadingLevel) (current : Option Text) (text : Text)
    (pieces : List Piece) : Prop :=
  ∀ index line, (Text.lines text)[index]? = some line → line ≠ [] → ∃ piece title,
    Holds pieces (Text.ended ((Text.lines text).take index)) line piece ∧
      Titled level (Text.lines text) index title ∧ piece.metadata = metadata (title.or current)

theorem pieces_gapOf {gap above line behind : Text} (current : Option Text) (ne_nil : line ≠ [])
    (h : gap = above ++ (line ++ behind)) :
    pieces level current (Text.Segment.gapOf gap) =
      [{ text := gap, metadata := metadata current }] := by
  cases gap with
  | nil => simp [ne_nil] at h
  | cons c gap => rfl

theorem pieces_gapOf_append (current : Option Text) (gap : Text) (later : List Text.Segment) :
    pieces level current (Text.Segment.gapOf gap ++ later) =
      pieces level current (Text.Segment.gapOf gap) ++ pieces level current later := by
  cases gap <;> rfl

theorem flatMap_text_pieces_gapOf (level : HeadingLevel) (current : Option Text) (gap : Text) :
    (pieces level current (Text.Segment.gapOf gap)).flatMap Piece.text = gap := by
  rw [List.flatMap_def, text_pieces, ← List.flatMap_def, Text.Segment.flatMap_gapOf]

theorem attributed_of_nothing (current : Option Text)
    (h : Text.leftmost (lengthAt level) text = none) :
    Attributed level current text (pieces level current (Text.Segment.gapOf text)) := by
  intro index line hline ne_nil
  obtain ⟨behind, htext, -⟩ := Text.exists_behind_line hline
  rw [pieces_gapOf current ne_nil htext]
  refine ⟨_, none, holds_cons htext, .untitled fun other _ => ?_, rfl⟩
  exact not_isRead_of_not_isHeading (not_isHeading_of_leftmost h other)

theorem attributed_of_cut {cut : Text.Cut} {later : List Piece} (current : Option Text)
    (h : Text.leftmost (lengthAt level) text = some cut)
    (behind : Attributed level (some (title level cut.mark)) cut.after later) :
    Attributed level current text (pieces level current (Text.Segment.gapOf cut.before) ++
      { text := cut.mark, metadata := metadata (some (title level cut.mark)) } :: later) := by
  obtain ⟨rest, hrest, hmark, hlines⟩ := exists_lineOf_of_leftmost h
  have hfirst : ∀ other < (Text.lines cut.before).length, ∀ rest,
      ¬IsHeading level (Text.lines text) other rest := fun _ lt => not_isHeading_before h lt
  have hbefore : Text.lines cut.before ≠ [] := List.splitOn_ne_nil '\n' cut.before
  have hafter : Text.lines cut.after ≠ [] := List.splitOn_ne_nil '\n' cut.after
  have habove := flatMap_text_pieces_gapOf level current cut.before
  have htitle : title level cut.mark = Text.trim rest := by rw [hmark, title_lineOf hrest]
  intro index line hline ne_nil
  rw [htitle] at behind ⊢
  rw [hlines] at hline hfirst ⊢
  rcases Nat.lt_trichotomy index (Text.lines cut.before).length with hlt | rfl | hlt
  -- Above the heading line nothing is read yet.
  · rw [List.getElem?_append_left hlt] at hline
    obtain ⟨trail, htext, -⟩ := Text.exists_behind_line hline
    rw [pieces_gapOf current ne_nil htext, List.take_append_of_le_length (Nat.le_of_lt hlt)]
    refine ⟨_, none, holds_cons htext, .untitled fun other hother => ?_, rfl⟩
    exact not_isRead_of_not_isHeading (hfirst other (Nat.lt_of_le_of_lt hother hlt))
  · obtain rfl : lineOf level rest = line := by simpa using hline
    have hmarked : Holds
        ({ text := cut.mark, metadata := metadata (some (Text.trim rest)) } :: later)
        ['\n'] (lineOf level rest) _ := holds_cons hmark
    have hholds := hmarked.append (pieces level current (Text.Segment.gapOf cut.before))
    rw [habove] at hholds
    rw [List.take_left, Text.ended_lines]
    refine ⟨_, _, hholds, .titled (Nat.le_refl _) (isHeading_middle hbefore hafter)
      (isRead_middle hbefore hafter hfirst) fun other hlt hle => ?_, rfl⟩
    omega
  -- Its mark takes the line end behind it along, so the next line is a first line again.
  · obtain ⟨offset, rfl⟩ := Nat.exists_eq_add_of_le (Nat.succ_le_of_lt hlt)
    rw [Nat.succ_eq_add_one, getElem?_below] at hline
    obtain ⟨piece, title, hholds, htitled, hmetadata⟩ := behind offset line hline ne_nil
    have hplace := (hholds.append [{
      text := cut.mark, metadata := metadata (some (Text.trim rest)) }]).append
        (pieces level current (Text.Segment.gapOf cut.before))
    rw [habove, List.flatMap_singleton, hmark] at hplace
    rw [Nat.succ_eq_add_one, take_below, Text.ended_append, Text.ended_lines, Text.ended_cons,
      hmark]
    refine ⟨piece, _, ?_, htitled.of_below hbefore hafter hfirst, ?_⟩
    · simpa using hplace
    · rw [Option.or_assoc, Option.some_or]
      exact hmetadata

theorem attributed_pieces (level : HeadingLevel) (current : Option Text) (text : Text) :
    Attributed level current text
      (pieces level current (Text.segments (fun _ ahead => lengthAt level ahead) text)) := by
  have hpos : ∀ {text n}, lengthAt level text = some n → 0 < n := (sized_lengthAt level).pos
  induction hlength : text.length using Nat.strongRecOn generalizing current text with
  | ind length ih =>
      rw [Text.segments_eq_leftmost hpos]
      cases hleftmost : Text.leftmost (lengthAt level) text with
      | none => exact attributed_of_nothing current hleftmost
      | some cut =>
          have hshorter := Text.length_after_lt_of_leftmost hpos hleftmost
          rw [hlength] at hshorter
          have hbehind := ih _ hshorter (some (title level cut.mark)) cut.after rfl
          dsimp only
          rw [pieces_gapOf_append]
          exact attributed_of_cut current hleftmost hbehind

theorem isRead_iff_of_apart {lines : List Text}
    (apart : ∀ index rest other, IsHeading level lines index rest →
      ¬IsHeading level lines (index + 1) other) (index : Nat) :
    IsRead level lines index ↔ ∃ rest, IsHeading level lines index rest := by
  cases index with
  | zero =>
      refine iff_of_false id ?_
      rintro ⟨rest, hheading⟩
      exact Nat.lt_irrefl 0 hheading.preceded
  | succ index =>
      refine and_iff_left_of_imp ?_
      rintro ⟨rest, hheading⟩
      refine not_isRead_of_not_isHeading fun other hother => ?_
      exact apart index other rest hother hheading

end Heading

namespace Boundary

/--
Every line with text is in a piece under the title of the nearest heading that is read, at the
line or above it, and in one without metadata if there is none.  A heading line is passed over
where the line above it is a heading that is read; where no two stand next to each other, all are
read.
-/
theorem split_titles_lines (level : HeadingLevel) (text : Text) (first : Nat) :
    ∃ pieces last, (heading level).split text first = .ok pieces last ∧
      (∀ index line, (Text.lines text)[index]? = some line → line ≠ [] → ∃ piece title,
        Heading.Holds (pieces.map Chunk.toPiece)
            (Text.ended ((Text.lines text).take index)) line piece ∧
          Heading.Titled level (Text.lines text) index title ∧
          piece.metadata = Heading.metadata title) ∧
      ((∀ index rest other, Heading.IsHeading level (Text.lines text) index rest →
          ¬Heading.IsHeading level (Text.lines text) (index + 1) other) →
        ∀ index, Heading.IsRead level (Text.lines text) index ↔
          ∃ rest, Heading.IsHeading level (Text.lines text) index rest) := by
  refine ⟨_, _, split_of_closed rfl first, ?_, Heading.isRead_iff_of_apart⟩
  intro index line hline ne_nil
  obtain ⟨piece, title, hholds, htitled, hmetadata⟩ :=
    Heading.attributed_pieces level none text index line hline ne_nil
  rw [Option.or_none] at hmetadata
  rw [Chunk.toPiece_consecutive]
  exact ⟨piece, title, hholds, htitled, hmetadata⟩

def adjacentHeadings : Text :=
  "\n# a\n# b\n".toList

/-- The second line is a heading line, but no piece is under its title. -/
theorem split_passes_over_heading :
    Heading.IsHeading ⟨1, by decide, by decide⟩ (Text.lines adjacentHeadings) 2 ['b'] ∧
      ∃ pieces last,
        (heading ⟨1, by decide, by decide⟩).split adjacentHeadings 0 = .ok pieces last ∧
        ∀ piece ∈ pieces, piece.metadata ≠ Heading.metadata (some (Text.trim ['b'])) := by
  refine ⟨⟨by decide, by decide +kernel, by decide +kernel⟩, _, _, split_of_closed rfl 0, ?_⟩
  decide +kernel

end Boundary

end Chunking
