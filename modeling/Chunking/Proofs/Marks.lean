import Chunking.Proofs.Fences

/-!
# Marks

The occurrences that a scan of a text comes upon, from its front and without looking back.
A scan can be cut wherever no occurrence lies across: both parts, each on its own, are scanned
as they are within the whole.
-/

namespace Chunking.Text

/-- A scan of the text from its front comes upon an occurrence of length `n` at `start`. -/
inductive MarkAt (lengthAt : Text → Option Nat) : Text → Nat → Nat → Prop
  | here {text n} (found : lengthAt text = some n) : MarkAt lengthAt text 0 n
  | skip {c rest start n} (nothing : lengthAt (c :: rest) = none)
      (later : MarkAt lengthAt rest start n) : MarkAt lengthAt (c :: rest) (start + 1) n
  | pass {text m start n} (found : lengthAt text = some m)
      (later : MarkAt lengthAt (text.drop m) start n) : MarkAt lengthAt text (m + start) n

/-- No occurrence that the scan comes upon lies across the position. -/
def Clear (lengthAt : Text → Option Nat) (text : Text) (position : Nat) : Prop :=
  ∀ start n, MarkAt lengthAt text start n → position ≤ start ∨ start + n ≤ position

/-- An occurrence has text, is all there, and stays one whatever comes behind it. -/
structure Sized (lengthAt : Text → Option Nat) : Prop where
  pos : ∀ {text n}, lengthAt text = some n → 0 < n
  le : ∀ {text n}, lengthAt text = some n → n ≤ text.length
  none_of_append : ∀ {text behind}, lengthAt (text ++ behind) = none → lengthAt text = none

/-- An occurrence is one as well in every part of the text that holds all of it. -/
structure Steady (lengthAt : Text → Option Nat) : Prop extends Sized lengthAt where
  some_of_append : ∀ {text behind n}, lengthAt (text ++ behind) = some n → n ≤ text.length →
    lengthAt text = some n

variable {lengthAt : Text → Option Nat} {text first second : Text} {start position n m : Nat}

theorem MarkAt.found (h : MarkAt lengthAt text start n) :
    lengthAt (text.drop start) = some n := by
  induction h with
  | here found => exact found
  | skip _ _ ih => exact ih
  | pass _ _ ih => rwa [List.drop_drop] at ih

theorem markAt_cons_iff {c : Char} {rest : Text} (nothing : lengthAt (c :: rest) = none) :
    MarkAt lengthAt (c :: rest) start n ↔
      ∃ later, start = later + 1 ∧ MarkAt lengthAt rest later n := by
  constructor
  · generalize htext : c :: rest = text at nothing
    intro h
    cases h with
    | here found =>
        rw [nothing] at found
        cases found
    | skip _ later =>
        cases htext
        exact ⟨_, rfl, later⟩
    | pass found =>
        rw [nothing] at found
        cases found
  · rintro ⟨later, rfl, h⟩
    exact .skip nothing h

theorem markAt_iff_of_found (found : lengthAt text = some m) :
    MarkAt lengthAt text start n ↔
      start = 0 ∧ n = m ∨ ∃ later, start = m + later ∧ MarkAt lengthAt (text.drop m) later n := by
  constructor
  · intro h
    cases h with
    | here other =>
        rw [found, Option.some.injEq] at other
        exact .inl ⟨rfl, other.symm⟩
    | skip nothing =>
        rw [found] at nothing
        cases nothing
    | pass other later =>
        rw [found, Option.some.injEq] at other
        subst other
        exact .inr ⟨_, rfl, later⟩
  · rintro (⟨rfl, rfl⟩ | ⟨later, rfl, h⟩)
    · exact .here found
    · exact .pass found h

namespace Sized

theorem pos_of_markAt (sized : Sized lengthAt) (h : MarkAt lengthAt text start n) : 0 < n :=
  sized.pos h.found

theorem le_of_markAt (sized : Sized lengthAt) (h : MarkAt lengthAt text start n) :
    start + n ≤ text.length := by
  have hle := sized.le h.found
  have hpos := sized.pos h.found
  rw [List.length_drop] at hle
  omega

theorem not_markAt_nil (sized : Sized lengthAt) : ¬MarkAt lengthAt [] start n := by
  intro h
  have hle := sized.le_of_markAt h
  have hpos := sized.pos_of_markAt h
  rw [List.length_nil] at hle
  omega

end Sized

/-! ## Cutting a scan -/

/-- A scan of the text in front of `ahead` comes to where `ahead` begins. -/
inductive Reaches (lengthAt : Text → Option Nat) (ahead : Text) : Text → Prop
  | done : Reaches lengthAt ahead []
  | skip {c rest} (nothing : lengthAt (c :: (rest ++ ahead)) = none)
      (later : Reaches lengthAt ahead rest) : Reaches lengthAt ahead (c :: rest)
  | pass {mark rest} (found : lengthAt (mark ++ (rest ++ ahead)) = some mark.length)
      (later : Reaches lengthAt ahead rest) : Reaches lengthAt ahead (mark ++ rest)

theorem reaches_of_clear (sized : Sized lengthAt)
    (clear : Clear lengthAt (first ++ second) first.length) : Reaches lengthAt second first := by
  induction hlength : first.length using Nat.strongRecOn generalizing first with
  | ind length ih =>
      subst hlength
      cases first with
      | nil => exact .done
      | cons c rest =>
          cases hfound : lengthAt (c :: rest ++ second) with
          | none =>
              refine .skip hfound (ih rest.length (Nat.lt_succ_self _) ?_ rfl)
              intro start n h
              have hclear := clear (start + 1) n (.skip hfound h)
              rw [List.length_cons] at hclear
              omega
          | some n =>
              have hpos := sized.pos hfound
              have hle : n ≤ (c :: rest).length := by
                rcases clear 0 n (.here hfound) with hzero | hle
                · cases hzero
                · omega
              have hdrop : (c :: rest ++ second).drop n = (c :: rest).drop n ++ second :=
                List.drop_append_of_le_length hle
              have hlength : ((c :: rest).take n).length = n := List.length_take_of_le hle
              rw [← List.take_append_drop n (c :: rest)]
              refine .pass ?_ (ih _ ?_ ?_ rfl)
              · rw [← List.append_assoc, List.take_append_drop, hlength]
                exact hfound
              · rw [List.length_drop]
                omega
              · intro start m h
                rw [← hdrop] at h
                have hclear := clear (n + start) m (.pass hfound h)
                rw [List.length_drop]
                omega

theorem markAt_behind_iff (sized : Sized lengthAt) (h : Reaches lengthAt second first) :
    MarkAt lengthAt second start n ↔
      MarkAt lengthAt (first ++ second) (first.length + start) n := by
  induction h with
  | done => simp
  | @skip c rest nothing _ ih =>
      rw [List.cons_append, markAt_cons_iff nothing, ih]
      constructor
      · intro h
        exact ⟨rest.length + start, by rw [List.length_cons]; omega, h⟩
      · rintro ⟨later, hstart, h⟩
        rw [List.length_cons] at hstart
        rwa [show later = rest.length + start by omega] at h
  | @pass mark rest found _ ih =>
      have hpos := sized.pos found
      rw [List.append_assoc, markAt_iff_of_found found, List.drop_left, ih, List.length_append]
      constructor
      · intro h
        exact .inr ⟨rest.length + start, by omega, h⟩
      · rintro (⟨hzero, -⟩ | ⟨later, hstart, h⟩)
        · omega
        · rwa [show later = rest.length + start by omega] at h

theorem markAt_before_iff (steady : Steady lengthAt) (h : Reaches lengthAt second first) :
    MarkAt lengthAt first start n ↔
      MarkAt lengthAt (first ++ second) start n ∧ start + n ≤ first.length := by
  induction h generalizing start with
  | done =>
      refine iff_of_false steady.toSized.not_markAt_nil ?_
      rintro ⟨h, hle⟩
      have hpos := steady.toSized.pos_of_markAt h
      rw [List.length_nil] at hle
      omega
  | @skip c rest nothing _ ih =>
      have hnothing : lengthAt (c :: rest) = none := steady.none_of_append nothing
      rw [List.cons_append, markAt_cons_iff nothing, markAt_cons_iff hnothing, List.length_cons]
      simp only [ih]
      constructor
      · rintro ⟨later, rfl, h, hle⟩
        exact ⟨⟨later, rfl, h⟩, by omega⟩
      · rintro ⟨⟨later, rfl, h⟩, hle⟩
        exact ⟨later, rfl, h, by omega⟩
  | @pass mark rest found _ ih =>
      have hfound : lengthAt (mark ++ rest) = some mark.length := by
        rw [← List.append_assoc] at found
        exact steady.some_of_append found (by simp)
      rw [List.append_assoc, markAt_iff_of_found found, markAt_iff_of_found hfound,
        List.drop_left, List.drop_left, List.length_append]
      simp only [ih]
      constructor
      · rintro (⟨rfl, rfl⟩ | ⟨later, rfl, h, hle⟩)
        · exact ⟨.inl ⟨rfl, rfl⟩, by omega⟩
        · exact ⟨.inr ⟨later, rfl, h⟩, by omega⟩
      · rintro ⟨⟨rfl, rfl⟩ | ⟨later, rfl, h⟩, hle⟩
        · exact .inl ⟨rfl, rfl⟩
        · exact .inr ⟨later, rfl, h, by omega⟩

theorem markAt_middle_iff (steady : Steady lengthAt) {before middle behind : Text}
    (clear_front : Clear lengthAt (before ++ (middle ++ behind)) before.length)
    (clear_back : Clear lengthAt (before ++ (middle ++ behind)) (before.length + middle.length)) :
    MarkAt lengthAt middle start n ↔
      MarkAt lengthAt (before ++ (middle ++ behind)) (before.length + start) n ∧
        start + n ≤ middle.length := by
  have hfront : ∀ start n, MarkAt lengthAt (middle ++ behind) start n ↔
      MarkAt lengthAt (before ++ (middle ++ behind)) (before.length + start) n :=
    fun _ _ => markAt_behind_iff steady.toSized (reaches_of_clear steady.toSized clear_front)
  have hback : Clear lengthAt (middle ++ behind) middle.length := by
    intro start n h
    have hclear := clear_back _ _ ((hfront start n).1 h)
    omega
  rw [markAt_before_iff steady (reaches_of_clear steady.toSized hback), hfront]

/-! ## Marks among segments -/

namespace Segment

theorem flatMap_gapOf (gap : Text) : (gapOf gap).flatMap Segment.text = gap := by
  rw [List.flatMap_def, flatten_gapOf]

theorem exists_of_gapOf_append {gap block : Text} {later before after : List Segment}
    (h : gapOf gap ++ later = before ++ mark block :: after) :
    ∃ rest, later = rest ++ mark block :: after ∧
      (before.flatMap Segment.text).length =
        gap.length + (rest.flatMap Segment.text).length := by
  cases gap with
  | nil => exact ⟨before, h, (Nat.zero_add _).symm⟩
  | cons c gap =>
      cases before with
      | nil => cases h
      | cons head rest =>
          simp only [gapOf, List.cons_append, List.nil_append, List.cons.injEq] at h
          obtain ⟨rfl, hlater⟩ := h
          refine ⟨rest, hlater, ?_⟩
          rw [List.flatMap_cons, List.length_append]
          rfl

end Segment

section Segments

variable {before after : List Segment} {block : Text}

theorem markAt_of_segmentsFrom (sized : Sized lengthAt) (previous : Option Char) (text : Text) :
    ∀ {before}, (segmentsFrom (fun _ ahead => lengthAt ahead) previous text).2 =
        before ++ .mark block :: after →
      MarkAt lengthAt text
        ((segmentsFrom (fun _ ahead => lengthAt ahead) previous text).1.length +
          (before.flatMap Segment.text).length) block.length := by
  fun_induction segmentsFrom (fun _ ahead => lengthAt ahead) previous text with
  | case1 => simp
  | case2 previous c rest hnone gap later heq ih =>
      intro before h
      rw [heq] at ih
      have hlater := MarkAt.skip hnone (ih h)
      rwa [Nat.add_right_comm] at hlater
  | case3 previous c rest hzero => exact absurd (sized.pos hzero) (Nat.lt_irrefl 0)
  | case4 =>
      rename_i previous c rest n hsome mark gap later heq ih
      rw [heq] at ih
      have hlength : mark.length = n + 1 := by
        have hle := sized.le hsome
        rw [List.length_cons] at hle
        simp only [mark, List.length_cons, List.length_take]
        omega
      intro before h
      rw [List.length_nil, Nat.zero_add]
      cases before with
      | nil =>
          simp only [List.cons_append, List.nil_append, List.cons.injEq,
            Segment.mark.injEq] at h
          rw [← h.1, hlength]
          exact .here hsome
      | cons head before =>
          simp only [List.cons_append, List.cons.injEq] at h
          obtain ⟨rfl, h⟩ := h
          obtain ⟨middle, hlater, hmiddle⟩ := Segment.exists_of_gapOf_append h
          rw [List.flatMap_cons, List.length_append, Segment.text, hlength, hmiddle]
          exact .pass hsome (ih hlater)

theorem exists_segmentsFrom_of_markAt (sized : Sized lengthAt) (previous : Option Char)
    (text : Text) : ∀ {start}, MarkAt lengthAt text start n →
      ∃ before block after, (segmentsFrom (fun _ ahead => lengthAt ahead) previous text).2 =
          before ++ .mark block :: after ∧
        start = (segmentsFrom (fun _ ahead => lengthAt ahead) previous text).1.length +
          (before.flatMap Segment.text).length ∧ n = block.length := by
  fun_induction segmentsFrom (fun _ ahead => lengthAt ahead) previous text with
  | case1 => exact fun h => absurd h sized.not_markAt_nil
  | case2 previous c rest hnone gap later heq ih =>
      intro start h
      rw [heq] at ih
      obtain ⟨ahead, rfl, hahead⟩ := (markAt_cons_iff hnone).1 h
      obtain ⟨before, block, after, hlater, rfl, rfl⟩ := ih hahead
      exact ⟨before, block, after, hlater, Nat.add_right_comm _ _ _, rfl⟩
  | case3 previous c rest hzero => exact absurd (sized.pos hzero) (Nat.lt_irrefl 0)
  | case4 =>
      rename_i previous c rest k hsome mark gap later heq ih
      rw [heq] at ih
      have hlength : mark.length = k + 1 := by
        have hle := sized.le hsome
        rw [List.length_cons] at hle
        simp only [mark, List.length_cons, List.length_take]
        omega
      intro start h
      rcases (markAt_iff_of_found hsome).1 h with ⟨rfl, rfl⟩ | ⟨ahead, rfl, hahead⟩
      · exact ⟨[], mark, _, rfl, rfl, hlength.symm⟩
      · obtain ⟨before, block, after, rfl, rfl, rfl⟩ := ih hahead
        refine ⟨.mark mark :: Segment.gapOf gap ++ before, block, after, by simp, ?_, rfl⟩
        rw [List.flatMap_append, List.flatMap_cons, Segment.flatMap_gapOf, List.length_append,
          List.length_append, Segment.text, hlength, List.length_nil, Nat.zero_add, Nat.add_assoc]

/-- The marks among the segments of a text are what a scan of the text comes upon. -/
theorem markAt_of_segments (sized : Sized lengthAt)
    (h : segments (fun _ ahead => lengthAt ahead) text = before ++ .mark block :: after) :
    MarkAt lengthAt text (before.flatMap Segment.text).length block.length := by
  obtain ⟨rest, hlater, hlength⟩ := Segment.exists_of_gapOf_append h
  rw [hlength]
  exact markAt_of_segmentsFrom sized none text hlater

theorem exists_segments_of_markAt (sized : Sized lengthAt) (h : MarkAt lengthAt text start n) :
    ∃ before block after, segments (fun _ ahead => lengthAt ahead) text =
        before ++ .mark block :: after ∧
      start = (before.flatMap Segment.text).length ∧ n = block.length := by
  obtain ⟨before, block, after, hlater, rfl, rfl⟩ := exists_segmentsFrom_of_markAt sized none text h
  refine ⟨Segment.gapOf (segmentsFrom (fun _ ahead => lengthAt ahead) none text).1 ++ before,
    block, after, ?_, ?_, rfl⟩
  · rw [List.append_assoc, ← hlater]
    rfl
  · rw [List.flatMap_append, Segment.flatMap_gapOf, List.length_append]

theorem exists_mark_at_seam (sized : Sized lengthAt)
    (h : segments (fun _ ahead => lengthAt ahead) text = before ++ after) :
    before = [] ∨ after = [] ∨ ∃ start n, MarkAt lengthAt text start n ∧
      ((before.flatMap Segment.text).length = start ∨
        (before.flatMap Segment.text).length = start + n) := by
  rcases List.eq_nil_or_concat before with rfl | ⟨init, last, rfl⟩
  · exact .inl rfl
  · cases after with
    | nil => exact .inr (.inl rfl)
    | cons head tail =>
        refine .inr (.inr ?_)
        rw [List.concat_eq_append] at h ⊢
        have hapart : (segments (fun _ ahead => lengthAt ahead) text).IsChain _ :=
          (alternates_segments sized.pos sized.none_of_append text).apart
        rw [h, List.append_assoc, List.isChain_append] at hapart
        have hmark : last.IsMark ∨ head.IsMark := (List.isChain_cons_cons.1 hapart.2.1).1
        rw [List.flatMap_append, List.flatMap_singleton, List.length_append]
        rcases hmark with hlast | hhead
        · cases last with
          | gap => cases hlast
          | mark block =>
              rw [List.append_assoc] at h
              exact ⟨_, _, markAt_of_segments sized h, .inr rfl⟩
        · cases head with
          | gap => cases hhead
          | mark block =>
              have hmark := markAt_of_segments sized h
              rw [List.flatMap_append, List.flatMap_singleton, List.length_append] at hmark
              exact ⟨_, _, hmark, .inl rfl⟩

end Segments

end Chunking.Text
