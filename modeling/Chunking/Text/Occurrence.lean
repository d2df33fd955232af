import Chunking.Text.Basic

/-!
# Occurrences

A recognizer tells how long an occurrence is that starts at a given place.  From
it come the leftmost occurrence in a text and the division of the whole text into
marks, the occurrences that follow one another, and the gaps between them.
-/

namespace Chunking.Text

/--
The length of the occurrence that starts at the front of a text.  The character
before that place, if there is one, may matter too.
-/
abbrev Recognizer := Option Char → Text → Option Nat

def word (letters : Text) : Recognizer := fun _ text =>
  if letters.isPrefixOf text then some letters.length else none

/-! ## Marks and gaps -/

inductive Segment where
  | gap (text : Text)
  | mark (text : Text)
deriving DecidableEq

namespace Segment

def text : Segment → Text
  | gap text => text
  | mark text => text

def gapOf : Text → List Segment
  | [] => []
  | c :: rest => [gap (c :: rest)]

@[simp] theorem flatten_gapOf (text : Text) : ((gapOf text).map Segment.text).flatten = text := by
  cases text <;> simp [gapOf, Segment.text]

end Segment

/--
The running gap up to the next cut, and the segments after it.  An occurrence
without length only ends the running gap.
-/
def segmentsFrom (recognizer : Recognizer) (before : Option Char) (text : Text) :
    Text × List Segment :=
  match text with
  | [] => ([], [])
  | c :: rest =>
      match recognizer before (c :: rest) with
      | none =>
          let (gap, later) := segmentsFrom recognizer (some c) rest
          (c :: gap, later)
      | some 0 =>
          let (gap, later) := segmentsFrom recognizer (some c) rest
          ([], .gap (c :: gap) :: later)
      | some (n + 1) =>
          let mark := c :: rest.take n
          let (gap, later) := segmentsFrom recognizer mark.getLast? (rest.drop n)
          ([], .mark mark :: Segment.gapOf gap ++ later)
termination_by text.length
decreasing_by
  all_goals simp only [List.length_cons, List.length_drop]
  all_goals omega

def segments (recognizer : Recognizer) (text : Text) : List Segment :=
  let (gap, later) := segmentsFrom recognizer none text
  Segment.gapOf gap ++ later

theorem segmentsFrom_join (recognizer : Recognizer) (before : Option Char) (text : Text) :
    (segmentsFrom recognizer before text).1 ++
      ((segmentsFrom recognizer before text).2.map Segment.text).flatten = text := by
  fun_induction segmentsFrom recognizer before text with
  | case1 => rfl
  | case2 before c rest hnone gap later heq ih => simpa [heq] using ih
  | case3 before c rest hzero gap later heq ih =>
      rw [heq] at ih
      simpa [Segment.text] using ih
  | case4 before c rest n hsome mark gap later heq ih =>
      rw [heq] at ih
      simp only [List.nil_append, List.cons_append, List.map_cons, List.map_append,
        List.flatten_cons, List.flatten_append, Segment.flatten_gapOf, Segment.text, mark]
      rw [ih, List.take_append_drop]

theorem flatten_segments (recognizer : Recognizer) (text : Text) :
    ((segments recognizer text).map Segment.text).flatten = text := by
  have h := segmentsFrom_join recognizer none text
  simpa [segments] using h

theorem ne_nil_of_mem_gapOf {text : Text} {segment : Segment}
    (h : segment ∈ Segment.gapOf text) : segment.text ≠ [] := by
  cases text with
  | nil => simp [Segment.gapOf] at h
  | cons c rest =>
      simp only [Segment.gapOf, List.mem_singleton] at h
      simp [h, Segment.text]

theorem ne_nil_of_mem_segmentsFrom {recognizer : Recognizer} {before : Option Char} {text : Text}
    {segment : Segment} (h : segment ∈ (segmentsFrom recognizer before text).2) :
    segment.text ≠ [] := by
  fun_induction segmentsFrom recognizer before text with
  | case1 => simp at h
  | case2 before c rest hnone gap later heq ih =>
      rw [heq] at ih
      exact ih h
  | case3 before c rest hzero gap later heq ih =>
      rw [heq] at ih
      rcases List.mem_cons.1 h with rfl | h
      · simp [Segment.text]
      · exact ih h
  | case4 before c rest n hsome mark gap later heq ih =>
      rw [heq] at ih
      rcases List.mem_cons.1 h with rfl | h
      · simp [Segment.text, mark]
      · rcases List.mem_append.1 h with h | h
        · exact ne_nil_of_mem_gapOf h
        · exact ih h

theorem ne_nil_of_mem_segments {recognizer : Recognizer} {text : Text} {segment : Segment}
    (h : segment ∈ segments recognizer text) : segment.text ≠ [] := by
  rcases List.mem_append.1 h with h | h
  · exact ne_nil_of_mem_gapOf h
  · exact ne_nil_of_mem_segmentsFrom h

/-! ## The leftmost occurrence -/

structure Cut where
  before : Text
  mark : Text
  after : Text
deriving DecidableEq

/-- The leftmost occurrence that starts at a character, with the text around it. -/
def leftmost (lengthAt : Text → Option Nat) : Text → Option Cut
  | [] => none
  | c :: rest =>
      match lengthAt (c :: rest) with
      | some n => some ⟨[], (c :: rest).take n, (c :: rest).drop n⟩
      | none => (leftmost lengthAt rest).map fun cut => { cut with before := c :: cut.before }

theorem join_of_leftmost {lengthAt : Text → Option Nat} {text : Text} {cut : Cut}
    (h : leftmost lengthAt text = some cut) : cut.before ++ cut.mark ++ cut.after = text := by
  induction text generalizing cut with
  | nil => simp [leftmost] at h
  | cons c rest ih =>
      simp only [leftmost] at h
      split at h
      · cases h
        simp
      · obtain ⟨inner, hinner, rfl⟩ := Option.map_eq_some_iff.1 h
        have := ih hinner
        simp_all

theorem length_after_le_of_leftmost {lengthAt : Text → Option Nat} {text : Text} {cut : Cut}
    (h : leftmost lengthAt text = some cut) : cut.after.length ≤ text.length := by
  rw [← join_of_leftmost h]
  simp only [List.length_append]
  omega

theorem length_after_lt_of_leftmost {lengthAt : Text → Option Nat} {text : Text} {cut : Cut}
    (pos : ∀ {t n}, lengthAt t = some n → 0 < n) (h : leftmost lengthAt text = some cut) :
    cut.after.length < text.length := by
  induction text generalizing cut with
  | nil => simp [leftmost] at h
  | cons c rest ih =>
      simp only [leftmost] at h
      split at h
      · next n hn =>
          cases h
          have := pos hn
          simp only [List.length_drop, List.length_cons]
          omega
      · obtain ⟨inner, hinner, rfl⟩ := Option.map_eq_some_iff.1 h
        have := ih hinner
        simp only [List.length_cons]
        omega

theorem lengthAt_of_leftmost {lengthAt : Text → Option Nat} {text : Text} {cut : Cut}
    (h : leftmost lengthAt text = some cut) :
    ∃ n, lengthAt (text.drop cut.before.length) = some n ∧
      cut.mark = (text.drop cut.before.length).take n ∧
      cut.after = (text.drop cut.before.length).drop n := by
  induction text generalizing cut with
  | nil => simp [leftmost] at h
  | cons c rest ih =>
      simp only [leftmost] at h
      split at h
      · next n hn =>
          cases h
          exact ⟨n, by simpa using hn, rfl, rfl⟩
      · obtain ⟨inner, hinner, rfl⟩ := Option.map_eq_some_iff.1 h
        obtain ⟨n, hn, hmark, hafter⟩ := ih hinner
        exact ⟨n, by simpa using hn, by simpa using hmark, by simpa using hafter⟩

end Chunking.Text
