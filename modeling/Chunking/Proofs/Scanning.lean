import Chunking.Text.Occurrence

/-!
# Scanning

What it means to scan a text from a position on, said by positions alone: the first opening
there is taken, it ends somewhere, and the scan goes on behind it.  The leftmost occurrence in
the rest of a text is the first that lies there, so the segments of a text are what a scan comes
upon and what it passes over.
-/

namespace Chunking.Text

/-! ## Scans by position -/

structure Extent where
  start : Nat
  stop : Nat
deriving DecidableEq

/-- Of what lies at a position or behind it, this begins first. -/
structure First (lies : Nat → Nat → Prop) (place start stop : Nat) : Prop where
  le : place ≤ start
  found : lies start stop
  earliest : ∀ {other stop}, place ≤ other → lies other stop → start ≤ other

/-- What a scan from a position on comes upon: from each first opening to where it ends. -/
inductive Scans (opens ends : Nat → Nat → Prop) : Nat → List Extent → Prop
  | rest {place} (nothing : ∀ start opened, place ≤ start → ¬opens start opened) :
      Scans opens ends place []
  | found {place start opened stop extents} (first : First opens place start opened)
      (ended : ends opened stop) (later : Scans opens ends stop extents) :
      Scans opens ends place (⟨start, stop⟩ :: extents)

/-- A scan from a position on comes upon an opening that does not end. -/
inductive Stuck (opens ends : Nat → Nat → Prop) : Nat → Prop
  | endless {place start opened} (first : First opens place start opened)
      (endless : ∀ stop, ¬ends opened stop) : Stuck opens ends place
  | later {place start opened stop} (first : First opens place start opened)
      (ended : ends opened stop) (later : Stuck opens ends stop) : Stuck opens ends place

def Functional (lies : Nat → Nat → Prop) : Prop :=
  ∀ start stop other, lies start stop → lies start other → stop = other

section Scans

variable {lies opens ends : Nat → Nat → Prop} {place start stop : Nat}

theorem First.unique (functional : Functional lies) (h : First lies place start stop)
    {start' stop' : Nat} (h' : First lies place start' stop') : start = start' ∧ stop = stop' := by
  have hstart : start = start' :=
    Nat.le_antisymm (h.earliest h'.le h'.found) (h'.earliest h.le h.found)
  subst hstart
  exact ⟨rfl, functional _ _ _ h.found h'.found⟩

theorem First.congr {other : Nat → Nat → Prop} (h : First lies place start stop)
    (lies_iff : ∀ {start stop}, lies start stop ↔ other start stop) :
    First other place start stop := by
  constructor
  · exact h.le
  · exact lies_iff.1 h.found
  · intro start stop hle hother
    exact h.earliest hle (lies_iff.2 hother)

theorem Scans.unique (hopens : Functional opens) (hends : Functional ends) {extents : List Extent}
    (h : Scans opens ends place extents) {others : List Extent}
    (h' : Scans opens ends place others) : extents = others := by
  induction h generalizing others with
  | rest nothing =>
      cases h' with
      | rest => rfl
      | found first => exact absurd first.found (nothing _ _ first.le)
  | found first ended _ ih =>
      cases h' with
      | rest nothing => exact absurd first.found (nothing _ _ first.le)
      | found first' ended' later' =>
          obtain ⟨rfl, rfl⟩ := first.unique hopens first'
          obtain rfl := hends _ _ _ ended ended'
          rw [ih later']

theorem Scans.iff_eq (hopens : Functional opens) (hends : Functional ends) {extents : List Extent}
    (h : Scans opens ends place extents) (others : List Extent) :
    Scans opens ends place others ↔ others = extents := by
  constructor
  · intro hothers
    exact hothers.unique hopens hends h
  · rintro rfl
    exact h

theorem Scans.not_stuck (hopens : Functional opens) (hends : Functional ends)
    {extents : List Extent} (h : Scans opens ends place extents) : ¬Stuck opens ends place := by
  induction h with
  | rest nothing =>
      intro hstuck
      cases hstuck with
      | endless first => exact nothing _ _ first.le first.found
      | later first => exact nothing _ _ first.le first.found
  | found first ended _ ih =>
      intro hstuck
      cases hstuck with
      | endless first' endless =>
          obtain ⟨rfl, rfl⟩ := first.unique hopens first'
          exact endless _ ended
      | later first' ended' later =>
          obtain ⟨rfl, rfl⟩ := first.unique hopens first'
          obtain rfl := hends _ _ _ ended ended'
          exact ih later

end Scans

/-! ## Occurrences by position -/

theorem extract_append_extract (text : Text) {start middle stop : Nat} (hstart : start ≤ middle)
    (hstop : middle ≤ stop) :
    text.extract start middle ++ text.extract middle stop = text.extract start stop := by
  have hlength : stop - start = middle - start + (stop - middle) := by omega
  have hdrop : text.drop middle = (text.drop start).drop (middle - start) := by
    rw [List.drop_drop, Nat.add_sub_cancel' hstart]
  rw [List.extract_eq_take_drop, List.extract_eq_take_drop, List.extract_eq_take_drop, hlength,
    List.take_add, hdrop]

theorem extract_eq_of_prefix {text letters : Text} {start : Nat} (h : letters <+: text.drop start) :
    text.extract start (start + letters.length) = letters := by
  rw [List.extract_eq_take_drop, Nat.add_sub_cancel_left, ← List.prefix_iff_eq_take.1 h]

/-- An occurrence begins at one position and ends at the other. -/
def Occurs (lengthAt : Text → Option Nat) (text : Text) (start stop : Nat) : Prop :=
  ∃ n, lengthAt (text.drop start) = some n ∧ stop = start + n

theorem functional_of_occurs {lengthAt : Text → Option Nat} {text : Text}
    {lies : Nat → Nat → Prop}
    (lies_iff : ∀ {start stop}, lies start stop ↔ Occurs lengthAt text start stop) :
    Functional lies := by
  intro start stop other h h'
  obtain ⟨n, hn, rfl⟩ := lies_iff.1 h
  obtain ⟨m, hm, rfl⟩ := lies_iff.1 h'
  rw [hn, Option.some.injEq] at hm
  rw [hm]

structure Cut.IsAt (cut : Cut) (text : Text) (place start stop : Nat) : Prop where
  before_eq : cut.before = text.extract place start
  mark_eq : cut.mark = text.extract start stop
  after_eq : cut.after = text.drop stop
  le : stop ≤ text.length

section Leftmost

variable {lengthAt : Text → Option Nat} {text : Text} {place : Nat}

theorem before_le_of_leftmost {cut : Cut} (h : leftmost lengthAt text = some cut) {offset n : Nat}
    (hn : lengthAt (text.drop offset) = some n) : cut.before.length ≤ offset := by
  induction text generalizing cut offset with
  | nil => cases h
  | cons c rest ih =>
      simp only [leftmost] at h
      split at h
      · cases h
        exact Nat.zero_le offset
      · next hhere =>
          obtain ⟨inner, hinner, rfl⟩ := Option.map_eq_some_iff.1 h
          cases offset with
          | zero => simp [hhere] at hn
          | succ offset => exact Nat.succ_le_succ (ih hinner hn)

variable (pos : ∀ {text n}, lengthAt text = some n → 0 < n)
  (le : ∀ {text n}, lengthAt text = some n → n ≤ text.length)

include pos le

theorem lengthAt_ne_of_leftmost (h : leftmost lengthAt text = none) (offset n : Nat) :
    lengthAt (text.drop offset) ≠ some n := by
  induction text generalizing offset with
  | nil =>
      intro hn
      have hpos := pos hn
      have hle := le hn
      simp at hle
      omega
  | cons c rest ih =>
      intro hn
      simp only [leftmost] at h
      split at h
      · cases h
      · next hhere =>
          cases offset with
          | zero => simp [hhere] at hn
          | succ offset => exact ih (Option.map_eq_none_iff.1 h) offset hn

theorem not_occurs_of_leftmost (h : leftmost lengthAt (text.drop place) = none) {start : Nat}
    (hplace : place ≤ start) (stop : Nat) : ¬Occurs lengthAt text start stop := by
  rintro ⟨n, hn, -⟩
  have hdrop : text.drop start = (text.drop place).drop (start - place) := by
    rw [List.drop_drop, Nat.add_sub_cancel' hplace]
  rw [hdrop] at hn
  exact lengthAt_ne_of_leftmost pos le h _ _ hn

theorem first_of_leftmost {cut : Cut} (h : leftmost lengthAt (text.drop place) = some cut) :
    ∃ start stop, First (Occurs lengthAt text) place start stop ∧
      cut.IsAt text place start stop := by
  obtain ⟨n, hn, hmark, hafter⟩ := lengthAt_of_leftmost h
  have hjoin := join_of_leftmost h
  have hle := le hn
  rw [List.drop_drop] at hn hmark hafter
  refine ⟨place + cut.before.length, place + cut.before.length + n, ?_, ?_⟩
  · constructor
    · exact Nat.le_add_right _ _
    · exact ⟨n, hn, rfl⟩
    · rintro other stop hother ⟨m, hm, -⟩
      have hdrop : text.drop other = (text.drop place).drop (other - place) := by
        rw [List.drop_drop, Nat.add_sub_cancel' hother]
      rw [hdrop] at hm
      have hbefore := before_le_of_leftmost h hm
      omega
  · constructor
    · rw [List.extract_eq_take_drop, ← hjoin, List.append_assoc, Nat.add_sub_cancel_left,
        List.take_left]
    · rw [hmark, List.extract_eq_take_drop, Nat.add_sub_cancel_left]
    · rw [hafter, List.drop_drop, Nat.add_assoc]
    · have hpos := pos hn
      simp only [List.length_drop] at hle
      omega

end Leftmost

/-! ## Segments by position -/

section Segments

variable {lengthAt : Text → Option Nat}

/-- Where the character before it does not matter, no part of the text does. -/
theorem segmentsFrom_eq_none (before : Option Char) (text : Text) :
    segmentsFrom (fun _ ahead => lengthAt ahead) before text =
      segmentsFrom (fun _ ahead => lengthAt ahead) none text := by
  cases text <;> simp only [segmentsFrom]

theorem segmentsFrom_eq_leftmost (pos : ∀ {text n}, lengthAt text = some n → 0 < n)
    (before : Option Char) (text : Text) :
    segmentsFrom (fun _ ahead => lengthAt ahead) before text =
      match leftmost lengthAt text with
      | none => (text, [])
      | some cut =>
          (cut.before, .mark cut.mark :: segments (fun _ ahead => lengthAt ahead) cut.after) := by
  induction text generalizing before with
  | nil => rw [segmentsFrom, leftmost]
  | cons c rest ih =>
      rw [segmentsFrom, leftmost]
      cases hfound : lengthAt (c :: rest) with
      | none =>
          dsimp only
          rw [ih]
          cases leftmost lengthAt rest <;> rfl
      | some n =>
          cases n with
          | zero => exact absurd (pos hfound) (Nat.lt_irrefl 0)
          | succ n =>
              dsimp only
              rw [segmentsFrom_eq_none]
              rfl

theorem segments_eq_leftmost (pos : ∀ {text n}, lengthAt text = some n → 0 < n) (text : Text) :
    segments (fun _ ahead => lengthAt ahead) text =
      match leftmost lengthAt text with
      | none => Segment.gapOf text
      | some cut => Segment.gapOf cut.before ++
          .mark cut.mark :: segments (fun _ ahead => lengthAt ahead) cut.after := by
  rw [segments, segmentsFrom_eq_leftmost pos]
  cases leftmost lengthAt text with
  | none => exact List.append_nil _
  | some cut => rfl

def layout (text : Text) (place : Nat) : List Extent → List Segment
  | [] => Segment.gapOf (text.drop place)
  | extent :: later =>
      Segment.gapOf (text.extract place extent.start) ++
        .mark (text.extract extent.start extent.stop) :: layout text extent.stop later

/-- The segments of a text are laid out by a scan, if each opening ends where the occurrence
that it begins does. -/
theorem exists_scans_segments (pos : ∀ {text n}, lengthAt text = some n → 0 < n)
    (le : ∀ {text n}, lengthAt text = some n → n ≤ text.length) {opens ends : Nat → Nat → Prop}
    {text : Text} (occurs_iff : ∀ {start stop}, Occurs lengthAt text start stop ↔
      ∃ opened, opens start opened ∧ ends opened stop)
    (ended : ∀ {start opened}, opens start opened → ∃ stop, ends opened stop) (place : Nat) :
    ∃ extents, Scans opens ends place extents ∧
      segments (fun _ ahead => lengthAt ahead) (text.drop place) = layout text place extents := by
  induction hlength : text.length - place using Nat.strongRecOn generalizing place with
  | ind length ih =>
      rw [segments_eq_leftmost pos]
      cases hleftmost : leftmost lengthAt (text.drop place) with
      | none =>
          refine ⟨[], .rest ?_, rfl⟩
          intro start opened hplace hopens
          obtain ⟨stop, hends⟩ := ended hopens
          exact not_occurs_of_leftmost pos le hleftmost hplace stop
            (occurs_iff.2 ⟨opened, hopens, hends⟩)
      | some cut =>
          obtain ⟨start, stop, hfirst, hcut⟩ := first_of_leftmost pos le hleftmost
          obtain ⟨opened, hopens, hends⟩ := occurs_iff.1 hfirst.found
          have hopening : First opens place start opened := by
            constructor
            · exact hfirst.le
            · exact hopens
            · intro other opened hother hopened
              obtain ⟨end', hend⟩ := ended hopened
              exact hfirst.earliest hother (occurs_iff.2 ⟨opened, hopened, hend⟩)
          have hlt : start < stop := by
            obtain ⟨n, hn, rfl⟩ := hfirst.found
            have hpos := pos hn
            omega
          have hle := hcut.le
          have hplace := hfirst.le
          obtain ⟨extents, hscans, hsegments⟩ := ih (text.length - stop) (by omega) stop rfl
          refine ⟨_, .found hopening hends hscans, ?_⟩
          simp only [layout, hcut.before_eq, hcut.mark_eq, hcut.after_eq, hsegments]

end Segments

end Chunking.Text
