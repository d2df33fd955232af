import Chunking.Proofs.Levels

/-!
# Layouts

Where chunks lie in a text.  Chunk `i` adds the stretch between the cuts `i` and `i + 1`,
and repeats in front of it the last `overlap i` characters before the cut.
-/

namespace Chunking

theorem take_append_extract (text : Text) {start stop : Nat} (h : start ≤ stop) :
    text.take start ++ text.extract start stop = text.take stop := by
  have hsum : stop = start + (stop - start) := by omega
  rw [hsum, List.take_add, List.extract_eq_take_drop, ← hsum]

theorem extract_middle (before middle after : Text) :
    (before ++ (middle ++ after)).extract before.length (before.length + middle.length) =
      middle := by
  rw [List.extract_eq_take_drop, List.drop_left, Nat.add_sub_cancel_left, List.take_left]

theorem le_length_of_extract_ne_nil {text : Text} {start stop : Nat}
    (h : text.extract start stop ≠ []) : start ≤ text.length := by
  rw [List.extract_eq_take_drop] at h
  refine Nat.not_lt.1 fun hlt => h ?_
  rw [List.drop_of_length_le (Nat.le_of_lt hlt), List.take_nil]

theorem suffix_take_of_suffix {text borrowed added : Text} {start : Nat}
    (suffix : borrowed <:+ text.take start)
    (place : text.extract start (start + added.length) = added) :
    borrowed ++ added <:+ text.take (start + added.length) := by
  obtain ⟨kept, hkept⟩ := suffix
  have hstretch := take_append_extract text (Nat.le_add_right start added.length)
  rw [place, ← hkept, List.append_assoc] at hstretch
  exact ⟨kept, hstretch⟩

theorem extract_of_suffix {text borrowed added : Text} {start : Nat}
    (suffix : borrowed <:+ text.take start)
    (place : text.extract start (start + added.length) = added) (le : start ≤ text.length) :
    text.extract (start - borrowed.length) (start + added.length) = borrowed ++ added := by
  obtain ⟨kept, hkept⟩ := suffix
  have hstretch := take_append_extract text (Nat.le_add_right start added.length)
  have hlength : kept.length = start - borrowed.length := by
    have hsum := congrArg List.length hkept
    rw [List.length_append, List.length_take] at hsum
    omega
  rw [place, ← hkept, List.append_assoc] at hstretch
  rw [List.extract_eq_take_drop, ← List.drop_take, ← hstretch, ← hlength, List.drop_left]

/--
The places of chunks that cover a text from `start` on.  The first of them reaches back over
at most `reach` characters.
-/
structure Layout (policy : Policy) (text : Text) (start reach : Nat) (chunks : List Chunk) where
  cut : Nat → Nat
  overlap : Nat → Nat
  cut_zero : cut 0 = start
  cut_length : cut chunks.length = text.length
  /-- Every chunk adds at least one character. -/
  cut_lt : ∀ i < chunks.length, cut i < cut (i + 1)
  text_eq : ∀ i (h : i < chunks.length),
    chunks[i].text = text.extract (cut i - overlap i) (cut (i + 1))
  overlap_zero : overlap 0 ≤ reach
  overlap_le_cut : ∀ i < chunks.length, overlap i ≤ cut i
  overlap_le_limit : ∀ i < chunks.length, overlap i ≤ policy.budget.maxOverlap
  overlap_le_before : ∀ i (h : i + 1 < chunks.length), overlap (i + 1) ≤ chunks[i].length
  /-- A standalone chunk does not borrow. -/
  overlap_standalone : ∀ i (h : i < chunks.length),
    policy.isStandalone chunks[i].toPiece = true → overlap i = 0
  /-- A standalone chunk does not lend. -/
  overlap_after_standalone : ∀ i (h : i + 1 < chunks.length),
    policy.isStandalone chunks[i].toPiece = true → overlap (i + 1) = 0

namespace Policy

variable {policy : Policy} {chunk : Chunk}

/-- What the chunk after this one may repeat. -/
def lendable (policy : Policy) (chunk : Chunk) : Text :=
  if policy.isStandalone chunk.toPiece then [] else chunk.text

theorem lendable_standalone (h : policy.isStandalone chunk.toPiece = true) :
    policy.lendable chunk = [] := by
  unfold lendable
  rw [if_pos h]

theorem lendable_joinable (h : policy.isStandalone chunk.toPiece = false) :
    policy.lendable chunk = chunk.text := by
  unfold lendable
  rw [h, if_neg Bool.false_ne_true]

theorem lendable_suffix (chunk : Chunk) : policy.lendable chunk <:+ chunk.text := by
  unfold lendable
  split
  · exact List.nil_suffix
  · exact List.suffix_refl _

end Policy

namespace Layout

variable {policy : Policy} {text : Text} {start stop reach : Nat} {chunks : List Chunk}

/-! ## Layouts of longer and longer lists -/

def nil : Layout policy text text.length reach [] where
  cut _ := text.length
  overlap _ := 0
  cut_zero := rfl
  cut_length := rfl
  cut_lt i h := absurd h (Nat.not_lt_zero i)
  text_eq i h := absurd h (Nat.not_lt_zero i)
  overlap_zero := Nat.zero_le reach
  overlap_le_cut i h := absurd h (Nat.not_lt_zero i)
  overlap_le_limit i h := absurd h (Nat.not_lt_zero i)
  overlap_le_before i h := absurd h (Nat.not_lt_zero (i + 1))
  overlap_standalone i h := absurd h (Nat.not_lt_zero i)
  overlap_after_standalone i h := absurd h (Nat.not_lt_zero (i + 1))

/-- One more chunk in front, which ends at `stop` and repeats `repeated` characters. -/
def cons {chunk : Chunk} {repeated : Nat}
    (layout : Layout policy text stop (policy.lendable chunk).length chunks)
    (lt : start < stop) (text_eq : chunk.text = text.extract (start - repeated) stop)
    (le_start : repeated ≤ start) (le_limit : repeated ≤ policy.budget.maxOverlap)
    (le_reach : repeated ≤ reach)
    (alone : policy.isStandalone chunk.toPiece = true → repeated = 0) :
    Layout policy text start reach (chunk :: chunks) where
  cut
    | 0 => start
    | i + 1 => layout.cut i
  overlap
    | 0 => repeated
    | i + 1 => layout.overlap i
  cut_zero := rfl
  cut_length := layout.cut_length
  cut_lt := by
    intro i h
    cases i with
    | zero =>
        show start < layout.cut 0
        rw [layout.cut_zero]
        exact lt
    | succ i => exact layout.cut_lt i (Nat.lt_of_succ_lt_succ h)
  text_eq := by
    intro i h
    cases i with
    | zero =>
        show chunk.text = text.extract (start - repeated) (layout.cut 0)
        rw [layout.cut_zero]
        exact text_eq
    | succ i => exact layout.text_eq i (Nat.lt_of_succ_lt_succ h)
  overlap_zero := le_reach
  overlap_le_cut := by
    intro i h
    cases i with
    | zero => exact le_start
    | succ i => exact layout.overlap_le_cut i (Nat.lt_of_succ_lt_succ h)
  overlap_le_limit := by
    intro i h
    cases i with
    | zero => exact le_limit
    | succ i => exact layout.overlap_le_limit i (Nat.lt_of_succ_lt_succ h)
  overlap_le_before := by
    intro i h
    cases i with
    | zero => exact Nat.le_trans layout.overlap_zero (Policy.lendable_suffix chunk).length_le
    | succ i => exact layout.overlap_le_before i (Nat.lt_of_succ_lt_succ h)
  overlap_standalone := by
    intro i h halone
    cases i with
    | zero => exact alone halone
    | succ i => exact layout.overlap_standalone i (Nat.lt_of_succ_lt_succ h) halone
  overlap_after_standalone := by
    intro i h halone
    cases i with
    | zero =>
        rw [List.getElem_cons_zero] at halone
        have hnothing : (policy.lendable chunk).length ≤ 0 := by
          rw [Policy.lendable_standalone halone]
          exact Nat.le_refl 0
        exact Nat.le_zero.1 (Nat.le_trans layout.overlap_zero hnothing)
    | succ i => exact layout.overlap_after_standalone i (Nat.lt_of_succ_lt_succ h) halone

/-- One more chunk in front, which adds a stretch of the text behind what it borrows. -/
def prepend {chunk : Chunk} {borrowed added : Text}
    (layout : Layout policy text (start + added.length) (policy.lendable chunk).length chunks)
    (text_eq : chunk.text = borrowed ++ added) (suffix : borrowed <:+ text.take start)
    (place : text.extract start (start + added.length) = added) (ne_nil : added ≠ [])
    (le_limit : borrowed.length ≤ policy.budget.maxOverlap) (le_reach : borrowed.length ≤ reach)
    (alone : policy.isStandalone chunk.toPiece = true → borrowed = []) :
    Layout policy text start reach (chunk :: chunks) :=
  have le_start : borrowed.length ≤ start := by
    have hle := suffix.length_le
    rw [List.length_take] at hle
    omega
  have hstretch := extract_of_suffix suffix place (le_length_of_extract_ne_nil (place ▸ ne_nil))
  layout.cons (Nat.lt_add_of_pos_right (List.length_pos_iff.2 ne_nil))
    (text_eq.trans hstretch.symm) le_start le_limit le_reach
    fun halone => congrArg List.length (alone halone)

/-- A chunk repeats only what the one before it adds, unless it opens at a loose place. -/
def Confined (layout : Layout policy text start reach chunks) (loose : Nat → Prop) : Prop :=
  ∀ i, i + 1 < chunks.length →
    layout.cut i + layout.overlap (i + 1) ≤ layout.cut (i + 1) ∨ loose (layout.cut (i + 1))

theorem Confined.prepend {loose : Nat → Prop} {chunk : Chunk} {borrowed added : Text}
    {layout : Layout policy text (start + added.length) (policy.lendable chunk).length chunks}
    (confined : layout.Confined loose)
    (first : layout.overlap 0 ≤ added.length ∨ loose (start + added.length))
    (text_eq : chunk.text = borrowed ++ added) (suffix : borrowed <:+ text.take start)
    (place : text.extract start (start + added.length) = added) (ne_nil : added ≠ [])
    (le_limit : borrowed.length ≤ policy.budget.maxOverlap) (le_reach : borrowed.length ≤ reach)
    (alone : policy.isStandalone chunk.toPiece = true → borrowed = []) :
    (layout.prepend text_eq suffix place ne_nil le_limit le_reach alone).Confined loose := by
  intro i hi
  cases i with
  | zero =>
      show start + layout.overlap 0 ≤ layout.cut 0 ∨ loose (layout.cut 0)
      rw [layout.cut_zero]
      exact first.imp_left fun hle => Nat.add_le_add_left hle start
  | succ i => exact confined i (Nat.lt_of_succ_lt_succ hi)

/-! ## The text between the cuts -/

theorem cut_add_le (layout : Layout policy text start reach chunks) {i count : Nat}
    (h : i + count ≤ chunks.length) : layout.cut i + count ≤ layout.cut (i + count) := by
  induction count with
  | zero => exact Nat.le_refl _
  | succ count ih =>
      have hlt := layout.cut_lt (i + count) (by omega)
      have hle := ih (by omega)
      show layout.cut i + (count + 1) ≤ layout.cut (i + count + 1)
      omega

theorem cut_le_length (layout : Layout policy text start reach chunks) {i : Nat}
    (h : i ≤ chunks.length) : layout.cut i ≤ text.length := by
  have hsum : i + (chunks.length - i) = chunks.length := by omega
  have hlast := layout.cut_add_le (Nat.le_of_eq hsum)
  rw [hsum, layout.cut_length] at hlast
  omega

theorem drop_overlap (layout : Layout policy text start reach chunks) {i : Nat}
    (h : i < chunks.length) :
    chunks[i].text.drop (layout.overlap i) = text.extract (layout.cut i) (layout.cut (i + 1)) := by
  have hcut := layout.overlap_le_cut i h
  have hlt := layout.cut_lt i h
  rw [layout.text_eq i h, List.extract_eq_take_drop, List.extract_eq_take_drop, List.drop_take,
    List.drop_drop]
  congr 1
  · omega
  · congr 1
    omega

theorem length_drop_overlap (layout : Layout policy text start reach chunks) {i : Nat}
    (h : i < chunks.length) :
    layout.cut i + (chunks[i].text.drop (layout.overlap i)).length = layout.cut (i + 1) := by
  have hlt := layout.cut_lt i h
  have hle : layout.cut (i + 1) ≤ text.length := layout.cut_le_length h
  rw [layout.drop_overlap h, List.extract_eq_take_drop, List.length_take, List.length_drop]
  omega

theorem flatten_take (layout : Layout policy text 0 reach chunks) {count : Nat}
    (h : count ≤ chunks.length) :
    ((List.range count).map fun i =>
      text.extract (layout.cut i) (layout.cut (i + 1))).flatten = text.take (layout.cut count) := by
  induction count with
  | zero => simp [layout.cut_zero]
  | succ count ih =>
      rw [List.range_succ, List.map_append, List.flatten_append, ih (by omega), List.map_singleton,
        List.flatten_singleton]
      exact take_append_extract text (Nat.le_of_lt (layout.cut_lt count h))

theorem flatten_drop_overlap (layout : Layout policy text 0 reach chunks) :
    (chunks.mapIdx fun i chunk => chunk.text.drop (layout.overlap i)).flatten = text := by
  have hfresh : (chunks.mapIdx fun i chunk => chunk.text.drop (layout.overlap i)) =
      (List.range chunks.length).map fun i =>
        text.extract (layout.cut i) (layout.cut (i + 1)) := by
    apply List.ext_getElem
    · simp
    · intro i hi _
      rw [List.length_mapIdx] at hi
      rw [List.getElem_mapIdx, List.getElem_map, List.getElem_range]
      exact layout.drop_overlap hi
  rw [hfresh, layout.flatten_take (Nat.le_refl _), layout.cut_length, List.take_length]

end Layout

end Chunking
