import Chunking.Error

/-!
# Budgets

The two limits of a chunking: how long a chunk may be, and how many characters of
the chunk before it may be repeated at its front.
-/

namespace Chunking

structure Budget where
  maxSize : Nat
  maxOverlap : Nat
  size_pos : 0 < maxSize
  overlap_le : maxOverlap ≤ maxSize
deriving DecidableEq

namespace Budget

/-- The budget of two limits.  A size of zero is reported before the overlap is looked at. -/
def ofLimits (size overlap : Nat) : Except Error Budget :=
  if size_pos : 0 < size then
    if overlap_le : overlap ≤ size then
      .ok ⟨size, overlap, size_pos, overlap_le⟩
    else
      .error (.overlapExceedsSize size overlap)
  else
    .error (.invalidSize size)

def ofSize (size : Nat) : Except Error Budget :=
  ofLimits size 0

def standard : Budget :=
  ⟨2048, 0, by decide, by decide⟩

instance : Inhabited Budget := ⟨standard⟩

def fits (budget : Budget) (length : Nat) : Bool :=
  length ≤ budget.maxSize

def hasRoom (budget : Budget) (current additional : Nat) : Bool :=
  budget.fits (current + additional)

/-- The greatest length that can be asked for. -/
def lengthLimit : Nat :=
  UInt64.size - 1

/-- Whether `additional` characters behind `current` ones break the limit.  A sum beyond the
greatest length counts as the greatest length. -/
def overflows (budget : Budget) (current additional : Nat) : Bool :=
  !budget.fits (min (current + additional) lengthLimit)

theorem fits_iff {budget : Budget} {length : Nat} :
    budget.fits length = true ↔ length ≤ budget.maxSize :=
  decide_eq_true_iff

theorem fits_eq_false_iff {budget : Budget} {length : Nat} :
    budget.fits length = false ↔ budget.maxSize < length := by
  rw [Bool.eq_false_iff, ne_eq, fits_iff, Nat.not_le]

theorem hasRoom_iff {budget : Budget} {current additional : Nat} :
    budget.hasRoom current additional = true ↔ current + additional ≤ budget.maxSize :=
  fits_iff

theorem hasRoom_eq_false_iff {budget : Budget} {current additional : Nat} :
    budget.hasRoom current additional = false ↔ budget.maxSize < current + additional :=
  fits_eq_false_iff

theorem overflows_eq_not_hasRoom {budget : Budget} {current additional : Nat}
    (h : current + additional ≤ lengthLimit) :
    budget.overflows current additional = !budget.hasRoom current additional := by
  rw [overflows, hasRoom, Nat.min_eq_left h]

/-- The limits under which an overlap is cut out of a chunk, if there is to be one. -/
def window? (budget : Budget) : Option Budget :=
  if h : 0 < budget.maxOverlap then some ⟨budget.maxOverlap, 0, h, Nat.zero_le _⟩ else none

theorem maxSize_window {budget window : Budget} (h : budget.window? = some window) :
    window.maxSize = budget.maxOverlap := by
  unfold window? at h
  split at h
  · cases h
    rfl
  · cases h

theorem maxOverlap_window {budget window : Budget} (h : budget.window? = some window) :
    0 < budget.maxOverlap ∧ window.maxOverlap = 0 := by
  unfold window? at h
  split at h
  · next hpos =>
      cases h
      exact ⟨hpos, rfl⟩
  · cases h

theorem window_eq_none {budget : Budget} (h : budget.maxOverlap = 0) : budget.window? = none := by
  unfold window?
  rw [dif_neg (by omega)]

theorem exists_window {budget : Budget} (h : 0 < budget.maxOverlap) :
    ∃ window, budget.window? = some window := by
  unfold window?
  rw [dif_pos h]
  exact ⟨_, rfl⟩

theorem ofLimits_eq_ok_iff {size overlap : Nat} {budget : Budget} :
    ofLimits size overlap = .ok budget ↔
      budget.maxSize = size ∧ budget.maxOverlap = overlap := by
  obtain ⟨maxSize, maxOverlap, size_pos, overlap_le⟩ := budget
  unfold ofLimits
  split
  · split
    · simp [eq_comm]
    · simp only [reduceCtorEq, false_iff, not_and]
      rintro rfl rfl
      contradiction
  · simp only [reduceCtorEq, false_iff, not_and]
    rintro rfl
    contradiction

end Budget

end Chunking
