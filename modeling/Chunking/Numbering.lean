import Chunking.Markup

/-!
# Numbering

Chunks are numbered in the order in which they come into being.  A computation in
`Numbering` draws numbers as it goes; it may stop at an element that is not
closed, and the numbers drawn up to then stay drawn.
-/

namespace Chunking

structure UnclosedTag where
  name : TagName
deriving DecidableEq

/-- A computation that draws numbers, the state being the next one. -/
abbrev Numbering := EStateM UnclosedTag Nat

namespace Numbering

def draw : Numbering Nat := fun next =>
  .ok next (next + 1)

/-- What a computation gives from a first number, and the number after its last one. -/
def runFrom (action : Numbering α) (next : Nat) : Except UnclosedTag α × Nat :=
  match action next with
  | .ok value next => (.ok value, next)
  | .error cause next => (.error cause, next)

/-! ## Outcomes of composed computations -/

@[simp] theorem draw_apply (next : Nat) : draw next = .ok next (next + 1) := rfl

@[simp] theorem pure_apply (value : α) (next : Nat) :
    (pure value : Numbering α) next = .ok value next := rfl

@[simp] theorem throw_apply (tag : UnclosedTag) (next : Nat) :
    (throw tag : Numbering α) next = .error tag next := rfl

section

variable {σ : Type} {action : EStateM UnclosedTag σ α} {first next : σ}

theorem bind_of_ok {later : α → EStateM UnclosedTag σ β} {value : α}
    (h : action first = .ok value next) : (action >>= later) first = later value next := by
  simp [bind, EStateM.bind, h]

theorem bind_of_error {later : α → EStateM UnclosedTag σ β} {tag : UnclosedTag}
    (h : action first = .error tag next) : (action >>= later) first = .error tag next := by
  simp [bind, EStateM.bind, h]

theorem tryCatch_of_ok {instead : UnclosedTag → EStateM UnclosedTag σ α} {value : α}
    (h : action first = .ok value next) : tryCatch action instead first = .ok value next := by
  show EStateM.tryCatch action instead first = .ok value next
  delta EStateM.tryCatch
  rw [h]

/-- What is done instead of a failed action goes on in the state that is left. -/
theorem tryCatch_of_error {instead : UnclosedTag → EStateM UnclosedTag σ α} {tag : UnclosedTag}
    (h : action first = .error tag next) :
    tryCatch action instead first = instead tag next := by
  show EStateM.tryCatch action instead first = instead tag next
  delta EStateM.tryCatch
  rw [h]
  rfl

end

theorem bind_eq_ok_iff {action : Numbering α} {later : α → Numbering β} {first last : Nat}
    {result : β} :
    (action >>= later) first = .ok result last ↔
      ∃ value next, action first = .ok value next ∧ later value next = .ok result last := by
  cases h : action first with
  | ok value next =>
      rw [bind_of_ok h]
      constructor
      · intro hlater
        exact ⟨value, next, rfl, hlater⟩
      · rintro ⟨value, next, heq, hlater⟩
        cases heq
        exact hlater
  | error tag next => simp [bind_of_error h]

theorem tryCatch_eq_ok {action : Numbering α} {instead : UnclosedTag → Numbering α}
    {first last : Nat} {value : α} (h : tryCatch action instead first = .ok value last) :
    action first = .ok value last ∨
      ∃ tag next, action first = .error tag next ∧ instead tag next = .ok value last := by
  cases haction : action first with
  | ok result next =>
      rw [tryCatch_of_ok haction] at h
      exact .inl h
  | error tag next =>
      rw [tryCatch_of_error haction] at h
      exact .inr ⟨tag, next, rfl, h⟩

end Numbering

end Chunking
