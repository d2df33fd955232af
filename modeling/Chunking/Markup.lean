import Chunking.Text.Basic

/-!
# Heading levels and tag names

The two parameters of markup boundaries.  Both types admit only values that
markup can hold.
-/

namespace Chunking

structure HeadingLevel where
  rank : Nat
  one_le : 1 ≤ rank
  le_six : rank ≤ 6
deriving DecidableEq

namespace HeadingLevel

def ofRank? (rank : Nat) : Option HeadingLevel :=
  if h : 1 ≤ rank ∧ rank ≤ 6 then some ⟨rank, h.1, h.2⟩ else none

def all : List HeadingLevel :=
  [⟨1, by decide, by decide⟩, ⟨2, by decide, by decide⟩, ⟨3, by decide, by decide⟩,
    ⟨4, by decide, by decide⟩, ⟨5, by decide, by decide⟩, ⟨6, by decide, by decide⟩]

theorem mem_all (level : HeadingLevel) : level ∈ all := by
  obtain ⟨rank, one_le, le_six⟩ := level
  have h : rank = 1 ∨ rank = 2 ∨ rank = 3 ∨ rank = 4 ∨ rank = 5 ∨ rank = 6 := by omega
  rcases h with rfl | rfl | rfl | rfl | rfl | rfl <;> simp [all]

end HeadingLevel

/-- The name of an element: ASCII letters and digits, dashes and underscores. -/
structure TagName where
  letters : Text
  ne_nil : letters ≠ []
  valid : letters.all (fun c => c.isAlphanum || c == '-' || c == '_')
deriving DecidableEq

namespace TagName

def ofText? (letters : Text) : Option TagName :=
  if h : letters ≠ [] ∧ letters.all (fun c => c.isAlphanum || c == '-' || c == '_') then
    some ⟨letters, h.1, h.2⟩
  else
    none

def paragraph : TagName :=
  ⟨['p'], by decide, by decide⟩

def heading (level : HeadingLevel) : TagName where
  letters := ['h', Nat.digitChar level.rank]
  ne_nil := by simp
  valid := by
    have h := level.mem_all
    simp only [HeadingLevel.all, List.mem_cons, List.not_mem_nil, or_false] at h
    rcases h with h | h | h | h | h | h <;> rw [h] <;> decide

end TagName

end Chunking
