import Chunking.Cascade

/-!
# Ladders

A ladder lists the steps at which the division of a kind of document can begin,
from coarse to fine.  Each step adds its own boundaries to those below it, and has
a written name.
-/

namespace Chunking

/-- A type whose values are the steps of a ladder, each with a name of its own. -/
class Ladder (σ : Type) where
  steps : List σ
  token : σ → String
  boundaries : σ → List Boundary
  mem_steps (step : σ) : step ∈ steps
  token_inj {step other : σ} : token step = token other → step = other

namespace Ladder

variable {σ : Type} [Ladder σ]

def ofToken (text : String) : Except Error σ :=
  match (steps : List σ).find? fun step => token step == text with
  | some step => .ok step
  | none => .error (.unknownStrategy text)

theorem ofToken_eq_ok_iff {text : String} {step : σ} :
    ofToken text = .ok step ↔ token step = text := by
  unfold ofToken
  constructor
  · intro h
    split at h
    · next found hfound =>
        cases h
        have hname := List.find?_some hfound
        exact eq_of_beq hname
    · cases h
  · rintro rfl
    cases hfind : (steps : List σ).find? fun other => token other == token step with
    | none =>
        have hnone := List.find?_eq_none.1 hfind step (mem_steps step)
        simp at hnone
    | some found =>
        have hname := List.find?_some hfind
        rw [token_inj (eq_of_beq hname)]

def below [DecidableEq σ] (step : σ) : List σ :=
  ((steps : List σ).dropWhile fun other => other != step).tail

/-- The boundaries of a step and of all finer ones. -/
def cascade [DecidableEq σ] (step : σ) : Cascade :=
  .ofList ((step :: below step).flatMap boundaries)

end Ladder

end Chunking
