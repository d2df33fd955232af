import Chunking.Text.Occurrence

/-!
# Horizontal rules

A line of at least three dashes, asterisks or underscores, all the same, with
nothing behind them but spaces and tabs.
-/

namespace Chunking.Rule

def isStroke (c : Char) : Bool :=
  c == '-' || c == '*' || c == '_'

/-- Whether a character may stand behind the strokes of a rule. -/
def isPadding (c : Char) : Bool :=
  c == ' ' || c == '\t'

/-- The length of the rule at the front of a text, with the line ends around it. -/
def lengthAt : Text → Option Nat
  | '\n' :: c :: rest =>
      let strokes := (c :: rest).takeWhile (· == c)
      let padding := ((c :: rest).drop strokes.length).takeWhile isPadding
      if isStroke c ∧ 3 ≤ strokes.length then
        match (c :: rest).drop (strokes.length + padding.length) with
        | '\n' :: _ => some (strokes.length + padding.length + 2)
        | _ => none
      else
        none
  | _ => none

end Chunking.Rule
