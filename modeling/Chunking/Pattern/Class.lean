import Chunking.Pattern.Atom

/-!
# Reading classes

A class between brackets: single characters, ranges, escape sequences and named
sets.  A dash or a closing bracket at its front stands for itself.
-/

namespace Chunking.Pattern

namespace Atom

def classRanges : Atom → Except Fault (List CodeRange)
  | char c => .ok [.single c]
  | set chars => .ok chars.ranges
  | look _ => .error .classEscape

/-- The character an atom gives as an end of a range. -/
def rangeEnd : Atom → Except Fault Char
  | char c => .ok c
  | _ => .error .rangeEnds

end Atom

/-- The named set that a class holds at its front, with the rest behind it. -/
def namedSet? (text : Text) : Option (CharSet × Text) :=
  match text with
  | '[' :: ':' :: inner =>
      let isNegated := inner.head? == some '^'
      let body := if isNegated then inner.tail else inner
      let name := body.takeWhile (· != ':')
      match body.dropWhile (· != ':'), CharSet.named? (String.ofList name) with
      | ':' :: ']' :: rest, some set =>
          some (if isNegated then set.complement else set, rest)
      | _, _ => none
  | _ => none

def classOperator? : Text → Option Fault
  | '&' :: '&' :: _ => some .classIntersection
  | '-' :: '-' :: _ => some .classDifference
  | '~' :: '~' :: _ => some .classSymmetricDifference
  | _ => none

namespace Reading

def classItem : Reading Atom := do
  let c ← nextOr .classUnclosed
  if c = '\\' then
    escape
  else
    advance
    return .char c

/-- A range of a class, or a single item where no range follows. -/
def classRange : Reading (List CodeRange) := do
  let first ← classItem
  skipToPart
  let c ← nextOr .classItemsUnclosed
  let behind := Cursor.afterDash (← flags) (← rest).tail
  if c ≠ '-' ∨ behind = some ']' ∨ behind = some '-' then
    first.classRanges
  else
    let _ ← advanceOr .classDashUnclosed
    let last ← classItem
    let low ← first.rangeEnd
    let high ← last.rangeEnd
    if high < low then
      throw .rangeReversed
    return [⟨low.toNat, high.toNat⟩]

def leadingDashes : Nat → Reading (List CodeRange)
  | 0 => return []
  | fuel + 1 => do
      if (← nextOr .classUnclosed) = '-' then
        let _ ← advanceOr .classDashUnclosed
        let dashes ← leadingDashes fuel
        return .single '-' :: dashes
      else
        return []

def classItems (ranges : List CodeRange) : Nat → Reading (List CodeRange)
  | 0 => throw .classUnclosed
  | fuel + 1 => do
      skipToPart
      let c ← nextOr .classUnclosed
      let text ← rest
      if c = '[' then
        match namedSet? text with
        | some (set, left) =>
            moveTo left
            classItems (ranges ++ set.ranges) fuel
        | none => throw .classNested
      else if c = ']' then
        advance
        return ranges
      else
        match classOperator? text with
        | some fault => throw fault
        | none =>
            let added ← classRange
            classItems (ranges ++ added) fuel

def charClass : Reading CharSet := do
  let fuel := (← rest).length + 1
  let c ← advanceOr .classUnclosed
  let isNegated := c == '^'
  if isNegated then
    let _ ← advanceOr .classNegatedUnclosed
  let dashes ← leadingDashes fuel
  let c ← nextOr .classUnclosed
  let leading ←
    if dashes.isEmpty && c == ']' then
      let _ ← advanceOr .classBracketUnclosed
      pure [CodeRange.single ']']
    else
      pure dashes
  let ranges ← classItems leading fuel
  let set := CharSet.ofRanges ranges
  let set := if (← flags).ignoreCase then set.withOtherCase else set
  return if isNegated then set.complement else set

end Reading

end Chunking.Pattern
