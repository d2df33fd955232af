import Chunking.Pattern.Class
import Chunking.Text.Letter

/-!
# Reading patterns

A pattern is read from left to right.  The first fault ends the reading; only a
pattern without faults is measured against the limits on height and size.
-/

namespace Chunking.Pattern

inductive GroupHead where
  /-- Flags for the rest of the group around it. -/
  | directive
  /-- An expression that only holds its parts together. -/
  | plain
  /-- An expression whose match is remembered, under a number and perhaps a name. -/
  | capture (number : Nat) (name : Option Text)

def Flags.set? (flags : Flags) (letter : Char) (value : Bool) : Option Flags :=
  match letter with
  | 'i' => some { flags with ignoreCase := value }
  | 'm' => some { flags with multiLine := value }
  | 's' => some { flags with dotAll := value }
  | 'U' => some { flags with swapGreed := value }
  | 'R' => some { flags with anyLine := value }
  | 'x' => some { flags with spaced := value }
  | 'u' => some flags
  | _ => none

def isNameChar (isFirst : Bool) (c : Char) : Bool :=
  c == '_' ||
    if isFirst then Text.isLetter c
    else c == '.' || c == '[' || c == ']' || Text.isLetterOrNumber c

namespace Reading

/-! ## Groups -/

def flagList (value : Bool) (seen : List Char) (dangling : Bool) (flags : Flags) :
    Nat → Reading Flags
  | 0 => throw .flagsCut
  | fuel + 1 => do
      let c ← nextOr .flagsCut
      if c = ':' ∨ c = ')' then
        if dangling then
          throw .danglingNegation
        return flags
      else if c = '-' then
        if !value then
          throw .repeatedNegation
        advance
        flagList false seen true flags fuel
      else
        match flags.set? c value with
        | none => throw .unknownFlag
        | some flags =>
            if seen.contains c then
              throw .repeatedFlag
            advance
            flagList value (c :: seen) false flags fuel

def groupNumber : Reading Nat := do
  let number := (← get).groups + 1
  modify fun cursor => { cursor with groups := number }
  return number

/-- The name of a group, up to the angle bracket behind it. -/
def groupName : Reading Text := do
  let start ← rest
  if start.isEmpty then
    throw .nameMissing
  let name := start.takeWhile (· != '>')
  let isValid :=
    match name with
    | [] => true
    | first :: others => isNameChar true first && others.all (isNameChar false)
  if !isValid then
    throw .nameInvalid
  moveTo (start.drop name.length)
  let _ ← nextOr .nameCut
  advance
  if name.isEmpty then
    throw .nameEmpty
  if (← get).names.contains name then
    throw .nameRepeated
  modify fun cursor => { cursor with names := name :: cursor.names }
  return name

/-- What stands behind an opening parenthesis, up to the expression of the group. -/
def groupHead : Reading GroupHead := do
  advanceToPart
  match ← rest with
  | '?' :: '=' :: _ | '?' :: '!' :: _ | '?' :: '<' :: '=' :: _ | '?' :: '<' :: '!' :: _ =>
      throw .lookAround
  | '?' :: 'P' :: '<' :: name | '?' :: '<' :: name =>
      moveTo name
      let number ← groupNumber
      return .capture number (some (← groupName))
  | '?' :: flagText =>
      moveTo flagText
      let start ← nextOr .groupCut
      let flags ← flagList true [] false (← flags) (flagText.length + 1)
      setFlags flags
      if (← nextOr .flagsCut) = ')' then
        if start = ')' then
          throw .emptyFlags
        return .directive
      else
        advance
        return .plain
  | _ => return .capture (← groupNumber) none

/-! ## Repetitions -/

/-- Whether a repetition is greedy: a question mark behind it, and a flag, each turn that around. -/
def greediness : Reading Bool := do
  let swapped := (← flags).swapGreed
  match ← rest with
  | '?' :: left =>
      moveTo left
      return swapped
  | _ => return !swapped

/-- The expression before a repetition, and those before that. -/
def repeated (fault : Fault) : List Fragment → Reading (Fragment × List Fragment)
  | [] => throw fault
  | last :: earlier => return (last, earlier)

def uncounted (operator : Char) (body : Fragment) : Reading Fragment := do
  advance
  let greedy ← greediness
  return if operator = '?' then body.between 0 1 greedy
    else if operator = '*' then body.atLeast 0 greedy
    else body.atLeast 1 greedy

/-- The greatest count behind the least one, if there is a greatest one. -/
def countLimit (least : Nat) : Reading (Option Nat) := do
  if (← nextOr .countedCut) = ',' then
    let c ← advanceOr .countedCommaCut
    let limit ← if c = '\x7d' then pure none else some <$> decimal
    let _ ← nextOr .countedMaxCut
    return limit
  else
    return some least

def counted (body : Fragment) : Reading Fragment := do
  let _ ← advanceOr .countedUnclosed
  let least ← decimal
  let limit ← countLimit least
  let c ← nextOr .countedCut
  if c ≠ '\x7d' then
    throw .countedNotClosed
  advanceToPart
  let greedy ← greediness
  match limit with
  | none => return body.atLeast least greedy
  | some most =>
      if most < least then
        throw .countedReversed
      return body.between least most greedy

/-! ## Expressions -/

def nested (part : Reading α) : Reading α := do
  let depth := (← get).depth
  if Fragment.maxHeight < depth then
    throw .tooMuchNesting
  modify fun cursor => { cursor with depth := depth + 1 }
  let value ← part
  modify fun cursor => { cursor with depth }
  return value

def closeGroup : Reading Unit := do
  if (← nextOr .openGroup) ≠ ')' then
    throw .openGroup
  advance

/--
The expression from here to the end of the group.  `branches` are its finished
branches and `parts` the parts of the current one, both from last to first.
-/
def expression (branches parts : List Fragment) : Nat → Reading Fragment
  | 0 => throw .tooMuchNesting
  | fuel + 1 => do
      skipToPart
      let finished := Fragment.oneOf (Fragment.sequence parts.reverse :: branches).reverse
      match ← rest with
      | [] => return finished
      | '(' :: _ =>
          let outer ← flags
          match ← groupHead with
          | .directive =>
              closeGroup
              expression branches parts fuel
          | .plain =>
              let body ← nested (expression [] [] fuel)
              setFlags outer
              closeGroup
              expression branches (body :: parts) fuel
          | .capture number name =>
              let body ← nested (expression [] [] fuel)
              setFlags outer
              closeGroup
              expression branches (body.capture number name :: parts) fuel
      | ')' :: _ =>
          if (← get).depth ≤ 1 then
            throw .strayClose
          return finished
      | '|' :: left =>
          moveTo left
          expression (Fragment.sequence parts.reverse :: branches) [] fuel
      | '[' :: _ =>
          let set ← charClass
          expression branches (.set set :: parts) fuel
      | '\x7b' :: _ =>
          let (body, earlier) ← repeated .countedAlone parts
          let fragment ← counted body
          expression branches (fragment :: earlier) fuel
      | c :: _ =>
          if c = '?' ∨ c = '*' ∨ c = '+' then
            let (body, earlier) ← repeated .uncountedAlone parts
            let fragment ← uncounted c body
            expression branches (fragment :: earlier) fuel
          else
            let part ← atom
            expression branches (part.fragment :: parts) fuel

/-- Every step of `expression` passes a character or closes a group, so this many steps do. -/
def wholePattern : Reading Fragment := do
  let length := (← rest).length
  nested (expression [] [] (2 * length + 2))

end Reading

def Node.ofText (text : Text) : Except Fault Node := do
  let (fragment, _) ← Reading.wholePattern.run { rest := text }
  if Fragment.maxHeight < fragment.height then
    throw .tooMuchNesting
  if Fragment.maxBytes < fragment.totalBytes then
    throw .tooLarge
  return fragment.node

end Chunking.Pattern
