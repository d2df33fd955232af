import Chunking.Pattern.Fault
import Chunking.Text.Blank

/-!
# Reading a pattern, character by character

The place in a pattern up to which it has been read, with what holds from there
on: the flags, the groups and names so far, and how many expressions are open.
-/

namespace Chunking.Pattern

/-- Settings that change how the rest of a group is read. -/
structure Flags where
  ignoreCase : Bool := false
  /-- `^` and `$` hold at line ends too. -/
  multiLine : Bool := false
  /-- The dot reads line ends too. -/
  dotAll : Bool := false
  /-- Repetitions prefer few rounds unless marked. -/
  swapGreed : Bool := false
  /-- Carriage returns end lines too. -/
  anyLine : Bool := false
  /-- Blanks and comments between the parts of the pattern are passed over. -/
  spaced : Bool := false

structure Cursor where
  rest : Text
  flags : Flags := {}
  names : List Text := []
  groups : Nat := 0
  depth : Nat := 0

abbrev Reading := StateT Cursor (Except Fault)

namespace Cursor

/-- The rest of a pattern behind blanks and comments.  A comment runs to the end of its line. -/
def skipBlanks (inComment : Bool) : Text → Text
  | [] => []
  | c :: rest =>
      if inComment then skipBlanks (c != '\n') rest
      else if Text.isBlank c then skipBlanks false rest
      else if c = '#' then skipBlanks true rest
      else c :: rest

theorem length_skipBlanks_le (inComment : Bool) (text : Text) :
    (skipBlanks inComment text).length ≤ text.length := by
  induction text generalizing inComment with
  | nil => simp [skipBlanks]
  | cons c rest ih =>
      simp only [skipBlanks, List.length_cons]
      split
      · have := ih (c != '\n')
        omega
      · split
        · have := ih false
          omega
        · split
          · have := ih true
            omega
          · simp

/-- The next character behind blanks and at most one number sign. -/
def peekBlanks (seenSign : Bool) : Text → Option Char
  | [] => none
  | c :: rest =>
      if Text.isBlank c then peekBlanks seenSign rest
      else if !seenSign && c == '#' then peekBlanks true rest
      else some c

def nextPart (flags : Flags) (text : Text) : Text :=
  if flags.spaced then skipBlanks false text else text

theorem length_nextPart_le (flags : Flags) (text : Text) :
    (nextPart flags text).length ≤ text.length := by
  unfold nextPart
  split
  · exact length_skipBlanks_le false text
  · exact Nat.le_refl _

/-- The longest run of accepted characters, and the rest behind it. -/
def run (flags : Flags) (accepts : Char → Bool) (text : Text) : Text × Text :=
  match text with
  | [] => ([], [])
  | c :: rest =>
      if accepts c then
        let (taken, left) := run flags accepts (nextPart flags rest)
        (c :: taken, left)
      else
        ([], c :: rest)
termination_by text.length
decreasing_by
  have := length_nextPart_le flags rest
  simp only [List.length_cons]
  omega

/-- The character behind the first one, where the first one is a dash of a class. -/
def afterDash (flags : Flags) (text : Text) : Option Char :=
  if flags.spaced then
    match peekBlanks false text with
    | some c => some c
    | none => text.head?
  else
    text.head?

end Cursor

namespace Reading

def rest : Reading Text := do
  return (← get).rest

def flags : Reading Flags := do
  return (← get).flags

def moveTo (text : Text) : Reading Unit :=
  modify fun cursor => { cursor with rest := text }

def setFlags (flags : Flags) : Reading Unit :=
  modify fun cursor => { cursor with flags }

def skipToPart : Reading Unit := do
  moveTo (Cursor.nextPart (← flags) (← rest))

def advance : Reading Unit := do
  moveTo (← rest).tail

def advanceToPart : Reading Unit := do
  advance
  skipToPart

def nextOr (fault : Fault) : Reading Char := do
  match ← rest with
  | [] => throw fault
  | c :: _ => return c

def advanceOr (fault : Fault) : Reading Char := do
  advanceToPart
  nextOr fault

def takeRun (accepts : Char → Bool) : Reading Text := do
  let (taken, left) := Cursor.run (← flags) accepts (← rest)
  moveTo left
  return taken

end Reading

end Chunking.Pattern
