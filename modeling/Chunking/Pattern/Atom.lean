import Chunking.Pattern.Cursor
import Chunking.Pattern.Fragment

/-!
# Reading single characters

The smallest parts of a pattern: characters that stand for themselves, escape
sequences, and numbers.
-/

namespace Chunking.Pattern

/-- A part of a pattern that reads at most one character. -/
inductive Atom where
  | char (c : Char)
  | set (chars : CharSet)
  | look (condition : Look)

namespace Atom

def fragment : Atom → Fragment
  | char c => .char c
  | set chars => .set chars
  | look condition => .look condition

/-- A character that stands for itself: in either case, if case is to be ignored. -/
def ofChar (flags : Flags) (c : Char) : Atom :=
  if flags.ignoreCase && c.isAlpha then set (CharSet.withOtherCase ⟨[.single c]⟩) else char c

/-- The dot: any character, or any that does not end a line. -/
def dot (flags : Flags) : Atom :=
  if flags.dotAll then set .any
  else if flags.anyLine then set (CharSet.complement ⟨[⟨0xA, 0xA⟩, ⟨0xD, 0xD⟩]⟩)
  else set (CharSet.complement ⟨[⟨0xA, 0xA⟩]⟩)

def caret (flags : Flags) : Atom :=
  if !flags.multiLine then look .textStart
  else if flags.anyLine then look .anyLineStart
  else look .lineStart

def dollar (flags : Flags) : Atom :=
  if !flags.multiLine then look .textEnd
  else if flags.anyLine then look .anyLineEnd
  else look .lineEnd

def letterSet? : Char → Option CharSet
  | 'd' => some .digit
  | 'D' => some CharSet.digit.complement
  | 's' => some .blank
  | 'S' => some CharSet.blank.complement
  | 'w' => some .wordChar
  | 'W' => some CharSet.wordChar.complement
  | _ => none

def control? : Char → Option Char
  | 'a' => some '\x07'
  | 'f' => some '\x0c'
  | 't' => some '\t'
  | 'n' => some '\n'
  | 'r' => some '\r'
  | 'v' => some '\x0b'
  | _ => none

def condition? : Char → Option Look
  | 'A' => some .textStart
  | 'z' => some .textEnd
  | 'b' => some .wordBoundary
  | 'B' => some .notWordBoundary
  | '<' => some .wordStart
  | '>' => some .wordEnd
  | _ => none

def boundary? (name : Text) : Option Look :=
  match String.ofList name with
  | "start" => some .wordStart
  | "end" => some .wordEnd
  | "start-half" => some .wordStartHalf
  | "end-half" => some .wordEndHalf
  | _ => none

/-- Whether a backslash makes a character stand for itself. -/
def isEscapable (c : Char) : Bool :=
  c.toNat < 0x80 && !c.isAlphanum && c != '<' && c != '>'

end Atom

namespace Reading

/-! ## Numbers -/

def valueOf (base : Nat) (digits : Text) : Nat :=
  digits.foldl (fun value c =>
    let code := c.toLower.toNat
    value * base + (if c.isDigit then code - 0x30 else code - 0x57)) 0

def isHexDigit (c : Char) : Bool :=
  c.isDigit || ('a' ≤ c && c ≤ 'f') || ('A' ≤ c && c ≤ 'F')

/-- A decimal number of 32 bits, with blanks around it. -/
def decimal : Reading Nat := do
  moveTo ((← rest).dropWhile Text.isBlank)
  let digits ← takeRun Char.isDigit
  moveTo ((← rest).dropWhile Text.isBlank)
  if digits.isEmpty then
    throw .decimalMissing
  let value := valueOf 10 digits
  if UInt32.size ≤ value then
    throw .decimalInvalid
  return value

def charOf (fault : Fault) (digits : Text) : Reading Char :=
  let value := valueOf 16 digits
  if value.isValidChar then return Char.ofNat value else throw fault

/-- A row of `count` hexadecimal digits, of which the first is the next character. -/
def hexDigits : Nat → Reading Text
  | 0 => return []
  | count + 1 => do
      let c ← nextOr .hexFixedCut
      if !isHexDigit c then
        throw .hexFixedDigit
      advanceToPart
      let digits ← hexDigits count
      return c :: digits

def hexadecimal (length : Nat) : Reading Char := do
  let c ← advanceOr .hexMissing
  if c = '\x7b' then
    advanceToPart
    let digits ← takeRun isHexDigit
    let stop ← nextOr .hexBraceCut
    if stop ≠ '\x7d' then
      throw .hexBraceDigit
    advanceToPart
    if digits.isEmpty then
      throw .hexBraceEmpty
    charOf .hexBraceInvalid digits
  else
    let digits ← hexDigits length
    charOf .hexFixedInvalid digits

/-! ## Escape sequences -/

/--
The condition named in braces behind a word boundary.  Braces that do not begin
with a name are left to be read as a count.
-/
def namedBoundary : Reading Look := do
  let start ← rest
  match start with
  | '\x7b' :: _ =>
      let isNameChar (c : Char) : Bool := c.isAlpha || c == '-'
      let c ← advanceOr .boundaryCut
      if !isNameChar c then
        moveTo start
        return .wordBoundary
      let name ← takeRun isNameChar
      let stop ← nextOr .boundaryUnclosed
      if stop ≠ '\x7d' then
        throw .boundaryUnclosed
      match Atom.boundary? name with
      | none => throw .boundaryUnknown
      | some condition =>
          advance
          return condition
  | _ => return .wordBoundary

def escape : Reading Atom := do
  advance
  let c ← nextOr .escapeCut
  if c.isDigit then
    throw .backreference
  if c = 'p' ∨ c = 'P' then
    throw .unicodeClass
  if c = 'x' then
    return Atom.ofChar (← flags) (← hexadecimal 2)
  if c = 'u' then
    return Atom.ofChar (← flags) (← hexadecimal 4)
  if c = 'U' then
    return Atom.ofChar (← flags) (← hexadecimal 8)
  advance
  if let some chars := Atom.letterSet? c then
    return .set chars
  if Atom.isEscapable c then
    return Atom.ofChar (← flags) c
  if let some control := Atom.control? c then
    return Atom.ofChar (← flags) control
  if c = 'b' then
    return .look (← namedBoundary)
  if let some condition := Atom.condition? c then
    return .look condition
  throw .unknownEscape

def atom : Reading Atom := do
  let c ← nextOr .escapeCut
  if c = '\\' then
    escape
  else
    advance
    let flags ← flags
    match c with
    | '.' => return Atom.dot flags
    | '^' => return Atom.caret flags
    | '$' => return Atom.dollar flags
    | _ => return Atom.ofChar flags c

end Reading

end Chunking.Pattern
