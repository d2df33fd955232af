import Chunking.Boundary.Element
import Chunking.Boundary.Fence
import Chunking.Boundary.Heading
import Chunking.Boundary.Rule
import Chunking.Error
import Chunking.Pattern.Match
import Chunking.Pattern.Reader
import Chunking.Text.Sentence

/-!
# Boundaries

The ways in which a text can be divided.  Each is a function of the text alone;
numbers are given to the pieces afterwards.
-/

namespace Chunking

inductive Boundary where
  /-- Around the occurrences of a word; the empty word stands between any two characters. -/
  | literal (delimiter : Text)
  | pattern (program : Pattern.Program)
  | sentence
  | rule
  | heading (level : HeadingLevel)
  | fence
  | element (name : TagName)
  /-- Around heading elements, whose text is recorded. -/
  | headingElement (level : HeadingLevel)
deriving DecidableEq

namespace Boundary

/-! ## Named boundaries -/

def character : Boundary := literal []

def word : Boundary := literal [' ']

def line : Boundary := literal ['\n']

def paragraph : Boundary := literal ['\n', '\n']

def lineBreak : Boundary := literal "<br>".toList

def paragraphElement : Boundary := element .paragraph

/-! ## Boundaries from parameters that may be wrong -/

/-- Around the matches of a pattern that is still to be read. -/
def ofPattern (text : Text) : Except Error Boundary :=
  match Pattern.Node.ofText text with
  | .ok node => .ok (pattern node.program)
  | .error fault => .error (.invalidPattern fault)

def ofHeading (rank : Nat) : Except Error Boundary :=
  match HeadingLevel.ofRank? rank with
  | some level => .ok (heading level)
  | none => .error (.invalidLevel rank)

def ofHeadingElement (rank : Nat) : Except Error Boundary :=
  match HeadingLevel.ofRank? rank with
  | some level => .ok (headingElement level)
  | none => .error (.invalidLevel rank)

def ofTag (letters : Text) : Except Error Boundary :=
  match TagName.ofText? letters with
  | some name => .ok (element name)
  | none => .error (.invalidTagName letters)

/-! ## Dividing -/

def isCharacter : Boundary → Bool
  | literal [] => true
  | _ => false

theorem isCharacter_iff {boundary : Boundary} :
    boundary.isCharacter = true ↔ boundary = character := by
  constructor
  · intro h
    unfold isCharacter at h
    split at h
    · rfl
    · simp at h
  · rintro rfl
    rfl

def tagName? : Boundary → Option TagName
  | element name => some name
  | headingElement level => some (.heading level)
  | _ => none

/-- Whether a boundary looks for elements, and so can fail. -/
def isElement (boundary : Boundary) : Bool :=
  boundary.tagName?.isSome

def divideAround (recognizer : Text.Recognizer) (text : Text) : Division :=
  .plain ((Text.segments recognizer text).map Text.Segment.text)

def divide (boundary : Boundary) (text : Text) : Division :=
  match boundary with
  | literal delimiter => divideAround (Text.word delimiter) text
  | pattern program => divideAround program.recognizer text
  | sentence => .plain (Text.Sentence.divide text)
  | rule => divideAround (fun _ ahead => Rule.lengthAt ahead) text
  | heading level => Heading.divide level text
  | fence => Fence.divide text
  | element name => Element.divide name text
  | headingElement level => Element.divideHeadings level text

theorem joined_divideAround (recognizer : Text.Recognizer) (text : Text) :
    (divideAround recognizer text).joined = text := by
  rw [divideAround, Division.joined_plain]
  exact Text.flatten_segments recognizer text

/-- Only a boundary that looks for elements can stop at an unclosed tag. -/
theorem unclosed_divide {boundary : Boundary} (h : boundary.isElement = false) (text : Text) :
    (boundary.divide text).unclosed = none := by
  cases boundary with
  | element name => simp [isElement, tagName?] at h
  | headingElement level => simp [isElement, tagName?] at h
  | _ => rfl

theorem joined_divide {boundary : Boundary} {text : Text}
    (h : (boundary.divide text).unclosed = none) : (boundary.divide text).joined = text := by
  cases boundary with
  | literal delimiter => exact joined_divideAround _ _
  | pattern program => exact joined_divideAround _ _
  | rule => exact joined_divideAround _ _
  | sentence =>
      rw [divide, Division.joined_plain]
      exact Text.Sentence.flatten_divide text
  | heading level => exact Heading.joined_divide level text
  | fence => exact Fence.joined_divide text
  | element name => exact Element.joined_divideWith h
  | headingElement level => exact Element.joined_divideWith h

def split (boundary : Boundary) (text : Text) : Numbering (List Chunk) :=
  (boundary.divide text).number

end Boundary

end Chunking
