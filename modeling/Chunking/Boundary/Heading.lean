import Chunking.Boundary.Division
import Chunking.Text.Blank
import Chunking.Text.Occurrence

/-!
# Heading lines

A heading of rank `n` is a line of `n` number signs, a space and a title, with a
line end on both sides; both line ends belong to it.  Its title stands in the
metadata of everything up to the next heading of the same rank.
-/

namespace Chunking.Heading

def marker (level : HeadingLevel) : Text :=
  '\n' :: (List.replicate level.rank '#' ++ [' '])

def restOfLine (text : Text) : Text :=
  text.takeWhile (· != '\n')

def lengthAt (level : HeadingLevel) (text : Text) : Option Nat :=
  if (marker level).isPrefixOf text then
    let behind := text.drop (marker level).length
    match behind.drop (restOfLine behind).length with
    | '\n' :: _ => some ((marker level).length + (restOfLine behind).length + 1)
    | _ => none
  else
    none

def title (level : HeadingLevel) (line : Text) : Text :=
  Text.trim (restOfLine (line.drop (marker level).length))

def metadata : Option Text → Metadata
  | none => .empty
  | some title => .ofList [(Metadata.headerKey, String.ofList title)]

/-- The pieces of segments that follow a given title. -/
def pieces (level : HeadingLevel) (current : Option Text) : List Text.Segment → List Piece
  | [] => []
  | .gap text :: rest =>
      { text, metadata := metadata current } :: pieces level current rest
  | .mark line :: rest =>
      let current := some (title level line)
      { text := line, metadata := metadata current } :: pieces level current rest

def divide (level : HeadingLevel) (text : Text) : Division where
  pieces := pieces level none (Text.segments (fun _ ahead => lengthAt level ahead) text)

theorem text_pieces (level : HeadingLevel) (current : Option Text)
    (segments : List Text.Segment) :
    (pieces level current segments).map Piece.text = segments.map Text.Segment.text := by
  induction segments generalizing current with
  | nil => rfl
  | cons segment rest ih =>
      cases segment with
      | gap text => simp [pieces, Text.Segment.text, ih]
      | mark line => simp [pieces, Text.Segment.text, ih]

theorem joined_divide (level : HeadingLevel) (text : Text) : (divide level text).joined = text := by
  have h := Text.flatten_segments (fun _ ahead => lengthAt level ahead) text
  rw [← text_pieces level none] at h
  simpa [Division.joined, divide, List.flatMap_def] using h

end Chunking.Heading
