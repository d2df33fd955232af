import Chunking.Boundary.Division
import Chunking.Text.Blank
import Chunking.Text.Occurrence

/-!
# Fenced blocks

A block starts with three backticks and the rest of their line, which holds no
backtick, and ends with three backticks in front of a line end or the end of the
text.  A block that is not closed runs to the end of the text.
-/

namespace Chunking.Fence

/-- The part of a block's first line behind its backticks. -/
def info (behind : Text) : Text :=
  behind.takeWhile fun c => c != '`' && c != '\n'

def openingLength : Text → Option Nat
  | '`' :: '`' :: '`' :: behind =>
      match behind.drop (info behind).length with
      | '\n' :: _ => some ((info behind).length + 4)
      | _ => none
  | _ => none

def closingLength : Text → Option Nat
  | '`' :: '`' :: '`' :: '\n' :: _ => some 4
  | ['`', '`', '`'] => some 3
  | _ => none

/-- The length of what follows an opening line in its block. -/
def bodyLength (body : Text) : Nat :=
  match Text.leftmost closingLength body with
  | some cut => cut.before.length + cut.mark.length
  | none => body.length

def blockLength (text : Text) : Option Nat :=
  (openingLength text).map fun opening => opening + bodyLength (text.drop opening)

def language (block : Text) : Text :=
  (Text.firstWord? (info (block.drop 3))).getD "unknown".toList

def metadata (block : Text) : Metadata :=
  .ofList [(Metadata.kindKey, Metadata.codeBlockKind),
    (Metadata.languageKey, String.ofList (language block))]

def piece : Text.Segment → Piece
  | .gap text => { text }
  | .mark text => { text, metadata := metadata text }

def divide (text : Text) : Division where
  pieces := (Text.segments (fun _ ahead => blockLength ahead) text).map piece

@[simp] theorem text_piece (segment : Text.Segment) : (piece segment).text = segment.text := by
  cases segment <;> rfl

theorem joined_divide (text : Text) : (divide text).joined = text := by
  have h := Text.flatten_segments (fun _ ahead => blockLength ahead) text
  simpa [Division.joined, divide, List.flatMap_def, Function.comp_def] using h

end Chunking.Fence
