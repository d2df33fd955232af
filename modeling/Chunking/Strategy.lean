import Chunking.Strategy.Html
import Chunking.Strategy.Markdown

/-!
# Strategies

The kind of a document and the boundary at which its division begins.
-/

namespace Chunking

inductive Strategy where
  | markdown (strategy : MarkdownStrategy)
  | html (strategy : HtmlStrategy)
  | text
deriving DecidableEq

namespace Strategy

def standard : Strategy := text

/-- Whether a strategy is the standard one, or the standard one of its kind of document. -/
def isStandard : Strategy → Bool
  | markdown strategy => strategy == .standard
  | html strategy => strategy == .standard
  | text => true

def textCascade : Cascade :=
  .ofList [.paragraph, .line, .sentence, .word]

def cascade : Strategy → Cascade
  | markdown strategy => Ladder.cascade strategy
  | html strategy => Ladder.cascade strategy
  | text => textCascade

/-- The written name of the boundary, where the kind of document has several. -/
def token? : Strategy → Option String
  | markdown strategy => some (Ladder.token strategy)
  | html strategy => some (Ladder.token strategy)
  | text => none

def tokensBelow : Strategy → List String
  | markdown strategy => (Ladder.below strategy).map Ladder.token
  | html strategy => (Ladder.below strategy).map Ladder.token
  | text => []

def display : Strategy → String
  | markdown strategy => "markdown:" ++ Ladder.token strategy
  | html strategy => "html:" ++ Ladder.token strategy
  | text => "text"

def standalone : Strategy → List String
  | markdown _ => [Metadata.codeBlockKind]
  | html _ => []
  | text => []

end Strategy

end Chunking
