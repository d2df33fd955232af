import Chunking.Strategy.Ladder

/-!
# HTML strategies

The steps of HTML: heading elements, paragraph elements, line breaks, and below
them the boundaries inside a line.
-/

namespace Chunking

/-- Where the division of an HTML text begins, from coarse to fine. -/
inductive HtmlStrategy where
  | header
  | paragraph
  | line
  | sentence
  | word
  | character
deriving DecidableEq

namespace HtmlStrategy

def standard : HtmlStrategy := header

instance : Ladder HtmlStrategy where
  steps := [header, paragraph, line, sentence, word, character]
  token
    | header => "HTML_HEADER"
    | paragraph => "HTML_PARAGRAPH"
    | line => "HTML_LINE"
    | sentence => "SENTENCE"
    | word => "WORD"
    | character => "CHARACTER"
  boundaries
    | header => HeadingLevel.all.map Boundary.headingElement
    | paragraph => [.paragraphElement]
    | line => [.lineBreak]
    | sentence => [.sentence]
    | word => [.word]
    | character => [.character]
  mem_steps step := by cases step <;> simp
  token_inj {step other} := by cases step <;> cases other <;> simp

end HtmlStrategy

end Chunking
