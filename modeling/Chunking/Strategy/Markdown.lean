import Chunking.Strategy.Ladder

/-!
# Markdown strategies

The steps of Markdown: headings, fenced blocks, horizontal rules, and below them
the boundaries of plain text.
-/

namespace Chunking

/-- Where the division of a Markdown text begins, from coarse to fine. -/
inductive MarkdownStrategy where
  | header
  | codeBlock
  | horizontalLine
  | paragraph
  | line
  | sentence
  | word
  | character
deriving DecidableEq

namespace MarkdownStrategy

def standard : MarkdownStrategy := header

instance : Ladder MarkdownStrategy where
  steps := [header, codeBlock, horizontalLine, paragraph, line, sentence, word, character]
  token
    | header => "MARKDOWN_HEADER"
    | codeBlock => "CODE_BLOCK"
    | horizontalLine => "HORIZONTAL_LINE"
    | paragraph => "PARAGRAPH"
    | line => "LINE"
    | sentence => "SENTENCE"
    | word => "WORD"
    | character => "CHARACTER"
  boundaries
    | header => HeadingLevel.all.map Boundary.heading
    | codeBlock => [.fence]
    | horizontalLine => [.rule]
    | paragraph => [.paragraph]
    | line => [.line]
    | sentence => [.sentence]
    | word => [.word]
    | character => [.character]
  mem_steps step := by cases step <;> simp
  token_inj {step other} := by cases step <;> cases other <;> simp

end MarkdownStrategy

end Chunking
