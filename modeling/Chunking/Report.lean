import Chunking.Budget
import Chunking.Chunk
import Chunking.Text.Quoted

/-!
# Reports

Chunks as plain text: a list of chunks under the limits they were made for, with
everything written as it is, and a single chunk on one line, with its metadata in
quoted form.
-/

namespace Chunking.Report

/-- One chunk of a report.  Positions are counted from one. -/
def entry (index : Nat) (chunk : Chunk) : String :=
  let entries := chunk.metadata.entries.map fun pair =>
    "\"" ++ pair.1 ++ "\": \"" ++ pair.2 ++ "\""
  "--- Chunk " ++ Text.decimal (index + 1) ++ " ---\nMetadata: \x7b" ++
    String.intercalate "," entries ++ "\x7d\n" ++ String.ofList chunk.text

/-- The limits, and then every chunk with its metadata and its text. -/
def render (chunks : List Chunk) (budget : Budget) : String :=
  Text.decimal budget.maxSize ++ " " ++ Text.decimal budget.maxOverlap ++ "\n\n" ++
    String.intercalate "\n\n" (chunks.mapIdx entry)

def quoted (text : String) : String :=
  String.ofList (Text.quote text.toList)

def summary (chunk : Chunk) : String :=
  let entries := chunk.metadata.entries.map fun pair => quoted pair.1 ++ ": " ++ quoted pair.2
  "Chunk \x7b id: " ++ Text.decimal chunk.id ++ ", len: " ++ Text.decimal chunk.length ++
    ", metadata: \x7b" ++ String.intercalate ", " entries ++ "\x7d \x7d"

end Chunking.Report
