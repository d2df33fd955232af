import Chunking.Assembly
import Chunking.Strategy

/-!
# Chunkers

Something that divides texts into chunks, and can say beforehand about how many
there will be.
-/

namespace Chunking

class Chunker (χ : Type) where
  chunk : χ → Text → Except Error (List Chunk)
  /-- About how many chunks a text of the given length has. -/
  estimate : χ → Nat → Nat := fun _ length => max 1 (length / 500)

/-- A cascade with the policy under which it is used. -/
structure Assembler where
  cascade : Cascade
  policy : Policy

namespace Assembler

/-- The kinds of content that stand alone where nothing else is asked for. -/
def standardStandalone : List String :=
  [Metadata.codeBlockKind]

def ofCascade (cascade : Cascade) (budget : Budget)
    (standalone : List String := standardStandalone) : Assembler where
  cascade
  policy := { budget, standalone }

instance : Chunker Assembler where
  chunk assembler text :=
    match assembler.policy.chunk assembler.cascade text with
    | .ok chunks => .ok chunks
    | .error tag => .error (.unclosedTag tag)
  estimate assembler length := max 1 (length / assembler.policy.budget.maxSize)

end Assembler

def Strategy.assembler (strategy : Strategy) (budget : Budget) : Assembler :=
  .ofCascade strategy.cascade budget strategy.standalone

def chunk (text : Text) (strategy : Strategy) (size overlap : Nat) :
    Except Error (List Chunk) := do
  let budget ← Budget.ofLimits size overlap
  Chunker.chunk (strategy.assembler budget) text

end Chunking
