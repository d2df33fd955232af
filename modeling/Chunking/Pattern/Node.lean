import Chunking.Pattern.CharSet

/-!
# Expressions

The tree of a regular expression.  Where an expression can match in several
ways, they have an order of preference: the order of the branches and the
greediness of repetitions.
-/

namespace Chunking.Pattern

/-- A condition on the place between two characters. -/
inductive Look where
  | textStart
  | textEnd
  | lineStart
  | lineEnd
  /-- Like `lineStart`, where carriage returns end lines too. -/
  | anyLineStart
  /-- Like `lineEnd`, where carriage returns end lines too. -/
  | anyLineEnd
  | wordBoundary
  | notWordBoundary
  | wordStart
  | wordEnd
  | wordStartHalf
  | wordEndHalf
deriving DecidableEq

namespace Look

def isWord (side : Option Char) : Bool :=
  side.any CharSet.wordChar.contains

def holds (look : Look) (before after : Option Char) : Bool :=
  match look with
  | textStart => before.isNone
  | textEnd => after.isNone
  | lineStart => before.all (· == '\n')
  | lineEnd => after.all (· == '\n')
  | anyLineStart => before.all (· == '\n') || (before == some '\r' && after != some '\n')
  | anyLineEnd => after.all (· == '\r') || (after == some '\n' && before != some '\r')
  | wordBoundary => isWord before != isWord after
  | notWordBoundary => isWord before == isWord after
  | wordStart => !isWord before && isWord after
  | wordEnd => isWord before && !isWord after
  | wordStartHalf => !isWord before
  | wordEndHalf => !isWord after

end Look

inductive Node where
  | empty
  | char (set : CharSet)
  | look (condition : Look)
  | seq (first second : Node)
  | either (first second : Node)
  /-- The body `least` times, and then up to `extra` times more. -/
  | counted (body : Node) (least extra : Nat) (greedy : Bool)
  /-- The body `least` times or more often. -/
  | unbounded (body : Node) (least : Nat) (greedy : Bool)

namespace Node

/-- Whether an expression has a way to match without reading, conditions aside. -/
def nullable : Node → Bool
  | empty => true
  | char _ => false
  | look _ => true
  | seq first second => first.nullable && second.nullable
  | either first second => first.nullable || second.nullable
  | counted body least _ _ => least == 0 || body.nullable
  | unbounded body least _ => least == 0 || body.nullable

def seqAll : List Node → Node
  | [] => empty
  | [node] => node
  | node :: rest => seq node (seqAll rest)

def firstOf : List Node → Node
  | [] => empty
  | [node] => node
  | node :: rest => either node (firstOf rest)

end Node

end Chunking.Pattern
