import Chunking.Pattern.Node

/-!
# Programs

The list of instructions that looks for an expression.  An instruction stands at a
place, its index in the list, and runs into the one behind it unless it says
otherwise.  A fork names two places, the preferred one first.
-/

namespace Chunking.Pattern

inductive Instruction where
  | read (set : CharSet)
  | check (condition : Look)
  /-- Goes on at the first place, and where that fails at the second. -/
  | fork (first second : Nat)
  | jump (place : Nat)
  | accept
deriving DecidableEq

/-- The instructions for a whole expression; it begins at the first of them. -/
structure Program where
  instructions : Array Instruction
deriving DecidableEq

namespace Instruction

/-- The places where an instruction goes on without reading, between two characters. -/
def successors (before after : Option Char) (place : Nat) : Instruction → List Nat
  | read _ => []
  | check condition => if condition.holds before after then [place + 1] else []
  | fork first second => [first, second]
  | jump target => [target]
  | accept => []

theorem length_successors_le (instruction : Instruction) (before after : Option Char)
    (place : Nat) : (instruction.successors before after place).length ≤ 2 := by
  cases instruction with
  | check condition =>
      by_cases h : condition.holds before after = true
      · rw [successors, if_pos h]
        exact Nat.le_succ 1
      · rw [successors, if_neg h]
        exact Nat.zero_le 2
  | fork first second => exact Nat.le_refl 2
  | jump target => exact Nat.le_succ 1
  | read set => exact Nat.zero_le 2
  | accept => exact Nat.zero_le 2

def choice (greedy : Bool) (round stop : Nat) : Instruction :=
  if greedy then fork round stop else fork stop round

def copies (block : Nat → List Instruction) (size count start : Nat) : List Instruction :=
  (List.range count).flatMap fun index => block (start + index * size)

end Instruction

namespace Node

def size : Node → Nat
  | empty => 0
  | char _ => 1
  | look _ => 1
  | seq first second => first.size + second.size
  | either first second => first.size + second.size + 2
  | counted body least extra _ => least * body.size + extra * (body.size + 1)
  | unbounded body 0 _ => body.size + 2
  | unbounded body (least + 1) _ => (least + 1) * body.size + 1

/--
The instructions for an expression, from a place on.  A body that may match
without reading has two choices where it can be repeated any number of times: one
before its first round and one behind every round.  Any other body has one choice,
to which it jumps back.
-/
def code : Node → Nat → List Instruction
  | empty, _ => []
  | char set, _ => [.read set]
  | look condition, _ => [.check condition]
  | seq first second, start =>
      first.code start ++ second.code (start + first.size)
  | either first second, start =>
      let other := start + first.size + 2
      .fork (start + 1) other :: first.code (start + 1) ++
        .jump (other + second.size) :: second.code other
  | counted body least extra greedy, start =>
      let size := body.size
      let optional := start + least * size
      let stop := optional + extra * (size + 1)
      Instruction.copies body.code size least start ++
        Instruction.copies
          (fun place => .choice greedy (place + 1) stop :: body.code (place + 1))
          (size + 1) extra optional
  | unbounded body 0 greedy, start =>
      let choice := Instruction.choice greedy (start + 1) (start + body.size + 2)
      let again := if body.nullable then choice else .jump start
      choice :: body.code (start + 1) ++ [again]
  | unbounded body (least + 1) greedy, start =>
      let size := body.size
      let last := start + least * size
      Instruction.copies body.code size (least + 1) start ++
        [.choice greedy last (last + size + 1)]

def program (node : Node) : Program :=
  ⟨(node.code 0 ++ [Instruction.accept]).toArray⟩

end Node

end Chunking.Pattern
