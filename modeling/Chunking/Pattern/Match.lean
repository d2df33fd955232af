import Chunking.Pattern.Program
import Chunking.Text.Occurrence

/-!
# Matching

All ways of matching are followed through the text side by side, in their order
of preference.  Between two characters a program passes every place at most once,
so a way that comes to a place where a preferred one has been is given up.  A way
that has matched ends those behind it; the last one to end so is the match.
-/

namespace Chunking.Pattern

namespace Program

def size (program : Program) : Nat :=
  program.instructions.size

theorem count_false_set_lt {n : Nat} {passed : Vector Bool n} {place : Nat} (inside : place < n)
    (fresh : passed[place] = false) :
    (passed.set place true).count false < passed.count false := by
  have hmem : false ∈ passed := fresh ▸ Vector.getElem_mem inside
  have hpos : 0 < passed.count false := Vector.count_pos_iff.2 hmem
  have hfresh : (passed[place] == false) = true := beq_iff_eq.2 fresh
  have hpassed : ¬(true == false) = true := Bool.false_ne_true
  rw [Vector.count_set inside, if_pos hfresh, if_neg hpassed]
  omega

/--
The ways to go on from the pending places, between two characters, with the
characters they read next and the places behind that.  They end before the first
way that has matched, and the second component tells whether there is one.
-/
def follow (program : Program) (before after : Option Char)
    (passed : Vector Bool program.size) (found : List (CharSet × Nat)) (pending : List Nat) :
    List (CharSet × Nat) × Bool :=
  match pending with
  | [] => (found.reverse, false)
  | place :: pending =>
      if inside : place < program.size then
        if fresh : passed[place] = false then
          let passed := passed.set place true
          match program.instructions[place] with
          | .accept => (found.reverse, true)
          | .read set => follow program before after passed ((set, place + 1) :: found) pending
          | instruction =>
              let reached := instruction.successors before after place
              follow program before after passed found (reached ++ pending)
        else
          follow program before after passed found pending
      else
        follow program before after passed found pending
termination_by 2 * passed.count false + pending.length
decreasing_by
  · have hless := count_false_set_lt inside fresh
    simp only [List.length_cons]
    omega
  · have hless := count_false_set_lt inside fresh
    have hreached := instruction.length_successors_le before after place
    simp only [List.length_append, List.length_cons]
    omega
  · exact Nat.lt_succ_self _
  · exact Nat.lt_succ_self _

/-- The ways to go on from some places, where none has been passed yet. -/
def waysFrom (program : Program) (before after : Option Char) (places : List Nat) :
    List (CharSet × Nat) × Bool :=
  program.follow before after (.replicate program.size false) [] places

/--
The length of the preferred match that goes on from one of the given places.
`count` characters have been read, and `best` is the length of the match found so
far.
-/
def matchFrom (program : Program) (before : Option Char) (places : List Nat) (count : Nat)
    (best : Option Nat) : Text → Option Nat
  | [] =>
      let (_, isDone) := program.waysFrom before none places
      if isDone then some count else best
  | c :: rest =>
      let (ways, isDone) := program.waysFrom before (some c) places
      let best := if isDone then some count else best
      match (ways.filter fun way => way.1.contains c).map Prod.snd with
      | [] => best
      | places => matchFrom program (some c) places (count + 1) best rest

def recognizer (program : Program) : Text.Recognizer := fun before text =>
  program.matchFrom before [0] 0 none text

end Program

end Chunking.Pattern
