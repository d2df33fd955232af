import Chunking.Pattern.Node
import Chunking.Text.Basic

/-!
# Fragments

A fragment is an expression under construction, with the two measures that limit
how large a pattern may be: how deep its tree is, and how many bytes an automaton
for it takes.  The automaton has a state for every character, choice and join of
branches, and it keeps a table of the groups.
-/

namespace Chunking.Pattern

/-- The groups of an expression that an automaton keeps. -/
structure GroupTable where
  /-- The number of the last group, where they are counted from one. -/
  last : Nat := 0
  /-- The length of their names, with the entries for them. -/
  nameBytes : Nat := 0

/-- An expression with its measures. -/
structure Fragment where
  node : Node
  height : Nat
  /-- The size of the states, without those around the whole pattern. -/
  bytes : Nat
  groups : GroupTable := {}

namespace GroupTable

def placeBytes : Nat := 16

/-- The size of an entry for a name, without the name. -/
def entryBytes : Nat := 4

def single (number : Nat) (name : Option Text) : GroupTable where
  last := number
  nameBytes := (name.map fun letters => (String.ofList letters).utf8ByteSize + entryBytes).getD 0

def union (table other : GroupTable) : GroupTable where
  last := max table.last other.last
  nameBytes := table.nameBytes + other.nameBytes

/-- The size of a table, in which the whole pattern has a place too. -/
def bytes (table : GroupTable) : Nat :=
  placeBytes * (table.last + 1) + table.nameBytes

end GroupTable

namespace Fragment

def stateBytes : Nat := 32

def branchBytes : Nat := 4

def rangeBytes : Nat := 8

def maxHeight : Nat := 50

def maxBytes : Nat := 10 * 1024 * 1024

def empty : Fragment :=
  ⟨.empty, 0, stateBytes, {}⟩

def char (c : Char) : Fragment :=
  ⟨.char ⟨[.single c]⟩, 0, stateBytes, {}⟩

def set (chars : CharSet) : Fragment :=
  ⟨.char chars, 0, stateBytes + rangeBytes * chars.ranges.length, {}⟩

def look (condition : Look) : Fragment :=
  ⟨.look condition, 0, stateBytes, {}⟩

def capture (body : Fragment) (number : Nat) (name : Option Text) : Fragment :=
  ⟨body.node, body.height + 1, body.bytes + 2 * stateBytes,
    body.groups.union (.single number name)⟩

def heightOver (fragments : List Fragment) : Nat :=
  fragments.foldl (fun height fragment => max height fragment.height) 0 + 1

def bytesOf (fragments : List Fragment) : Nat :=
  fragments.foldl (fun total fragment => total + fragment.bytes) 0

def groupsOf (fragments : List Fragment) : GroupTable :=
  fragments.foldl (fun table fragment => table.union fragment.groups) {}

def sequence : List Fragment → Fragment
  | [] => empty
  | [fragment] => fragment
  | first :: rest =>
      let parts := first :: rest
      ⟨Node.seqAll (parts.map Fragment.node), heightOver parts, bytesOf parts, groupsOf parts⟩

def oneOf : List Fragment → Fragment
  | [] => empty
  | [fragment] => fragment
  | first :: rest =>
      let branches := first :: rest
      ⟨Node.firstOf (branches.map Fragment.node), heightOver branches,
        bytesOf branches + 2 * stateBytes + branchBytes * branches.length, groupsOf branches⟩

/-- The size of the states that run a body `least` times or more often. -/
def unboundedBytes (body : Fragment) : Nat → Nat
  | 0 =>
      if body.node.nullable then body.bytes + 3 * stateBytes + 4 * branchBytes
      else body.bytes + stateBytes + 2 * branchBytes
  | least + 1 => (least + 1) * body.bytes + stateBytes + 2 * branchBytes

def atLeast (body : Fragment) (least : Nat) (greedy : Bool) : Fragment :=
  ⟨.unbounded body.node least greedy, body.height + 1, body.unboundedBytes least, body.groups⟩

/-- The size of the states that run a body `least` to `most` times. -/
def countedBytes (bytes least most : Nat) : Nat :=
  let needed := if least = 0 then stateBytes else least * bytes
  if least = 0 ∧ most = 1 then bytes + 2 * stateBytes + 2 * branchBytes
  else if least = most then needed
  else needed + stateBytes + (most - least) * (bytes + stateBytes + 2 * branchBytes)

/-- A fragment `least` to `most` times.  The groups of a fragment that never runs are dropped. -/
def between (body : Fragment) (least most : Nat) (greedy : Bool) : Fragment :=
  if most = 0 then empty
  else if least = 1 ∧ most = 1 then body
  else
    ⟨.counted body.node least (most - least) greedy, body.height + 1,
      countedBytes body.bytes least most, body.groups⟩

def totalBytes (fragment : Fragment) : Nat :=
  fragment.bytes + 3 * stateBytes + fragment.groups.bytes

end Fragment

end Chunking.Pattern
