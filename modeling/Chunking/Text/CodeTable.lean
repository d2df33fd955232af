/-!
# Tables over code points

A property of characters is stored as stretches of code points, in increasing
order, each with the value its characters have.  A look-up halves the table.
-/

namespace Chunking.Text

/-- The code points from `first` to `last`, both included, with their value. -/
structure Stretch (α : Type) where
  first : Nat
  last : Nat
  value : α

namespace CodeTable

def search (table : Array (Stretch α)) (code : Nat) (low high : Nat)
    (bound : high ≤ table.size) : Option (Stretch α) :=
  if h : low < high then
    let middle := (low + high) / 2
    have inside : middle < table.size := by omega
    if code < table[middle].first then
      search table code low middle (by omega)
    else if table[middle].last < code then
      search table code (middle + 1) high bound
    else
      some table[middle]
  else
    none
termination_by high - low
decreasing_by all_goals omega

def find? (table : Array (Stretch α)) (c : Char) : Option (Stretch α) :=
  search table c.toNat 0 table.size (Nat.le_refl _)

end CodeTable

end Chunking.Text
