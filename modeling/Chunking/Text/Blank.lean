import Chunking.Text.Basic

/-!
# Blank characters

The characters with the Unicode property White_Space, and the two readings of a
line that depend on them: the text between its outer blanks, and its first word.
-/

namespace Chunking.Text

def isBlank (c : Char) : Bool :=
  (0x9 ≤ c.toNat && c.toNat ≤ 0xD) || c.toNat == 0x20 || c.toNat == 0x85 || c.toNat == 0xA0 ||
    c.toNat == 0x1680 || (0x2000 ≤ c.toNat && c.toNat ≤ 0x200A) || c.toNat == 0x2028 ||
    c.toNat == 0x2029 || c.toNat == 0x202F || c.toNat == 0x205F || c.toNat == 0x3000

def isAsciiBlank (c : Char) : Bool :=
  c == ' ' || ('\t' ≤ c && c ≤ '\r')

def trim (text : Text) : Text :=
  ((text.dropWhile isBlank).reverse.dropWhile isBlank).reverse

def firstWord? (text : Text) : Option Text :=
  match (text.dropWhile isBlank).takeWhile (!isBlank ·) with
  | [] => none
  | c :: rest => some (c :: rest)

theorem firstWord?_eq_some {text word : Text} (h : firstWord? text = some word) :
    word ≠ [] ∧ ∀ c ∈ word, isBlank c = false := by
  unfold firstWord? at h
  split at h
  · simp at h
  · next c rest heq =>
      cases h
      refine ⟨by simp, fun x hx => ?_⟩
      have hall := List.all_takeWhile (p := (!isBlank ·)) (l := text.dropWhile isBlank)
      rw [heq] at hall
      simpa using List.all_eq_true.1 hall x hx

end Chunking.Text
