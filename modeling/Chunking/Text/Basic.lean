/-!
# Texts

A text is the list of its Unicode scalar values. Every length, limit and cut in
this library counts those values, so no cut can fall inside a character.
-/

namespace Chunking

/-- A text, as the sequence of its characters. -/
abbrev Text := List Char

namespace Text

/-- The decimal digits of a number, without sign or leading zeros. -/
def decimal (n : Nat) : String :=
  String.ofList (Nat.toDigits 10 n)

/--
Consecutive slices of `size` characters.  Only the last one may be shorter, and
none is empty.
-/
def slices (size : Nat) (size_pos : 0 < size) (text : Text) : List Text :=
  match text with
  | [] => []
  | c :: rest =>
      (c :: rest).take size :: slices size size_pos ((c :: rest).drop size)
termination_by text.length
decreasing_by
  simp only [List.length_drop, List.length_cons]
  omega

@[simp] theorem slices_nil (size : Nat) (size_pos : 0 < size) :
    slices size size_pos [] = [] := by
  simp [slices]

theorem slices_of_ne_nil {size : Nat} (size_pos : 0 < size) {text : Text}
    (h : text ≠ []) :
    slices size size_pos text =
      text.take size :: slices size size_pos (text.drop size) := by
  cases text with
  | nil => exact absurd rfl h
  | cons c rest => rw [slices]

theorem flatten_slices (size : Nat) (size_pos : 0 < size) (text : Text) :
    (slices size size_pos text).flatten = text := by
  fun_induction slices size size_pos text with
  | case1 => rfl
  | case2 c rest ih => rw [List.flatten_cons, ih, List.take_append_drop]

theorem length_le_of_mem_slices {size : Nat} {size_pos : 0 < size} {text slice : Text}
    (h : slice ∈ slices size size_pos text) : slice.length ≤ size := by
  fun_induction slices size size_pos text with
  | case1 => simp at h
  | case2 c rest ih =>
      rcases List.mem_cons.1 h with rfl | h
      · simp only [List.length_take]
        omega
      · exact ih h

theorem ne_nil_of_mem_slices {size : Nat} {size_pos : 0 < size} {text slice : Text}
    (h : slice ∈ slices size size_pos text) : slice ≠ [] := by
  fun_induction slices size size_pos text with
  | case1 => simp at h
  | case2 c rest ih =>
      rcases List.mem_cons.1 h with rfl | h
      · cases size with
        | zero => omega
        | succ n => simp
      · exact ih h

theorem getElem?_slices (size : Nat) (size_pos : 0 < size) (text : Text) (index : Nat) :
    (slices size size_pos text)[index]? =
      if index * size < text.length then some ((text.drop (index * size)).take size) else none := by
  fun_induction slices size size_pos text generalizing index with
  | case1 => simp
  | case2 c rest ih =>
      cases index with
      | zero => simp
      | succ index =>
          have hlt : index * size < ((c :: rest).drop size).length ↔
              (index + 1) * size < (c :: rest).length := by
            rw [List.length_drop, Nat.succ_mul]
            omega
          have hdrop : ((c :: rest).drop size).drop (index * size) =
              (c :: rest).drop ((index + 1) * size) := by
            rw [List.drop_drop, Nat.succ_mul, Nat.add_comm]
          rw [List.getElem?_cons_succ, ih, hdrop]
          simp only [hlt]

theorem length_slices (size : Nat) (size_pos : 0 < size) (text : Text) :
    (slices size size_pos text).length = (text.length + size - 1) / size := by
  fun_induction slices size size_pos text with
  | case1 =>
      show 0 = (0 + size - 1) / size
      rw [Nat.zero_add, Nat.div_eq_of_lt (by omega)]
  | case2 c rest ih =>
      have hpos : 0 < (c :: rest).length := Nat.succ_pos rest.length
      show (slices size size_pos ((c :: rest).drop size)).length + 1 = _
      rw [ih, List.length_drop]
      by_cases hlong : (c :: rest).length ≤ size
      · have hone : (c :: rest).length + size - 1 = (c :: rest).length - 1 + size := by omega
        rw [Nat.sub_eq_zero_of_le hlong, Nat.zero_add, hone, Nat.add_div_right _ size_pos,
          Nat.div_eq_of_lt (by omega), Nat.div_eq_of_lt (by omega)]
      · have hsum : (c :: rest).length + size - 1 =
            (c :: rest).length - size + size - 1 + size := by omega
        rw [hsum, Nat.add_div_right _ size_pos]

end Text

end Chunking
