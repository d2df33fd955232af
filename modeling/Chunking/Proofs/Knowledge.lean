import Chunking.Proofs.Joining
import Chunking.Proofs.Leaves

/-!
# What is known of leaves

Metadata come from the leaf itself and from the pieces around it.  What a chunk says of a
run of leaves is sound if it holds somewhere on the way out of each of them, and complete
if it says all that holds of each of them, where the innermost value counts.  Joining,
borrowing and surrounding keep soundness, and all but borrowing keep completeness.
-/

namespace Chunking

/-- Whether values of the key come from pieces.  Those of the other keys come from numbers. -/
def Metadata.IsSourceKey (key : String) : Prop :=
  key ≠ previousKey ∧ key ≠ idKey ∧ key ≠ indexKey

/-! ## From a leaf outwards -/

namespace Leaf

/-- The leaf and the pieces around it, from the inside out. -/
def path (leaf : Leaf) : List Piece :=
  leaf.toPiece :: leaf.around

/-- The value is that of the leaf or of a piece around it. -/
def Knows (leaf : Leaf) (key value : String) : Prop :=
  ∃ piece ∈ leaf.path, piece.get? key = some value

/-- The value of the innermost piece that has one. -/
def effective? (leaf : Leaf) (key : String) : Option String :=
  leaf.path.findSome? fun piece => piece.get? key

theorem knows_ofPiece {piece : Piece} {key value : String} :
    (ofPiece piece).Knows key value ↔ piece.get? key = some value := by
  simp [Knows, path, ofPiece]

theorem effective?_ofPiece (piece : Piece) (key : String) :
    (ofPiece piece).effective? key = piece.get? key := by
  unfold effective? path ofPiece
  rw [List.findSome?_cons]
  cases piece.get? key <;> rfl

theorem effective?_eq_none_iff {leaf : Leaf} {key : String} :
    leaf.effective? key = none ↔ ∀ value, ¬leaf.Knows key value := by
  unfold effective? Knows
  rw [List.findSome?_eq_none_iff]
  constructor
  · rintro h value ⟨piece, hpiece, hvalue⟩
    rw [h piece hpiece] at hvalue
    cases hvalue
  · intro h piece hpiece
    rw [Option.eq_none_iff_forall_ne_some]
    exact fun value hvalue => h value ⟨piece, hpiece, hvalue⟩

/-- The map puts the surroundings around leaves, outside of all that is around them. -/
structure Surrounds (surroundings : Piece) (g : Leaf → Leaf) : Prop where
  toPiece_eq : ∀ leaf, (g leaf).toPiece = leaf.toPiece
  knows_iff : ∀ leaf key value, (g leaf).Knows key value ↔
    leaf.Knows key value ∨ surroundings.get? key = some value
  effective?_eq : ∀ leaf key,
    (g leaf).effective? key = (leaf.effective? key).or (surroundings.get? key)

theorem surrounds_under (piece : Piece) : Surrounds piece (under piece) where
  toPiece_eq := toPiece_under piece
  knows_iff := by
    intro leaf key value
    have hpath : (under piece leaf).path = leaf.path ++ [piece] := rfl
    unfold Knows
    simp [hpath, or_and_right, exists_or]
  effective?_eq := by
    intro leaf key
    have hpath : (under piece leaf).path = leaf.path ++ [piece] := rfl
    unfold effective?
    rw [hpath, List.findSome?_append, List.findSome?_cons, List.findSome?_nil]
    cases piece.get? key <;> rfl

theorem surrounds_plain (text : Text) : Surrounds { text } id where
  toPiece_eq _ := rfl
  knows_iff leaf key value := by simp [Piece.get?]
  effective?_eq leaf key := by simp [Piece.get?]

end Leaf

/-! ## What a piece says of a run of leaves -/

/-- What the piece says holds of every leaf.  If it repeats nothing from elsewhere, it says all
that holds of every leaf. -/
structure Tells (repeated : Nat) (run : List Leaf) (piece : Piece) : Prop where
  sound : ∀ key value, Metadata.IsSourceKey key → piece.get? key = some value →
    ∀ leaf ∈ run, leaf.Knows key value
  complete : repeated = 0 → run ≠ [] → ∀ key value, Metadata.IsSourceKey key →
    (∀ leaf ∈ run, leaf.effective? key = some value) → piece.get? key = some value

namespace Tells

variable {repeated : Nat} {run more : List Leaf} {piece other : Piece}

theorem nil (repeated : Nat) (piece : Piece) : Tells repeated [] piece :=
  ⟨fun _ _ _ _ _ hleaf => absurd hleaf List.not_mem_nil, fun _ hne => absurd rfl hne⟩

theorem of_leaf (piece : Piece) : Tells 0 [.ofPiece piece] piece where
  sound := by
    intro key value _ hvalue leaf hleaf
    rw [List.mem_singleton.1 hleaf, Leaf.knows_ofPiece]
    exact hvalue
  complete := by
    intro _ _ key value _ hall
    have hleaf := hall _ (List.mem_singleton_self _)
    rwa [Leaf.effective?_ofPiece] at hleaf

theorem congr (h : Tells repeated run piece)
    (hget : ∀ key, Metadata.IsSourceKey key → other.get? key = piece.get? key) :
    Tells repeated run other where
  sound := by
    intro key value hkey hvalue
    rw [hget key hkey] at hvalue
    exact h.sound key value hkey hvalue
  complete := by
    intro hzero hne key value hkey hall
    rw [hget key hkey]
    exact h.complete hzero hne key value hkey hall

theorem join (h : Tells repeated run piece) (hmore : Tells 0 more other)
    (hpiece : piece.text = [] ↔ repeated = 0 ∧ run = []) (hother : other.text = [] ↔ more = []) :
    Tells repeated (run ++ more) (piece.join other) := by
  by_cases hfirst : piece.text = []
  · obtain ⟨rfl, rfl⟩ := hpiece.1 hfirst
    refine hmore.congr fun key _ => ?_
    simp [Piece.join, Piece.get?, hfirst]
  · by_cases hsecond : other.text = []
    · rw [hother.1 hsecond, List.append_nil]
      refine h.congr fun key _ => ?_
      simp [Piece.join, Piece.get?, hfirst, hsecond]
    · have hget : ∀ {key value}, (piece.join other).get? key = some value ↔
          piece.get? key = some value ∧ other.get? key = some value :=
        Piece.get?_join_of_text hfirst hsecond
      refine ⟨fun key value hkey hvalue leaf hleaf => ?_, fun hzero _ key value hkey hall => ?_⟩
      · rw [hget] at hvalue
        rcases List.mem_append.1 hleaf with hleaf | hleaf
        · exact h.sound key value hkey hvalue.1 leaf hleaf
        · exact hmore.sound key value hkey hvalue.2 leaf hleaf
      · have hrun : run ≠ [] := fun hnil => hfirst (hpiece.2 ⟨hzero, hnil⟩)
        rw [hget]
        exact ⟨h.complete hzero hrun key value hkey fun leaf hleaf =>
            hall leaf (List.mem_append_left _ hleaf),
          hmore.complete rfl (mt hother.2 hsecond) key value hkey fun leaf hleaf =>
            hall leaf (List.mem_append_right _ hleaf)⟩

theorem borrow (h : Tells 0 run piece) (hpiece : piece.text ≠ []) (hother : other.text ≠ []) :
    Tells other.text.length run (other.join piece) where
  sound := by
    intro key value hkey hvalue
    exact h.sound key value hkey ((Piece.get?_join_of_text hother hpiece).1 hvalue).2
  complete := fun hzero => absurd (List.eq_nil_of_length_eq_zero hzero) hother

theorem surround {surroundings : Piece} {g : Leaf → Leaf} (h : Tells repeated run piece)
    (hg : Leaf.Surrounds surroundings g)
    (hget : ∀ key, Metadata.IsSourceKey key →
      other.get? key = (piece.get? key).or (surroundings.get? key)) :
    Tells repeated (run.map g) other where
  sound := by
    intro key value hkey hvalue
    rw [List.forall_mem_map]
    intro leaf hleaf
    rw [hg.knows_iff]
    rw [hget key hkey, Option.or_eq_some_iff] at hvalue
    rcases hvalue with hvalue | ⟨-, hvalue⟩
    · exact .inl (h.sound key value hkey hvalue leaf hleaf)
    · exact .inr hvalue
  complete := by
    intro hzero hne key value hkey hall
    rw [List.forall_mem_map] at hall
    simp only [hg.effective?_eq] at hall
    have hrun : run ≠ [] := fun hnil => hne (List.map_eq_nil_iff.2 hnil)
    rw [hget key hkey]
    by_cases hinner : ∀ leaf ∈ run, leaf.effective? key = some value
    · rw [h.complete hzero hrun key value hkey hinner, Option.some_or]
    · -- Some leaf has its value from the surroundings, so the piece says nothing about the key.
      obtain ⟨leaf, hother⟩ := Classical.not_forall.1 hinner
      obtain ⟨hleaf, hother⟩ := Classical.not_imp.1 hother
      have hvalue := hall leaf hleaf
      have hnone : leaf.effective? key = none := by
        cases heffective : leaf.effective? key with
        | none => rfl
        | some own =>
            rw [heffective, Option.some_or] at hvalue
            exact absurd (heffective.trans hvalue) hother
      have hsilent : piece.get? key = none := by
        rw [Option.eq_none_iff_forall_ne_some]
        intro own hown
        exact Leaf.effective?_eq_none_iff.1 hnone own (h.sound key own hkey hown leaf hleaf)
      rwa [hsilent, ← hnone]

end Tells

end Chunking
