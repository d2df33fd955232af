import Chunking.Proofs.Divisions
import Chunking.Proofs.Runs

/-!
# Leaves

The pieces of a text that are divided no further.  They are found without packing:
a piece that stands alone or fits is a leaf, and any other piece is replaced by its
own leaves at the finer boundaries.
-/

namespace Chunking

/-- A piece that is divided no further, with the pieces around it, the innermost first. -/
structure Leaf extends Piece where
  around : List Piece

namespace Leaf

/-- A piece of the outermost level. -/
def ofPiece (piece : Piece) : Leaf :=
  { piece with around := [] }

def under (piece : Piece) (leaf : Leaf) : Leaf :=
  { leaf with around := leaf.around ++ [piece] }

def joined (leaves : List Leaf) : Text :=
  leaves.flatMap fun leaf => leaf.text

def withText (leaves : List Leaf) : List Leaf :=
  leaves.filter fun leaf => !leaf.text.isEmpty

@[simp] theorem toPiece_ofPiece (piece : Piece) : (ofPiece piece).toPiece = piece := rfl

@[simp] theorem toPiece_under (piece : Piece) (leaf : Leaf) :
    (under piece leaf).toPiece = leaf.toPiece := rfl

@[simp] theorem joined_nil : joined [] = [] := rfl

@[simp] theorem joined_cons (leaf : Leaf) (leaves : List Leaf) :
    joined (leaf :: leaves) = leaf.text ++ joined leaves := rfl

@[simp] theorem joined_append (first second : List Leaf) :
    joined (first ++ second) = joined first ++ joined second :=
  List.flatMap_append

theorem joined_map_under (piece : Piece) (leaves : List Leaf) :
    joined (leaves.map (under piece)) = joined leaves := by
  unfold joined
  rw [List.flatMap_map]
  rfl

@[simp] theorem withText_append (first second : List Leaf) :
    withText (first ++ second) = withText first ++ withText second :=
  List.filter_append _ _

theorem withText_singleton {leaf : Leaf} (h : leaf.text ≠ []) : withText [leaf] = [leaf] := by
  simp [withText, h]

theorem withText_map_under (piece : Piece) (leaves : List Leaf) :
    withText (leaves.map (under piece)) = (withText leaves).map (under piece) := by
  unfold withText
  rw [List.filter_map]
  rfl

theorem joined_withText (leaves : List Leaf) : joined (withText leaves) = joined leaves := by
  induction leaves with
  | nil => rfl
  | cons leaf leaves ih =>
      unfold withText at ih ⊢
      rw [List.filter_cons, joined_cons]
      cases htext : leaf.text with
      | nil => simpa using ih
      | cons c rest => simp [ih, htext]

theorem withText_eq_nil {leaves : List Leaf} (h : joined leaves = []) : withText leaves = [] := by
  rw [withText, List.filter_eq_nil_iff]
  intro leaf hleaf
  simp [List.flatMap_eq_nil_iff.1 h leaf hleaf]

theorem ne_nil_of_mem_withText {leaf : Leaf} {leaves : List Leaf} (h : leaf ∈ withText leaves) :
    leaf.text ≠ [] := by
  have htext := (List.mem_filter.1 h).2
  simpa using htext

end Leaf

namespace Policy

def isLeaf (policy : Policy) (piece : Piece) : Bool :=
  policy.isStandalone piece || policy.budget.fits piece.length

/-- The leaves of a piece; those of the text of a longer one are given by `below`. -/
def leavesOf (policy : Policy) (below : Text → List Leaf) (piece : Piece) : List Leaf :=
  if policy.isLeaf piece then [.ofPiece piece] else (below piece.text).map (.under piece)

def leaves (policy : Policy) : List Boundary → Text → List Leaf
  | [], text => [.ofPiece { text }]
  | boundary :: finer, text =>
      (boundary.divide text).pieces.flatMap (policy.leavesOf (policy.leaves finer))

variable {policy : Policy} {below : Text → List Leaf} {piece : Piece}

theorem leavesOf_standalone (h : policy.isStandalone piece = true) :
    policy.leavesOf below piece = [.ofPiece piece] := by
  simp [leavesOf, isLeaf, h]

theorem leavesOf_fits (h : policy.budget.fits piece.length = true) :
    policy.leavesOf below piece = [.ofPiece piece] := by
  simp [leavesOf, isLeaf, h]

theorem isLeaf_eq_false (joinable : policy.isStandalone piece = false)
    (long : policy.budget.fits piece.length = false) : policy.isLeaf piece = false := by
  simp [isLeaf, joinable, long]

theorem leavesOf_long (long : policy.isLeaf piece = false) :
    policy.leavesOf below piece = (below piece.text).map (.under piece) := by
  simp [leavesOf, long]

/-! ## Leaves of a text that was divided -/

theorem Packs.divided {descend : Chunk → Numbering (List Chunk)} {waiting : Buffer}
    {pieces chunks : List Chunk} {first last : Nat}
    (run : Packs policy descend waiting pieces first chunks last) {piece : Chunk}
    (mem : piece ∈ pieces) (long : policy.isLeaf piece.toPiece = false) :
    ∃ second parts third, descend piece second = .ok parts third := by
  have htail : ∀ {head : Chunk} {tail : List Chunk}, policy.isLeaf head.toPiece = true →
      piece ∈ head :: tail → piece ∈ tail := by
    intro head tail hleaf hmem
    rcases List.mem_cons.1 hmem with rfl | hmem
    · rw [hleaf] at long
      cases long
    · exact hmem
  induction run with
  | nil => cases mem
  | standalone alone _ _ _ ih => exact ih (htail (by simp [isLeaf, alone]) mem)
  | @room waiting head _ _ _ _ _ room _ ih =>
      have hfits : policy.isLeaf head.toPiece = true := by
        have hroom := Budget.hasRoom_iff.1 room
        have hlength : policy.budget.fits head.length = true := by
          rw [Budget.fits_iff]
          omega
        simp [isLeaf, hlength]
      exact ih (htail hfits mem)
  | start _ _ _ fits _ ih => exact ih (htail (by simp [isLeaf, fits]) mem)
  | divide _ _ _ _ below _ ih =>
      rcases List.mem_cons.1 mem with rfl | mem
      · exact ⟨_, _, _, below⟩
      · exact ih mem

theorem joined_leavesOf {pieces : List Piece}
    (hbelow : ∀ piece ∈ pieces, policy.isLeaf piece = false →
      Leaf.joined (below piece.text) = piece.text) :
    Leaf.joined (pieces.flatMap (policy.leavesOf below)) = pieces.flatMap Piece.text := by
  induction pieces with
  | nil => rfl
  | cons piece pieces ih =>
      have hhead : Leaf.joined (policy.leavesOf below piece) = piece.text := by
        unfold leavesOf
        split
        · simp
        · next long =>
            rw [Leaf.joined_map_under]
            exact hbelow piece List.mem_cons_self (Bool.eq_false_iff.2 long)
      rw [List.flatMap_cons, List.flatMap_cons, Leaf.joined_append, hhead,
        ih fun piece hpiece => hbelow piece (List.mem_cons_of_mem _ hpiece)]

theorem joined_leaves_of_packs {boundary : Boundary} {finer : List Boundary} {text : Text}
    {descend : Chunk → Numbering (List Chunk)} {pieces chunks : List Chunk}
    {first second third : Nat} (split : boundary.split text first = .ok pieces second)
    (run : Packs policy descend .empty pieces second chunks third)
    (hbelow : ∀ piece first parts last, descend piece first = .ok parts last →
      Leaf.joined (policy.leaves finer piece.text) = piece.text) :
    Leaf.joined (policy.leaves (boundary :: finer) text) = text := by
  obtain ⟨hclosed, hpieces⟩ := Boundary.split_eq_ok split
  have hlong : ∀ piece ∈ (boundary.divide text).pieces, policy.isLeaf piece = false →
      Leaf.joined (policy.leaves finer piece.text) = piece.text := by
    rw [← hpieces]
    intro piece hpiece long
    obtain ⟨chunk, hchunk, rfl⟩ := List.mem_map.1 hpiece
    obtain ⟨second, parts, third, hdescend⟩ := run.divided hchunk long
    exact hbelow chunk second parts third hdescend
  rw [leaves, joined_leavesOf hlong]
  exact Boundary.joined_divide hclosed

theorem joined_leaves_nil (boundaries : List Boundary) :
    Leaf.joined (policy.leaves boundaries []) = [] := by
  cases boundaries with
  | nil => simp [leaves]
  | cons boundary finer =>
      have hjoined := Boundary.joined_divide boundary.unclosed_divide_nil
      have hpieces : ∀ piece ∈ (boundary.divide []).pieces, policy.isLeaf piece = true := by
        intro piece hpiece
        have hfits : policy.budget.fits piece.length = true := by
          rw [Budget.fits_iff, Piece.length, List.flatMap_eq_nil_iff.1 hjoined piece hpiece]
          exact Nat.zero_le _
        simp [isLeaf, hfits]
      rw [leaves, joined_leavesOf]
      · exact hjoined
      · intro piece hpiece long
        rw [hpieces piece hpiece] at long
        cases long

theorem joined_leaves_of_settle {boundaries : List Boundary} {piece : Piece} {chunks : List Chunk}
    {first last : Nat} (h : policy.settle boundaries piece first = .ok chunks last) :
    Leaf.joined (policy.leaves boundaries piece.text) = piece.text := by
  induction boundaries generalizing piece chunks first last with
  | nil => simp [leaves]
  | cons boundary finer ih =>
      obtain ⟨pieces, second, packed, third, repacked, hsplit, hpack, -, -⟩ := settle_cons h
      exact joined_leaves_of_packs hsplit hpack fun piece first parts last hbelow => ih hbelow

theorem joined_leaves_of_assemble {boundaries : List Boundary} {text : Text} {chunks : List Chunk}
    {first last : Nat} (h : policy.assemble boundaries text first = .ok chunks last) :
    Leaf.joined (policy.leaves boundaries text) = text := by
  cases boundaries with
  | nil => simp [leaves]
  | cons boundary finer =>
      obtain ⟨pieces, second, packed, third, stitched, hsplit, hpack, -, -⟩ := assemble_cons h
      exact joined_leaves_of_packs hsplit hpack fun piece first parts last hbelow =>
        joined_leaves_of_settle hbelow

end Policy

end Chunking
