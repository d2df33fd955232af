import Chunking.Proofs.Levels
import Chunking.Proofs.Recording

/-!
# Calls

What one reads from the record of a chunking: no call runs out of boundaries, lending is not
done while something is lent, and how many calls are active at once.
-/

namespace Chunking

def Policy.textCall (policy : Policy) (cascade : Cascade) (text : Text) : Call :=
  ⟨.text, policy, cascade.boundaries, { text }, 0⟩

/-- The chunks of a text by the routine, with all that happened on the way. -/
def Policy.chunkRecorded (policy : Policy) (cascade : Cascade) (text : Text) :
    Except UnclosedTag (List Chunk) × List Event :=
  if text.isEmpty then (.ok [], [])
  else
    match Recording.assemble .text policy cascade.boundaries { text } ⟨0, 0, [], []⟩ with
    | .ok chunks record => (.ok (stampAll chunks), record.events)
    | .error tag record => (.error tag, record.events)

/-- Where a call may lie among the calls that are active when it begins. -/
structure Call.Placed (levels : Nat) (call : Call) (callers : List Call) : Prop where
  ends : call.boundaries.getLast? = some .character
  outermost : call.purpose = .text → callers = []
  /-- Only a level with others below it divides a piece further. -/
  finer : call.purpose = .part → ∃ caller outer, callers = caller :: outer ∧
    1 < caller.boundaries.length ∧ call.boundaries.length < caller.boundaries.length
  once : call.purpose = .lending → ∀ caller ∈ callers, caller.purpose ≠ .lending
  active : (call :: callers).length ≤ levels + 1

def Event.Regular (levels : Nat) : Event → Prop
  | .enters call callers => call.Placed levels callers
  | .stitches seams chunks => ∀ chunk ∈ chunks, seams.isStandalone chunk.toPiece = false →
      seams.budget.fits chunk.length = true
  | .returns call depth outcome => depth = call.depth ∧ outcome ≠ .ok []

/-- What a call needs so that the calls it makes are in place as well. -/
structure Call.Admitted (levels : Nat) (call : Call) (callers : List Call) : Prop
    extends call.Placed levels callers where
  ne_nil : call.piece.text ≠ []
  room : callers.length + call.boundaries.length ≤ levels + 1
  /-- A run that narrows a chunk starts from all boundaries again, so only the outermost call may
  start one. -/
  lends : (call.policy.budget.maxOverlap = 0 ∨ call.depth ≠ 0) ∨
    call = ⟨.text, call.policy, call.boundaries, { text := call.piece.text }, 0⟩ ∧
      call.boundaries.length ≤ levels

namespace Call.Admitted

variable {levels : Nat} {call : Call} {callers : List Call}

theorem part {boundary : Boundary} {finer : List Boundary} {part : Piece}
    (admitted : call.Admitted levels callers) (boundaries_eq : call.boundaries = boundary :: finer)
    (mem : part ∈ (boundary.divide call.piece.text).pieces)
    (long : call.policy.isLeaf part = false) :
    Call.Admitted levels ⟨.part, call.policy, finer, part, call.depth + 1⟩ (call :: callers) := by
  have ends := admitted.ends
  have room := admitted.room
  have hlength : call.boundaries.length = finer.length + 1 := by simp [boundaries_eq]
  rw [boundaries_eq] at ends
  have hends := Policy.getLast?_of_long ends mem long
  have hpos := List.length_pos_of_mem (List.mem_of_getLast? hends)
  constructor
  · constructor
    · exact hends
    · intro hpurpose
      cases hpurpose
    · intro _
      exact ⟨call, callers, rfl, by omega, by simp [hlength]⟩
    · intro hpurpose
      cases hpurpose
    · simp only [List.length_cons]
      omega
  · intro hnil
    simp [Policy.isLeaf, Piece.length, show part.text = [] from hnil, Budget.fits] at long
  · simp only [List.length_cons]
    omega
  · exact .inl (.inr (Nat.succ_ne_zero call.depth))

theorem lending {window : Budget} {narrowed : List Boundary} {chunk : Chunk}
    (admitted : call.Admitted levels callers)
    (window_eq : (call.policy.seams call.depth).budget.window? = some window)
    (narrows : Recording.Narrows call.boundaries narrowed) (ne_nil : chunk.text ≠ []) :
    Call.Admitted levels ⟨.lending, (call.policy.seams call.depth).within window, narrowed,
      chunk.toPiece, call.depth⟩ (call :: callers) := by
  rcases admitted.lends with inner | ⟨call_eq, hlevels⟩
  -- A run that narrows a chunk down has no overlap, and so lends nothing itself.
  · rw [Budget.window_eq_none (Policy.maxOverlap_seams inner)] at window_eq
    cases window_eq
  have htext : call.purpose = .text := by rw [call_eq]
  have hcallers : callers = [] := admitted.outermost htext
  have hends : narrowed.getLast? = some .character := by
    rcases narrows with rfl | rfl
    · exact admitted.ends
    · exact Policy.getLast?_withoutElements admitted.ends
  have hlength : narrowed.length ≤ call.boundaries.length := by
    rcases narrows with rfl | rfl
    · exact Nat.le_refl _
    · exact List.length_filter_le _ _
  have hpos := List.length_pos_of_mem (List.mem_of_getLast? hends)
  rw [hcallers]
  constructor
  · constructor
    · exact hends
    · intro hpurpose
      cases hpurpose
    · intro hpurpose
      cases hpurpose
    · simp [htext]
    · simp only [List.length_cons, List.length_nil]
      omega
  · exact ne_nil
  · simp only [List.length_cons, List.length_nil]
    omega
  · exact .inl (.inl (Budget.maxOverlap_window window_eq).2)

theorem fits_of_pack {boundary : Boundary} {finer : List Boundary} {pieces packed : List Chunk}
    {first second third last : Nat} (admitted : call.Admitted levels callers)
    (boundaries_eq : call.boundaries = boundary :: finer)
    (hsplit : boundary.split call.piece.text first = .ok pieces second)
    (hpack : call.policy.pack (fun part => call.policy.settle finer part.toPiece) .empty pieces
      third = .ok packed last) :
    ∀ chunk ∈ packed, (call.policy.seams call.depth).budget.fits chunk.length = true := by
  have ends := admitted.ends
  rw [boundaries_eq] at ends
  have hready : ∀ piece ∈ pieces, call.policy.Ready
      (fun part => call.policy.settle finer part.toPiece) (call.policy.leaves finer) piece :=
    Policy.ready_of_split ends Policy.arrangesBelow hsplit
  have hpacked := Policy.arranged_of_packs (Policy.packs_of_pack hpack) Policy.waits_empty hready
  intro chunk hchunk
  rw [Policy.fits_seams]
  exact Budget.fits_iff.2 (hpacked.length_le chunk hchunk)

theorem chunks_ne_nil (admitted : call.Admitted levels callers) (first last : Nat) :
    call.chunks first ≠ .ok [] last := by
  intro hchunks
  unfold chunks at hchunks
  rcases admitted.lends with inner | ⟨call_eq, -⟩
  · rw [Policy.assembleAt_eq_settle inner] at hchunks
    exact admitted.ne_nil (Policy.texts_of_settle admitted.ends hchunks).1.symm
  · rw [call_eq, Policy.assembleAt_zero] at hchunks
    have hleaves := (Policy.arranged_of_assemble admitted.ends hchunks).leaves_eq_nil
    have hjoined := Policy.joined_leaves_of_assemble hchunks
    rw [← Leaf.joined_withText, hleaves, Leaf.joined_nil] at hjoined
    exact admitted.ne_nil hjoined.symm

theorem governs (levels : Nat) :
    Recording.Governs (Call.Admitted levels) (Event.Regular levels) := by
  constructor
  case part => exact part
  case lending => exact lending
  case enters => exact toPlaced
  case stitches =>
    intro call callers boundary finer pieces packed first second third last admitted boundaries_eq
      hsplit hpack chunk hchunk _
    exact admitted.fits_of_pack boundaries_eq hsplit hpack chunk hchunk
  case returns =>
    intro call callers admitted first
    refine ⟨rfl, ?_⟩
    have hchunks := admitted.chunks_ne_nil first
    unfold Numbering.runFrom
    cases hcall : call.chunks first with
    | error tag last => simp
    | ok chunks last =>
        rw [hcall] at hchunks
        simpa using hchunks

theorem textCall (policy : Policy) (cascade : Cascade) {text : Text} (ne_nil : text ≠ []) :
    (policy.textCall cascade text).Admitted cascade.length [] := by
  constructor
  · constructor <;> simp [Policy.textCall, cascade.ends, Cascade.length]
  · exact ne_nil
  · simp [Policy.textCall, Cascade.length]
  · exact .inr ⟨rfl, Nat.le_refl _⟩

end Call.Admitted

/--
The routine chunks a text as the policy does.  No call of it is without a last boundary that
divides into characters; only a call with finer boundaries divides a piece, and the part is
looked at with fewer boundaries; nothing is lent while something is lent; at most one call more
than there are boundaries is active at once; what is packed once more fits unless it stands
alone; and a call returns at the depth at which it began, with an unclosed tag or with at least
one chunk.  All of that is in the record between the call for the text and its return.
-/
theorem Policy.chunkRecorded_regular (policy : Policy) (cascade : Cascade) (text : Text) :
    (policy.chunkRecorded cascade text).1 = policy.chunk cascade text ∧
      (∀ event ∈ (policy.chunkRecorded cascade text).2, event.Regular cascade.length) ∧
      (text ≠ [] → ∃ more, (policy.chunkRecorded cascade text).2 =
        .enters (policy.textCall cascade text) [] :: (more ++
          [.returns (policy.textCall cascade text) 0
            ((policy.assemble cascade.boundaries text).runFrom 0).1])) := by
  unfold chunkRecorded chunk
  by_cases hempty : text.isEmpty = true
  · simp [List.isEmpty_iff.1 hempty]
  · have ne_nil : text ≠ [] := by simpa using hempty
    have admitted := Call.Admitted.textCall policy cascade ne_nil
    have governs := Call.Admitted.governs cascade.length
    have hchunks : (policy.textCall cascade text).chunks =
        policy.assemble cascade.boundaries text :=
      policy.assembleAt_zero cascade.boundaries text
    obtain ⟨more, hmore, hrecording⟩ := Recording.performs_assemble governs admitted 0 []
    have hregular := Recording.regular_around (governs.enters admitted) hmore
      (governs.returns admitted 0)
    rw [hchunks, List.nil_append] at hrecording
    rw [hchunks] at hregular
    change Recording.assemble .text policy cascade.boundaries { text } ⟨0, 0, [], []⟩ = _
      at hrecording
    rw [if_neg hempty, if_neg hempty, hrecording]
    unfold Numbering.recorded Numbering.runFrom at *
    cases hassemble : policy.assemble cascade.boundaries text 0 with
    | ok chunks last =>
        rw [hassemble] at hregular
        exact ⟨rfl, hregular, fun _ => ⟨more, rfl⟩⟩
    | error tag last =>
        rw [hassemble] at hregular
        exact ⟨rfl, hregular, fun _ => ⟨more, rfl⟩⟩

/-- What a call that begins is for, and what the calls inside of which it begins are for. -/
def Event.entered? : Event → Option (Purpose × List Purpose)
  | .enters call callers => some (call.purpose, callers.map Call.purpose)
  | .stitches .. => none
  | .returns .. => none

-- `cdefg` is divided, and two ends are looked for, the second one by dividing again.
example : (Policy.chunkRecorded ⟨⟨4, 2, by decide, by decide⟩, []⟩ (.ofList [.word])
      "ab cdefg".toList).2.filterMap Event.entered? =
    [(.text, []), (.part, [.text]), (.lending, [.text]), (.lending, [.text]),
      (.part, [.lending, .text])] := by
  cbv

end Chunking
