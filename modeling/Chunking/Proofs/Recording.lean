import Chunking.Proofs.Leaves

/-!
# Recording

The chunking of a text as one routine that counts how deep it is nested and keeps a record:
every call with the calls inside of which it is made, the chunks that each level packs once
more, and how each call ends.  Only at depth zero are chunks given an overlap, so a count that
is not taken back after a failure would lose every overlap behind it.  The routine takes the
steps of `Policy` and comes to what they come to; what holds of the calls and events is an
induction over its levels.
-/

namespace Chunking

namespace Budget

def withoutOverlap (budget : Budget) : Budget :=
  ⟨budget.maxSize, 0, budget.size_pos, Nat.zero_le _⟩

end Budget

namespace Policy

/-- The policy for the seams at a depth: below the outermost level nothing is repeated. -/
def seams (policy : Policy) (depth : Nat) : Policy :=
  if depth = 0 then policy else policy.within policy.budget.withoutOverlap

theorem maxOverlap_seams_le (policy : Policy) (depth : Nat) :
    (policy.seams depth).budget.maxOverlap ≤ policy.budget.maxOverlap := by
  unfold seams
  split
  · exact Nat.le_refl _
  · exact Nat.zero_le _

theorem maxOverlap_seams {policy : Policy} {depth : Nat}
    (h : policy.budget.maxOverlap = 0 ∨ depth ≠ 0) :
    (policy.seams depth).budget.maxOverlap = 0 := by
  unfold seams
  split
  · next hdepth => exact h.resolve_right (not_not_intro hdepth)
  · rfl

theorem fits_seams (policy : Policy) (depth length : Nat) :
    (policy.seams depth).budget.fits length = policy.budget.fits length := by
  unfold seams
  split <;> rfl

/-- Where nothing is lent, the overlap limit does not matter. -/
theorem stitch_seams (policy : Policy) (depth : Nat) (waiting : Buffer) (chunks : List Chunk) :
    (policy.seams depth).stitch lendNothing waiting chunks =
      policy.stitch lendNothing waiting chunks := by
  unfold seams
  split
  · rfl
  · induction chunks generalizing waiting with
    | nil => rfl
    | cons chunk chunks ih =>
        unfold stitch
        simp only [ih]
        rfl

def assembleAt (policy : Policy) (depth : Nat) : List Boundary → Piece → Numbering (List Chunk)
  | [], piece => policy.settle [] piece
  | boundary :: finer, piece =>
      policy.level boundary (fun part => policy.settle finer part.toPiece)
        ((policy.seams depth).stitch ((policy.seams depth).lend (boundary :: finer)) .empty) piece

/-- Below the outermost level, or without overlap, a piece is settled. -/
theorem assembleAt_eq_settle {policy : Policy} {depth : Nat}
    (h : policy.budget.maxOverlap = 0 ∨ depth ≠ 0) (boundaries : List Boundary) (piece : Piece) :
    policy.assembleAt depth boundaries piece = policy.settle boundaries piece := by
  cases boundaries with
  | nil => rfl
  | cons boundary finer =>
      have hrepack : (policy.seams depth).stitch lendNothing .empty = policy.repack :=
        funext (policy.stitch_seams depth .empty)
      rw [assembleAt, lend_of_overlap_eq (maxOverlap_seams h), hrepack, settle]

theorem assembleAt_zero (policy : Policy) (boundaries : List Boundary) (text : Text) :
    policy.assembleAt 0 boundaries { text } = policy.assemble boundaries text := by
  cases boundaries <;> rfl

end Policy

/-! ## Records -/

/-- What chunks are assembled for. -/
inductive Purpose where
  | text
  /-- A piece that has to be divided. -/
  | part
  /-- The end of a chunk that the next one may repeat. -/
  | lending
deriving DecidableEq

/-- A call of the routine: what it is given, and the depth at which it begins. -/
structure Call where
  purpose : Purpose
  policy : Policy
  boundaries : List Boundary
  piece : Piece
  depth : Nat

def Call.chunks (call : Call) : Numbering (List Chunk) :=
  call.policy.assembleAt call.depth call.boundaries call.piece

inductive Event where
  /-- A call begins inside of others, of which the innermost comes first. -/
  | enters (call : Call) (callers : List Call)
  /-- Chunks are packed once more under a policy. -/
  | stitches (seams : Policy) (chunks : List Chunk)
  | returns (call : Call) (depth : Nat) (outcome : Except UnclosedTag (List Chunk))

/-- The next number, how many levels the chunking is inside of, the calls that are active, and
all that happened before. -/
structure Record where
  next : Nat
  depth : Nat
  callers : List Call
  events : List Event

/-- A computation that draws numbers, counts levels and keeps a record. -/
abbrev Recording := EStateM UnclosedTag Record

def Numbering.recorded (action : Numbering α) : Recording α := fun record =>
  match action record.next with
  | .ok value next => .ok value { record with next }
  | .error tag next => .error tag { record with next }

instance : MonadLift Numbering Recording := ⟨Numbering.recorded⟩

namespace Record

def enter (record : Record) (call : Call) : Record :=
  { record with
    callers := call :: record.callers
    events := record.events ++ [.enters call record.callers] }

def leave (record : Record) (call : Call) (outcome : Except UnclosedTag (List Chunk)) : Record :=
  { record with
    callers := record.callers.tail
    events := record.events ++ [.returns call record.depth outcome] }

end Record

namespace Recording

/-! ## The routine -/

def note (event : Event) : Recording Unit :=
  modify fun record => { record with events := record.events ++ [event] }

def atDepth (body : Nat → Recording α) : Recording α := fun record =>
  body record.depth record

/-- One level down.  The depth is taken back, whatever the outcome is. -/
def deeper (body : Recording α) : Recording α := fun record =>
  match body { record with depth := record.depth + 1 } with
  | .ok value after => .ok value { after with depth := after.depth - 1 }
  | .error tag after => .error tag { after with depth := after.depth - 1 }

/-- A call is active until its body ends. -/
def calling (purpose : Purpose) (policy : Policy) (boundaries : List Boundary) (piece : Piece)
    (body : Recording (List Chunk)) : Recording (List Chunk) := fun record =>
  let call : Call := ⟨purpose, policy, boundaries, piece, record.depth⟩
  match body (record.enter call) with
  | .ok chunks after => .ok chunks (after.leave call (.ok chunks))
  | .error tag after => .error tag (after.leave call (.error tag))

mutual

/-- The chunks of a piece, with overlap if the depth is zero. -/
def assemble (purpose : Purpose) (policy : Policy) :
    List Boundary → Piece → Recording (List Chunk)
  | [], piece => calling purpose policy [] piece (policy.settle [] piece)
  | boundary :: finer, piece => calling purpose policy (boundary :: finer) piece <|
      policy.level boundary (fun part => deeper (assemble .part policy finer part.toPiece))
        (fun packed => atDepth fun depth => do
          note (.stitches (policy.seams depth) packed)
          (policy.seams depth).stitch
            (fun chunk => lend (policy.seams depth) (boundary :: finer) chunk) .empty packed)
        piece
termination_by boundaries _ => (policy.budget.maxOverlap, boundaries.length, 1)
decreasing_by
  · exact Prod.Lex.right _ (Prod.Lex.left _ _ (Nat.lt_succ_self _))
  · rcases Nat.lt_or_eq_of_le (policy.maxOverlap_seams_le depth) with hlt | heq
    · exact Prod.Lex.left _ _ hlt
    · rw [heq]
      exact Prod.Lex.right _ (Prod.Lex.right _ Nat.zero_lt_one)

def lend (policy : Policy) (boundaries : List Boundary) (chunk : Chunk) :
    Recording (Option Chunk) :=
  match _ : policy.budget.window? with
  | none => return none
  | some window =>
      Policy.lendWithin window
        (fun boundaries => assemble .lending (policy.within window) boundaries chunk.toPiece)
        boundaries chunk
termination_by (policy.budget.maxOverlap, boundaries.length, 0)
decreasing_by
  obtain ⟨hpos, hzero⟩ := Budget.maxOverlap_window ‹policy.budget.window? = some window›
  refine Prod.Lex.left _ _ ?_
  show window.maxOverlap < _
  omega

end

/-! ## Following a computation that only draws numbers -/

/-- Started at the depth inside of the callers, the recording does what the action does.  It
ends there as well, and what it adds to the record is regular. -/
def Follows (regular : Event → Prop) (depth : Nat) (callers : List Call)
    (recording : Recording α) (action : Numbering α) : Prop :=
  ∀ next events, ∃ more, (∀ event ∈ more, regular event) ∧
    recording ⟨next, depth, callers, events⟩ =
      action.recorded ⟨next, depth, callers, events ++ more⟩

section Rules

variable {regular : Event → Prop} {depth : Nat} {callers : List Call} {recording : Recording α}
  {action : Numbering α}

theorem follows_recorded (action : Numbering α) :
    Follows regular depth callers action.recorded action := by
  intro next events
  exact ⟨[], by simp, by simp⟩

theorem follows_pure (value : α) : Follows regular depth callers (pure value) (pure value) :=
  follows_recorded (pure value)

theorem Follows.of_ok {next second : Nat} {value : α}
    (h : Follows regular depth callers recording action)
    (haction : action next = .ok value second) (events : List Event) :
    ∃ more, (∀ event ∈ more, regular event) ∧
      recording ⟨next, depth, callers, events⟩ =
        .ok value ⟨second, depth, callers, events ++ more⟩ := by
  obtain ⟨more, hmore, hrecording⟩ := h next events
  simp only [Numbering.recorded, haction] at hrecording
  exact ⟨more, hmore, hrecording⟩

theorem Follows.of_error {next second : Nat} {tag : UnclosedTag}
    (h : Follows regular depth callers recording action)
    (haction : action next = .error tag second) (events : List Event) :
    ∃ more, (∀ event ∈ more, regular event) ∧
      recording ⟨next, depth, callers, events⟩ =
        .error tag ⟨second, depth, callers, events ++ more⟩ := by
  obtain ⟨more, hmore, hrecording⟩ := h next events
  simp only [Numbering.recorded, haction] at hrecording
  exact ⟨more, hmore, hrecording⟩

/-- What comes later has to follow only for the values that the action can come to. -/
theorem Follows.bind {later : α → Recording β} {after : α → Numbering β}
    (h : Follows regular depth callers recording action)
    (hlater : ∀ value, (∃ first last, action first = .ok value last) →
      Follows regular depth callers (later value) (after value)) :
    Follows regular depth callers (recording >>= later) (action >>= after) := by
  intro next events
  unfold Numbering.recorded
  cases haction : action next with
  | ok value second =>
      obtain ⟨more, hmore, hrecording⟩ := h.of_ok haction events
      obtain ⟨others, hothers, hafter⟩ :=
        hlater value ⟨next, second, haction⟩ second (events ++ more)
      refine ⟨more ++ others, List.forall_mem_append.2 ⟨hmore, hothers⟩, ?_⟩
      rw [Numbering.bind_of_ok hrecording, hafter, Numbering.bind_of_ok haction, List.append_assoc]
      rfl
  | error tag second =>
      obtain ⟨more, hmore, hrecording⟩ := h.of_error haction events
      refine ⟨more, hmore, ?_⟩
      rw [Numbering.bind_of_error hrecording, Numbering.bind_of_error haction]

theorem Follows.tryCatch {instead : UnclosedTag → Recording α} {other : UnclosedTag → Numbering α}
    (h : Follows regular depth callers recording action)
    (hinstead : ∀ tag, Follows regular depth callers (instead tag) (other tag)) :
    Follows regular depth callers (tryCatch recording instead) (tryCatch action other) := by
  intro next events
  unfold Numbering.recorded
  cases haction : action next with
  | ok value second =>
      obtain ⟨more, hmore, hrecording⟩ := h.of_ok haction events
      refine ⟨more, hmore, ?_⟩
      rw [Numbering.tryCatch_of_ok hrecording, Numbering.tryCatch_of_ok haction]
  | error tag second =>
      obtain ⟨more, hmore, hrecording⟩ := h.of_error haction events
      obtain ⟨others, hothers, hother⟩ := hinstead tag second (events ++ more)
      refine ⟨more ++ others, List.forall_mem_append.2 ⟨hmore, hothers⟩, ?_⟩
      rw [Numbering.tryCatch_of_error hrecording, hother, Numbering.tryCatch_of_error haction,
        List.append_assoc]
      rfl

theorem Follows.note {event : Event} (hevent : regular event)
    (h : Follows regular depth callers recording action) :
    Follows regular depth callers (do note event; recording) action := by
  intro next events
  obtain ⟨more, hmore, hrecording⟩ := h next (events ++ [event])
  refine ⟨event :: more, List.forall_mem_cons.2 ⟨hevent, hmore⟩, ?_⟩
  show recording ⟨next, depth, callers, events ++ [event]⟩ = _
  rw [hrecording, List.append_assoc, List.singleton_append]

theorem Follows.atDepth {body : Nat → Recording α}
    (h : Follows regular depth callers (body depth) action) :
    Follows regular depth callers (atDepth body) action :=
  h

theorem Follows.deeper (h : Follows regular (depth + 1) callers recording action) :
    Follows regular depth callers (deeper recording) action := by
  intro next events
  obtain ⟨more, hmore, hrecording⟩ := h next events
  refine ⟨more, hmore, ?_⟩
  simp only [Recording.deeper, hrecording, Numbering.recorded]
  cases action next <;> rfl

/-- The recording does what the call is to do.  To the record it adds regular events between
the beginning of the call and its return. -/
def Performs (regular : Event → Prop) (call : Call) (callers : List Call)
    (recording : Recording (List Chunk)) : Prop :=
  ∀ next events, ∃ more, (∀ event ∈ more, regular event) ∧
    recording ⟨next, call.depth, callers, events⟩ =
      call.chunks.recorded ⟨next, call.depth, callers, events ++ .enters call callers ::
        (more ++ [.returns call call.depth (call.chunks.runFrom next).1])⟩

theorem Follows.performs {call : Call} {body : Recording (List Chunk)}
    (h : Follows regular call.depth (call :: callers) body call.chunks) :
    Performs regular call callers
      (calling call.purpose call.policy call.boundaries call.piece body) := by
  intro next events
  obtain ⟨more, hmore, hbody⟩ := h next (events ++ [.enters call callers])
  refine ⟨more, hmore, ?_⟩
  simp only [calling, Record.enter, hbody, Numbering.recorded, Numbering.runFrom]
  cases call.chunks next <;> simp [Record.leave]

theorem regular_around {call : Call} {events : List Event} (enters : regular (.enters call callers))
    (within : ∀ event ∈ events, regular event) {outcome : Except UnclosedTag (List Chunk)}
    (returns : regular (.returns call depth outcome)) :
    ∀ event ∈ .enters call callers :: (events ++ [.returns call depth outcome]),
      regular event := by
  rw [List.forall_mem_cons, List.forall_mem_append, List.forall_mem_singleton]
  exact ⟨enters, within, returns⟩

theorem Performs.follows {call : Call} {recording : Recording (List Chunk)}
    (h : Performs regular call callers recording) (enters : regular (.enters call callers))
    (returns : ∀ first, regular (.returns call call.depth (call.chunks.runFrom first).1)) :
    Follows regular call.depth callers recording call.chunks := by
  intro next events
  obtain ⟨more, hmore, hrecording⟩ := h next events
  exact ⟨_, regular_around enters hmore (returns next), hrecording⟩

theorem follows_pack {policy : Policy} {descend : Chunk → Recording (List Chunk)}
    {below : Chunk → Numbering (List Chunk)} {pieces : List Chunk}
    (h : ∀ piece ∈ pieces, policy.isLeaf piece.toPiece = false →
      Follows regular depth callers (descend piece) (below piece)) (waiting : Buffer) :
    Follows regular depth callers (policy.pack descend waiting pieces)
      (policy.pack below waiting pieces) := by
  induction pieces generalizing waiting with
  | nil => exact (follows_recorded _).bind fun packed _ => follows_pure _
  | cons piece pieces ih =>
      obtain ⟨hpiece, hpieces⟩ := List.forall_mem_cons.1 h
      have ih := ih hpieces
      unfold Policy.pack
      split
      · apply (follows_recorded _).bind
        intro packed _
        apply (follows_recorded _).bind
        intro own _
        exact (ih _).bind fun later _ => follows_pure _
      · next joinable =>
          split
          · exact ih _
          · apply (follows_recorded _).bind
            intro packed _
            split
            · exact (ih _).bind fun later _ => follows_pure _
            · next long =>
                apply (hpiece (by simp [Policy.isLeaf, joinable, long])).bind
                intro parts _
                exact (ih _).bind fun later _ => follows_pure _

theorem follows_stitch {policy : Policy} {lend : Chunk → Recording (Option Chunk)}
    {other : Chunk → Numbering (Option Chunk)}
    (h : ∀ chunk, Follows regular depth callers (lend chunk) (other chunk)) (waiting : Buffer)
    (chunks : List Chunk) :
    Follows regular depth callers (policy.stitch lend waiting chunks)
      (policy.stitch other waiting chunks) := by
  induction chunks generalizing waiting with
  | nil => exact (follows_recorded _).bind fun packed _ => follows_pure _
  | cons chunk chunks ih =>
      unfold Policy.stitch
      split
      · apply (follows_recorded _).bind
        intro packed _
        exact (ih _).bind fun later _ => follows_pure _
      · split
        · apply (follows_recorded _).bind
          intro packed _
          apply (follows_recorded _).bind
          intro parts _
          exact (ih _).bind fun later _ => follows_pure _
        · split
          · exact ih _
          · apply (follows_recorded _).bind
            intro packed _
            cases packed with
            | none => exact ih _
            | some packed =>
                apply (h packed).bind
                intro borrowed _
                apply (follows_recorded _).bind
                intro next _
                exact (ih _).bind fun later _ => follows_pure _

end Rules

/-! ## Calls and what they make -/

/-- Both ways to look for the end of a chunk. -/
def Narrows (boundaries narrowed : List Boundary) : Prop :=
  narrowed = boundaries ∨ narrowed = boundaries.filter fun boundary => !boundary.isElement

/-- What is allowed passes from a call to those that it makes, and what then happens is
regular. -/
structure Governs (allowed : Call → List Call → Prop) (regular : Event → Prop) : Prop where
  part {call callers boundary finer part} : allowed call callers →
    call.boundaries = boundary :: finer → part ∈ (boundary.divide call.piece.text).pieces →
    call.policy.isLeaf part = false →
    allowed ⟨.part, call.policy, finer, part, call.depth + 1⟩ (call :: callers)
  lending {call callers window narrowed} {chunk : Chunk} : allowed call callers →
    (call.policy.seams call.depth).budget.window? = some window →
    Narrows call.boundaries narrowed → chunk.text ≠ [] →
    allowed ⟨.lending, (call.policy.seams call.depth).within window, narrowed, chunk.toPiece,
      call.depth⟩ (call :: callers)
  enters {call callers} : allowed call callers → regular (.enters call callers)
  stitches {call callers boundary finer pieces packed first second third last} :
    allowed call callers → call.boundaries = boundary :: finer →
    boundary.split call.piece.text first = .ok pieces second →
    call.policy.pack (fun part => call.policy.settle finer part.toPiece) .empty pieces third =
      .ok packed last →
    regular (.stitches (call.policy.seams call.depth) packed)
  returns {call callers} : allowed call callers →
    ∀ first, regular (.returns call call.depth (call.chunks.runFrom first).1)

section Levels

variable {allowed : Call → List Call → Prop} {regular : Event → Prop} {callers : List Call}

theorem performs_level {call : Call} (governs : Governs allowed regular) (h : allowed call callers)
    {boundary : Boundary} {finer : List Boundary}
    (boundaries_eq : call.boundaries = boundary :: finer)
    (parts : ∀ part ∈ (boundary.divide call.piece.text).pieces, call.policy.isLeaf part = false →
      Follows regular (call.depth + 1) (call :: callers)
        (assemble .part call.policy finer part) (call.policy.settle finer part))
    (lends : ∀ chunk, Follows regular call.depth (call :: callers)
      (lend (call.policy.seams call.depth) (boundary :: finer) chunk)
      ((call.policy.seams call.depth).lend (boundary :: finer) chunk)) :
    Performs regular call callers
      (assemble call.purpose call.policy call.boundaries call.piece) := by
  have stitches := @governs.stitches call callers boundary finer
  obtain ⟨purpose, policy, boundaries, piece, depth⟩ := call
  cases boundaries_eq
  unfold assemble
  apply Follows.performs
  apply (follows_recorded _).bind
  rintro pieces ⟨first, second, hsplit⟩
  apply Follows.bind
  · apply follows_pack
    intro part hpart long
    exact (parts part.toPiece (Boundary.mem_divide_of_split hsplit hpart) long).deeper
  rintro packed ⟨third, fourth, hpack⟩
  apply Follows.bind
  · exact ((follows_stitch lends .empty packed).note (stitches h rfl hsplit hpack)).atDepth
  intro stitched _
  exact follows_pure _

theorem performs_nil {purpose : Purpose} {policy : Policy} {piece : Piece} {depth : Nat} :
    Performs regular ⟨purpose, policy, [], piece, depth⟩ callers
      (assemble purpose policy [] piece) := by
  unfold assemble
  exact (follows_recorded (policy.settle [] piece)).performs

theorem follows_lend_nothing {policy : Policy} (h : policy.budget.maxOverlap = 0) (depth : Nat)
    (boundaries : List Boundary) (chunk : Chunk) :
    Follows regular depth callers (lend policy boundaries chunk)
      (policy.lend boundaries chunk) := by
  rw [Policy.lend_of_overlap_eq h]
  unfold lend
  split
  · exact follows_pure none
  · next window hwindow =>
      rw [Budget.window_eq_none h] at hwindow
      cases hwindow

theorem follows_settle (governs : Governs allowed regular) {purpose : Purpose} {policy : Policy}
    {boundaries : List Boundary} {piece : Piece} {depth : Nat}
    (h : allowed ⟨purpose, policy, boundaries, piece, depth⟩ callers)
    (inner : policy.budget.maxOverlap = 0 ∨ depth ≠ 0) :
    Follows regular depth callers (assemble purpose policy boundaries piece)
      (policy.settle boundaries piece) := by
  rw [← Policy.assembleAt_eq_settle inner]
  induction boundaries generalizing purpose piece depth callers with
  | nil => exact performs_nil.follows (governs.enters h) (governs.returns h)
  | cons boundary finer ih =>
      apply Performs.follows _ (governs.enters h) (governs.returns h)
      apply performs_level governs h rfl
      · intro part hpart long
        have hdepth : policy.budget.maxOverlap = 0 ∨ depth + 1 ≠ 0 := .inr (Nat.succ_ne_zero depth)
        rw [← Policy.assembleAt_eq_settle hdepth]
        exact ih (governs.part h rfl hpart long) hdepth
      · exact follows_lend_nothing (Policy.maxOverlap_seams inner) depth _

/-- The end of a chunk is found without overlap, by one more call or by two, at whatever depth. -/
theorem follows_lend (governs : Governs allowed regular) {policy : Policy}
    {boundaries : List Boundary} {chunk : Chunk} {depth : Nat}
    (h : ∀ window narrowed, policy.budget.window? = some window → Narrows boundaries narrowed →
      chunk.text ≠ [] →
      allowed ⟨.lending, policy.within window, narrowed, chunk.toPiece, depth⟩ callers) :
    Follows regular depth callers (lend policy boundaries chunk)
      (policy.lend boundaries chunk) := by
  unfold lend Policy.lend
  split
  · next hwindow =>
      rw [hwindow]
      exact follows_pure none
  · next window hwindow =>
      have inner : (policy.within window).budget.maxOverlap = 0 ∨ depth ≠ 0 :=
        .inl (Budget.maxOverlap_window hwindow).2
      rw [hwindow]
      dsimp only [Policy.lendWithin]
      by_cases hempty : chunk.text.isEmpty = true
      · rw [if_pos hempty, if_pos hempty]
        exact follows_pure none
      · have ne_nil : chunk.text ≠ [] := by simpa using hempty
        rw [if_neg hempty, if_neg hempty]
        split
        · exact follows_pure (some chunk)
        · apply Follows.bind
          · apply (follows_settle governs (h window _ hwindow (.inl rfl) ne_nil) inner).tryCatch
            intro _
            exact follows_settle governs (h window _ hwindow (.inr rfl) ne_nil) inner
          · intro parts _
            exact follows_pure _

theorem performs_assemble {call : Call} (governs : Governs allowed regular)
    (h : allowed call callers) :
    Performs regular call callers
      (assemble call.purpose call.policy call.boundaries call.piece) := by
  cases hboundaries : call.boundaries with
  | nil =>
      obtain ⟨purpose, policy, boundaries, piece, depth⟩ := call
      cases hboundaries
      exact performs_nil
  | cons boundary finer =>
      rw [← hboundaries]
      apply performs_level governs h hboundaries
      · intro part hpart long
        exact follows_settle governs (governs.part h hboundaries hpart long)
          (.inr (Nat.succ_ne_zero call.depth))
      · intro chunk
        apply follows_lend governs
        rw [← hboundaries]
        intro window narrowed hwindow hnarrowed ne_nil
        exact governs.lending h hwindow hnarrowed ne_nil

end Levels

end Recording

end Chunking
