import Chunking.Assembly

/-!
# Successful runs

A run of a packing pass that succeeds, step by step: which of its cases applied to
each chunk, what was flushed, and which numbers were drawn.  Every property of packed
chunks is an induction over such a run.
-/

namespace Chunking.Policy

/-! ## Packing -/

theorem reopen_append (policy : Policy) (parts : List Chunk) :
    (policy.reopen parts).1 ++ (policy.reopen parts).2.chunks = parts := by
  unfold reopen
  split
  · next hlast => exact (List.getLast?_eq_none_iff.1 hlast).symm
  · next last hlast =>
      split
      · exact List.append_nil parts
      · obtain ⟨init, rfl⟩ := List.getLast?_eq_some_iff.1 hlast
        rw [List.dropLast_concat]
        rfl

/-- A successful run of `pack`, from a first number to a last one. -/
inductive Packs (policy : Policy) (descend : Chunk → Numbering (List Chunk)) :
    Buffer → List Chunk → Nat → List Chunk → Nat → Prop
  | nil {waiting packed first last}
      (flush : waiting.flush first = .ok packed last) :
      Packs policy descend waiting [] first packed.toList last
  | standalone {waiting piece pieces first packed second own third later last}
      (alone : policy.isStandalone piece.toPiece = true)
      (flush : waiting.flush first = .ok packed second)
      (cut : policy.cutStandalone piece second = .ok own third)
      (run : Packs policy descend .empty pieces third later last) :
      Packs policy descend waiting (piece :: pieces) first (packed.toList ++ own ++ later) last
  | room {waiting piece pieces first later last}
      (joinable : policy.isStandalone piece.toPiece = false)
      (room : policy.budget.hasRoom waiting.size piece.length = true)
      (run : Packs policy descend (waiting.push piece) pieces first later last) :
      Packs policy descend waiting (piece :: pieces) first later last
  | start {waiting piece pieces first packed second later last}
      (joinable : policy.isStandalone piece.toPiece = false)
      (full : policy.budget.hasRoom waiting.size piece.length = false)
      (flush : waiting.flush first = .ok packed second)
      (fits : policy.budget.fits piece.length = true)
      (run : Packs policy descend (.single piece) pieces second later last) :
      Packs policy descend waiting (piece :: pieces) first (packed.toList ++ later) last
  | divide {waiting piece pieces first packed second parts third later last}
      (joinable : policy.isStandalone piece.toPiece = false)
      (full : policy.budget.hasRoom waiting.size piece.length = false)
      (flush : waiting.flush first = .ok packed second)
      (long : policy.budget.fits piece.length = false)
      (below : descend piece second = .ok parts third)
      (run : Packs policy descend (policy.reopen parts).2 pieces third later last) :
      Packs policy descend waiting (piece :: pieces) first
        (packed.toList ++ (policy.reopen parts).1 ++ later) last

theorem packs_of_pack {policy : Policy} {descend : Chunk → Numbering (List Chunk)}
    {waiting : Buffer} {pieces chunks : List Chunk} {first last : Nat}
    (h : policy.pack descend waiting pieces first = .ok chunks last) :
    Packs policy descend waiting pieces first chunks last := by
  induction pieces generalizing waiting first chunks with
  | nil =>
      rw [pack] at h
      obtain ⟨packed, second, hflush, hpure⟩ := Numbering.bind_eq_ok_iff.1 h
      cases hpure
      exact .nil hflush
  | cons piece pieces ih =>
      rw [pack] at h
      split at h
      · next alone =>
          obtain ⟨packed, second, hflush, h⟩ := Numbering.bind_eq_ok_iff.1 h
          obtain ⟨own, third, hcut, h⟩ := Numbering.bind_eq_ok_iff.1 h
          obtain ⟨later, fourth, hrun, hpure⟩ := Numbering.bind_eq_ok_iff.1 h
          cases hpure
          exact .standalone alone hflush hcut (ih hrun)
      · next joinable =>
          have joinable := Bool.eq_false_iff.2 joinable
          split at h
          · next room => exact .room joinable room (ih h)
          · next full =>
              have full := Bool.eq_false_iff.2 full
              obtain ⟨packed, second, hflush, h⟩ := Numbering.bind_eq_ok_iff.1 h
              split at h
              · next fits =>
                  obtain ⟨later, third, hrun, hpure⟩ := Numbering.bind_eq_ok_iff.1 h
                  cases hpure
                  exact .start joinable full hflush fits (ih hrun)
              · next long =>
                  have long := Bool.eq_false_iff.2 long
                  obtain ⟨parts, third, hbelow, h⟩ := Numbering.bind_eq_ok_iff.1 h
                  obtain ⟨later, fourth, hrun, hpure⟩ := Numbering.bind_eq_ok_iff.1 h
                  cases hpure
                  exact .divide joinable full hflush long hbelow (ih hrun)

/-! ## Packing with overlap -/

inductive Stitches (policy : Policy) (lend : Chunk → Numbering (Option Chunk)) :
    Buffer → List Chunk → Nat → List Chunk → Nat → Prop
  | nil {waiting packed first last}
      (flush : waiting.flush first = .ok packed last) :
      Stitches policy lend waiting [] first packed.toList last
  | standalone {waiting chunk chunks first packed second later last}
      (alone : policy.isStandalone chunk.toPiece = true)
      (flush : waiting.flush first = .ok packed second)
      (run : Stitches policy lend .empty chunks second later last) :
      Stitches policy lend waiting (chunk :: chunks) first (packed.toList ++ chunk :: later) last
  | long {waiting chunk chunks first packed second parts third later last}
      (joinable : policy.isStandalone chunk.toPiece = false)
      (long : policy.budget.fits chunk.length = false)
      (flush : waiting.flush first = .ok packed second)
      (cut : policy.fragments chunk.toPiece second = .ok parts third)
      (run : Stitches policy lend (policy.reopen parts).2 chunks third later last) :
      Stitches policy lend waiting (chunk :: chunks) first
        (packed.toList ++ (policy.reopen parts).1 ++ later) last
  | room {waiting chunk chunks first later last}
      (joinable : policy.isStandalone chunk.toPiece = false)
      (fits : policy.budget.fits chunk.length = true)
      (room : policy.budget.hasRoom waiting.size chunk.length = true)
      (run : Stitches policy lend (waiting.push chunk) chunks first later last) :
      Stitches policy lend waiting (chunk :: chunks) first later last
  | start {waiting chunk chunks first second later last}
      (joinable : policy.isStandalone chunk.toPiece = false)
      (fits : policy.budget.fits chunk.length = true)
      (full : policy.budget.hasRoom waiting.size chunk.length = false)
      (flush : waiting.flush first = .ok none second)
      (run : Stitches policy lend (.single chunk) chunks second later last) :
      Stitches policy lend waiting (chunk :: chunks) first later last
  | seam {waiting chunk chunks first packed second borrowed third next fourth later last}
      (joinable : policy.isStandalone chunk.toPiece = false)
      (fits : policy.budget.fits chunk.length = true)
      (full : policy.budget.hasRoom waiting.size chunk.length = false)
      (flush : waiting.flush first = .ok (some packed) second)
      (lent : lend packed second = .ok borrowed third)
      (joined : policy.withBorrowed borrowed chunk third = .ok next fourth)
      (run : Stitches policy lend (.single next) chunks fourth later last) :
      Stitches policy lend waiting (chunk :: chunks) first (packed :: later) last

theorem stitches_of_stitch {policy : Policy} {lend : Chunk → Numbering (Option Chunk)}
    {waiting : Buffer} {chunks stitched : List Chunk} {first last : Nat}
    (h : policy.stitch lend waiting chunks first = .ok stitched last) :
    Stitches policy lend waiting chunks first stitched last := by
  induction chunks generalizing waiting first stitched with
  | nil =>
      rw [stitch] at h
      obtain ⟨packed, second, hflush, hpure⟩ := Numbering.bind_eq_ok_iff.1 h
      cases hpure
      exact .nil hflush
  | cons chunk chunks ih =>
      rw [stitch] at h
      split at h
      · next alone =>
          obtain ⟨packed, second, hflush, h⟩ := Numbering.bind_eq_ok_iff.1 h
          obtain ⟨later, third, hrun, hpure⟩ := Numbering.bind_eq_ok_iff.1 h
          cases hpure
          exact .standalone alone hflush (ih hrun)
      · next joinable =>
          have joinable := Bool.eq_false_iff.2 joinable
          split at h
          · next long =>
              have long : policy.budget.fits chunk.length = false := by simpa using long
              obtain ⟨packed, second, hflush, h⟩ := Numbering.bind_eq_ok_iff.1 h
              obtain ⟨parts, third, hcut, h⟩ := Numbering.bind_eq_ok_iff.1 h
              obtain ⟨later, fourth, hrun, hpure⟩ := Numbering.bind_eq_ok_iff.1 h
              cases hpure
              exact .long joinable long hflush hcut (ih hrun)
          · next fits =>
              have fits : policy.budget.fits chunk.length = true := by simpa using fits
              split at h
              · next room => exact .room joinable fits room (ih h)
              · next full =>
                  have full := Bool.eq_false_iff.2 full
                  obtain ⟨packed, second, hflush, h⟩ := Numbering.bind_eq_ok_iff.1 h
                  cases packed with
                  | none => exact .start joinable fits full hflush (ih h)
                  | some packed =>
                      obtain ⟨borrowed, third, hlent, h⟩ := Numbering.bind_eq_ok_iff.1 h
                      obtain ⟨next, fourth, hjoined, h⟩ := Numbering.bind_eq_ok_iff.1 h
                      obtain ⟨later, fifth, hrun, hpure⟩ := Numbering.bind_eq_ok_iff.1 h
                      cases hpure
                      exact .seam joinable fits full hflush hlent hjoined (ih hrun)

/-! ## Levels -/

theorem packs_of_level {policy : Policy} {boundary : Boundary}
    {descend : Chunk → Numbering (List Chunk)} {packAgain : List Chunk → Numbering (List Chunk)}
    {piece : Piece} {chunks : List Chunk} {first last : Nat}
    (h : policy.level boundary descend packAgain piece first = .ok chunks last) :
    ∃ pieces second packed third repacked,
      boundary.split piece.text first = .ok pieces second ∧
      Packs policy descend .empty pieces second packed third ∧
      packAgain packed third = .ok repacked last ∧ chunks = settled piece.metadata repacked := by
  unfold level at h
  obtain ⟨pieces, second, hsplit, h⟩ := Numbering.bind_eq_ok_iff.1 h
  obtain ⟨packed, third, hpack, h⟩ := Numbering.bind_eq_ok_iff.1 h
  obtain ⟨repacked, fourth, hrepack, hpure⟩ := Numbering.bind_eq_ok_iff.1 h
  cases hpure
  exact ⟨pieces, second, packed, third, repacked, hsplit, packs_of_pack hpack, hrepack, rfl⟩

theorem settle_cons {policy : Policy} {boundary : Boundary} {finer : List Boundary} {piece : Piece}
    {chunks : List Chunk} {first last : Nat}
    (h : policy.settle (boundary :: finer) piece first = .ok chunks last) :
    ∃ pieces second packed third repacked,
      boundary.split piece.text first = .ok pieces second ∧
      Packs policy (fun part => policy.settle finer part.toPiece) .empty pieces second packed
        third ∧
      Stitches policy lendNothing .empty packed third repacked last ∧
      chunks = settled piece.metadata repacked := by
  obtain ⟨pieces, second, packed, third, repacked, hsplit, hpacks, hrepack, hchunks⟩ :=
    packs_of_level h
  -- Repacking is stitching where nothing is lent.
  exact ⟨pieces, second, packed, third, repacked, hsplit, hpacks, stitches_of_stitch hrepack,
    hchunks⟩

theorem assemble_cons {policy : Policy} {boundary : Boundary} {finer : List Boundary} {text : Text}
    {chunks : List Chunk} {first last : Nat}
    (h : policy.assemble (boundary :: finer) text first = .ok chunks last) :
    ∃ pieces second packed third stitched,
      boundary.split text first = .ok pieces second ∧
      Packs policy (fun part => policy.settle finer part.toPiece) .empty pieces second packed
        third ∧
      Stitches policy (policy.lend (boundary :: finer)) .empty packed third stitched last ∧
      chunks = settled .empty stitched := by
  obtain ⟨pieces, second, packed, third, stitched, hsplit, hpacks, hstitch, hchunks⟩ :=
    packs_of_level h
  exact ⟨pieces, second, packed, third, stitched, hsplit, hpacks, stitches_of_stitch hstitch,
    hchunks⟩

/-! ## Lending -/

theorem lend_of_overlap_eq {policy : Policy} (overlap_eq : policy.budget.maxOverlap = 0)
    (boundaries : List Boundary) : policy.lend boundaries = lendNothing := by
  funext chunk
  unfold lend
  rw [Budget.window_eq_none overlap_eq]
  rfl

inductive Lent (policy : Policy) (boundaries : List Boundary) (chunk : Chunk) (first : Nat) :
    Option Chunk → Nat → Prop
  | nothing (none_to_lend : policy.budget.window? = none ∨ chunk.text = []) :
      Lent policy boundaries chunk first none first
  | whole {window} (window_eq : policy.budget.window? = some window) (ne_nil : chunk.text ≠ [])
      (fits : window.fits chunk.length = true) :
      Lent policy boundaries chunk first (some chunk) first
  | narrowed {window parts last} (window_eq : policy.budget.window? = some window)
      (ne_nil : chunk.text ≠ []) (long : window.fits chunk.length = false)
      (run : (policy.within window).settle boundaries chunk.toPiece first = .ok parts last) :
      Lent policy boundaries chunk first parts.getLast? last
  | withoutElements {window tag second parts last}
      (window_eq : policy.budget.window? = some window) (ne_nil : chunk.text ≠ [])
      (long : window.fits chunk.length = false)
      (failed : (policy.within window).settle boundaries chunk.toPiece first = .error tag second)
      (run : (policy.within window).settle (boundaries.filter fun boundary => !boundary.isElement)
        chunk.toPiece second = .ok parts last) :
      Lent policy boundaries chunk first parts.getLast? last

theorem lent_of_lend {policy : Policy} {boundaries : List Boundary} {chunk : Chunk}
    {lent : Option Chunk} {first last : Nat}
    (h : policy.lend boundaries chunk first = .ok lent last) :
    Lent policy boundaries chunk first lent last := by
  unfold lend at h
  cases hwindow : policy.budget.window? with
  | none =>
      simp only [hwindow] at h
      cases h
      exact .nothing (.inl hwindow)
  | some window =>
      simp only [hwindow, lendWithin] at h
      split at h
      · next hempty =>
          cases h
          exact .nothing (.inr (List.isEmpty_iff.1 hempty))
      · next hne =>
          have ne_nil : chunk.text ≠ [] := by simpa using hne
          split at h
          · next fits =>
              cases h
              exact .whole hwindow ne_nil fits
          · next long =>
              have long := Bool.eq_false_iff.2 long
              obtain ⟨parts, second, hparts, hpure⟩ := Numbering.bind_eq_ok_iff.1 h
              cases hpure
              rcases Numbering.tryCatch_eq_ok hparts with hparts | ⟨tag, third, hfailed, hparts⟩
              · exact .narrowed hwindow ne_nil long hparts
              · exact .withoutElements hwindow ne_nil long hfailed hparts

/-! ## Finished chunks -/

theorem chunk_eq_ok {policy : Policy} {cascade : Cascade} {text : Text} {chunks : List Chunk}
    (h : policy.chunk cascade text = .ok chunks) :
    (text = [] ∧ chunks = []) ∨
      ∃ assembled last, policy.assemble cascade.boundaries text 0 = .ok assembled last ∧
        chunks = stampAll assembled := by
  unfold chunk at h
  split at h
  · next hempty =>
      cases h
      exact .inl ⟨List.isEmpty_iff.1 hempty, rfl⟩
  · right
    unfold Numbering.runFrom at h
    cases hassemble : policy.assemble cascade.boundaries text 0 with
    | ok assembled last =>
        rw [hassemble] at h
        cases h
        exact ⟨assembled, last, rfl, rfl⟩
    | error tag last =>
        rw [hassemble] at h
        cases h

end Chunking.Policy
