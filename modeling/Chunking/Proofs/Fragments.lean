import Chunking.Chunk

/-!
# Fragments

The fragments of a piece hold its text in order and its metadata, and each but the
first is linked to the number of the one before it.
-/

namespace Chunking.Chunk

/-- Each chunk is linked to the number of the chunk before it; `previous` is the one before
the first. -/
def Linked (previous : Option Nat) : List Chunk → Prop
  | [] => True
  | chunk :: rest =>
      chunk.get? Metadata.previousKey = previous.map Text.decimal ∧ Linked (some chunk.id) rest

theorem Linked.first {previous : Option Nat} {chunks : List Chunk} (h : Linked previous chunks)
    (hpos : 0 < chunks.length) :
    chunks[0].get? Metadata.previousKey = previous.map Text.decimal := by
  cases chunks with
  | nil => cases hpos
  | cons chunk rest => exact h.1

theorem Linked.next {previous : Option Nat} {chunks : List Chunk} (h : Linked previous chunks)
    {i : Nat} (hi : i + 1 < chunks.length) :
    chunks[i + 1].get? Metadata.previousKey = some (Text.decimal chunks[i].id) := by
  induction chunks generalizing previous i with
  | nil => cases hi
  | cons chunk rest ih =>
      cases i with
      | zero => exact h.2.first (Nat.lt_of_succ_lt_succ hi)
      | succ i => exact ih h.2 (Nat.lt_of_succ_lt_succ hi)

def linkedTo (metadata : Metadata) : Option Nat → Metadata
  | none => metadata
  | some id => metadata.insert Metadata.previousKey (Text.decimal id)

theorem get?_linkedTo_previous {metadata : Metadata}
    (unlinked : metadata.get? Metadata.previousKey = none) (previous : Option Nat) :
    (linkedTo metadata previous).get? Metadata.previousKey = previous.map Text.decimal := by
  cases previous with
  | none => exact unlinked
  | some id => simp [linkedTo]

theorem get?_linkedTo_of_ne (metadata : Metadata) (previous : Option Nat) {key : String}
    (h : key ≠ Metadata.previousKey) :
    (linkedTo metadata previous).get? key = metadata.get? key := by
  cases previous with
  | none => rfl
  | some id => rw [linkedTo, Metadata.get?_insert, if_neg h]

theorem numberSlices_cons {metadata : Metadata} {previous : Option Nat} {slice : Text}
    {rest : List Text} {chunks : List Chunk} {next last : Nat}
    (h : numberSlices metadata previous (slice :: rest) next = .ok chunks last) :
    ∃ later, chunks = ⟨⟨slice, linkedTo metadata previous⟩, next⟩ :: later ∧
      numberSlices metadata (some next) rest (next + 1) = .ok later last := by
  unfold numberSlices at h
  obtain ⟨chunk, middle, hchunk, hrest⟩ := Numbering.bind_eq_ok_iff.1 h
  cases hchunk
  obtain ⟨later, middle, hlater, hpure⟩ := Numbering.bind_eq_ok_iff.1 hrest
  cases hpure
  refine ⟨later, ?_, hlater⟩
  cases previous <;> rfl

theorem numberSlices_spec {metadata : Metadata} {previous : Option Nat} {slices : List Text}
    {chunks : List Chunk} {next last : Nat}
    (unlinked : metadata.get? Metadata.previousKey = none)
    (h : numberSlices metadata previous slices next = .ok chunks last) :
    chunks.map (·.text) = slices ∧ Linked previous chunks ∧
      ∀ chunk ∈ chunks, ∀ key, key ≠ Metadata.previousKey → chunk.get? key = metadata.get? key := by
  induction slices generalizing previous chunks next with
  | nil =>
      cases h
      exact ⟨rfl, trivial, by simp⟩
  | cons slice rest ih =>
      obtain ⟨later, rfl, hlater⟩ := numberSlices_cons h
      obtain ⟨htexts, hlinks, hkeys⟩ := ih hlater
      refine ⟨by rw [List.map_cons, htexts], ⟨get?_linkedTo_previous unlinked previous, hlinks⟩, ?_⟩
      intro chunk hchunk key hkey
      rcases List.mem_cons.1 hchunk with rfl | hchunk
      · exact get?_linkedTo_of_ne metadata previous hkey
      · exact hkeys chunk hchunk key hkey

end Chunking.Chunk
