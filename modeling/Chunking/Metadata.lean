/-!
# Metadata

String values under string keys, held in increasing order of their keys.  Two
metadata with the same look-ups are equal (`Metadata.ext_get?`), and the printed
order is the stored one.
-/

namespace Chunking

/-- Values by key, strictly increasing in the key. -/
structure Metadata where
  entries : List (String × String)
  sorted : entries.Pairwise (fun a b => a.1 < b.1)
deriving DecidableEq

namespace Metadata

/-! ## Keys with a meaning -/

def kindKey : String := "type"

def codeBlockKind : String := "code_block"

def languageKey : String := "language"

def headerKey : String := "header"

/-- The key that links a fragment to the number of the fragment before it. -/
def previousKey : String := "prev"

def idKey : String := "id"

def indexKey : String := "index"

/-! ## Sorted entry lists -/

def lookup (key : String) : List (String × String) → Option String
  | [] => none
  | (k, v) :: rest => if key = k then some v else lookup key rest

/-- Store a value at its place in a sorted list, over any value already there. -/
def insertEntry (key value : String) : List (String × String) → List (String × String)
  | [] => [(key, value)]
  | (k, v) :: rest =>
      if key < k then (key, value) :: (k, v) :: rest
      else if key = k then (key, value) :: rest
      else (k, v) :: insertEntry key value rest

theorem lookup_insertEntry (key value k : String) (entries : List (String × String)) :
    lookup k (insertEntry key value entries) =
      if k = key then some value else lookup k entries := by
  induction entries with
  | nil => simp [insertEntry, lookup]
  | cons entry rest ih =>
      obtain ⟨k', v'⟩ := entry
      simp only [insertEntry]
      split
      · simp [lookup]
      · split
        · next h =>
            subst h
            by_cases hk : k = key <;> simp [lookup, hk]
        · next hne =>
            by_cases hk : k = k'
            · subst hk
              have hkey : k ≠ key := fun h => hne h.symm
              simp [lookup, hkey]
            · simp [lookup, hk, ih]

theorem mem_insertEntry {key value : String} {entry : String × String} :
    ∀ {entries : List (String × String)}, entry ∈ insertEntry key value entries →
      entry.1 = key ∨ entry ∈ entries
  | [], h => by
      simp only [insertEntry, List.mem_singleton] at h
      exact .inl (by rw [h])
  | (k, v) :: rest, h => by
      simp only [insertEntry] at h
      split at h
      · rcases List.mem_cons.1 h with rfl | h
        · exact .inl rfl
        · exact .inr h
      · split at h
        · rcases List.mem_cons.1 h with rfl | h
          · exact .inl rfl
          · exact .inr (List.mem_cons_of_mem _ h)
        · rcases List.mem_cons.1 h with rfl | h
          · exact .inr List.mem_cons_self
          · rcases mem_insertEntry h with h | h
            · exact .inl h
            · exact .inr (List.mem_cons_of_mem _ h)

theorem lt_of_not_lt_of_ne {a b : String} (hlt : ¬a < b) (hne : a ≠ b) : b < a := by
  rcases String.le_total a b with h | h
  · exact absurd (String.le_antisymm h (String.not_lt.1 hlt)) hne
  · exact Decidable.byContradiction fun hba =>
      hne (String.le_antisymm (String.not_lt.1 hba) h)

theorem pairwise_insertEntry (key value : String) {entries : List (String × String)}
    (h : entries.Pairwise (fun a b => a.1 < b.1)) :
    (insertEntry key value entries).Pairwise (fun a b => a.1 < b.1) := by
  induction entries with
  | nil => simp [insertEntry]
  | cons entry rest ih =>
      obtain ⟨k, v⟩ := entry
      have hcons := List.pairwise_cons.1 h
      simp only [insertEntry]
      split
      · next hlt =>
          refine List.pairwise_cons.2 ⟨fun b hb => ?_, h⟩
          rcases List.mem_cons.1 hb with rfl | hb
          · exact hlt
          · exact String.lt_trans hlt (hcons.1 b hb)
      · next hlt =>
          split
          · next heq =>
              subst heq
              exact List.pairwise_cons.2 ⟨hcons.1, hcons.2⟩
          · next hne =>
              refine List.pairwise_cons.2 ⟨fun b hb => ?_, ih hcons.2⟩
              rcases mem_insertEntry hb with heq | hb
              · rw [heq]
                exact lt_of_not_lt_of_ne hlt hne
              · exact hcons.1 b hb

theorem lookup_eq_none_of_lt {key : String} {entries : List (String × String)}
    (h : ∀ entry ∈ entries, key < entry.1) : lookup key entries = none := by
  induction entries with
  | nil => rfl
  | cons entry rest ih =>
      obtain ⟨k, v⟩ := entry
      have hk : key ≠ k := fun heq =>
        String.lt_irrefl k (by simpa [heq] using h (k, v) List.mem_cons_self)
      simp only [lookup, if_neg hk]
      exact ih fun entry he => h entry (List.mem_cons_of_mem _ he)

theorem lookup_eq_some_iff {key value : String} {entries : List (String × String)}
    (h : entries.Pairwise (fun a b => a.1 < b.1)) :
    lookup key entries = some value ↔ (key, value) ∈ entries := by
  induction entries with
  | nil => simp [lookup]
  | cons entry rest ih =>
      obtain ⟨k, v⟩ := entry
      have hcons := List.pairwise_cons.1 h
      by_cases hk : key = k
      · subst hk
        have hnot : ∀ w, (key, w) ∉ rest := fun w hw =>
          String.lt_irrefl key (hcons.1 (key, w) hw)
        simp [lookup, hnot, eq_comm]
      · simp [lookup, hk, ih hcons.2]

/-! ## Operations -/

def empty : Metadata :=
  ⟨[], List.Pairwise.nil⟩

instance : Inhabited Metadata := ⟨empty⟩

instance : EmptyCollection Metadata := ⟨empty⟩

def isEmpty (m : Metadata) : Bool :=
  m.entries.isEmpty

def get? (m : Metadata) (key : String) : Option String :=
  lookup key m.entries

def insert (m : Metadata) (key value : String) : Metadata :=
  ⟨insertEntry key value m.entries, pairwise_insertEntry key value m.sorted⟩

/-- The metadata of a list of settings, later ones over earlier ones. -/
def ofList (entries : List (String × String)) : Metadata :=
  entries.foldl (fun m entry => m.insert entry.1 entry.2) empty

/-- The entries of `own` over those of `parent`: the own value wins. -/
def inherit (own parent : Metadata) : Metadata :=
  own.entries.foldl (fun m entry => m.insert entry.1 entry.2) parent

def common (a b : Metadata) : Metadata :=
  ⟨a.entries.filter fun entry => b.get? entry.1 == some entry.2,
    a.sorted.sublist List.filter_sublist⟩

/-! ## Look-ups after each operation -/

@[simp] theorem get?_empty (key : String) : empty.get? key = none := rfl

theorem get?_eq_some_iff {m : Metadata} {key value : String} :
    m.get? key = some value ↔ (key, value) ∈ m.entries :=
  lookup_eq_some_iff m.sorted

@[simp] theorem get?_insert (m : Metadata) (key value k : String) :
    (m.insert key value).get? k = if k = key then some value else m.get? k :=
  lookup_insertEntry key value k m.entries

theorem get?_common {a b : Metadata} {key value : String} :
    (a.common b).get? key = some value ↔
      a.get? key = some value ∧ b.get? key = some value := by
  rw [get?_eq_some_iff, get?_eq_some_iff]
  simp [common, List.mem_filter]

theorem get?_foldl_insert (entries : List (String × String)) (m : Metadata) (key : String)
    (h : entries.Pairwise (fun a b => a.1 < b.1)) :
    (entries.foldl (fun m entry => m.insert entry.1 entry.2) m).get? key =
      (lookup key entries).or (m.get? key) := by
  induction entries generalizing m with
  | nil => simp [lookup]
  | cons entry rest ih =>
      obtain ⟨k, v⟩ := entry
      have hcons := List.pairwise_cons.1 h
      rw [List.foldl_cons, ih _ hcons.2, get?_insert]
      by_cases hk : key = k
      · subst hk
        rw [lookup_eq_none_of_lt fun entry he => hcons.1 entry he]
        simp [lookup]
      · simp [lookup, hk]

@[simp] theorem get?_inherit (own parent : Metadata) (key : String) :
    (own.inherit parent).get? key = (own.get? key).or (parent.get? key) :=
  get?_foldl_insert own.entries parent key own.sorted

theorem entries_inj {a b : Metadata} (h : a.entries = b.entries) : a = b := by
  cases a
  cases b
  cases h
  rfl

theorem entries_eq_of_mem_iff {xs ys : List (String × String)}
    (hx : xs.Pairwise (fun a b => a.1 < b.1)) (hy : ys.Pairwise (fun a b => a.1 < b.1))
    (h : ∀ entry, entry ∈ xs ↔ entry ∈ ys) : xs = ys := by
  induction xs generalizing ys with
  | nil =>
      cases ys with
      | nil => rfl
      | cons y ys => exact absurd ((h y).2 List.mem_cons_self) (by simp)
  | cons x xs ih =>
      cases ys with
      | nil => exact absurd ((h x).1 List.mem_cons_self) (by simp)
      | cons y ys =>
          have hxs := List.pairwise_cons.1 hx
          have hys := List.pairwise_cons.1 hy
          have hxy : x = y := by
            rcases List.mem_cons.1 ((h x).1 List.mem_cons_self) with heq | hmem
            · exact heq
            · rcases List.mem_cons.1 ((h y).2 List.mem_cons_self) with heq | hmem'
              · exact heq.symm
              · exact absurd (hys.1 x hmem) (String.lt_asymm (hxs.1 y hmem'))
          subst hxy
          congr 1
          refine ih hxs.2 hys.2 fun entry => ⟨fun he => ?_, fun he => ?_⟩
          · rcases List.mem_cons.1 ((h entry).1 (List.mem_cons_of_mem _ he)) with heq | hmem
            · exact absurd (heq ▸ hxs.1 entry he) (String.lt_irrefl _)
            · exact hmem
          · rcases List.mem_cons.1 ((h entry).2 (List.mem_cons_of_mem _ he)) with heq | hmem
            · exact absurd (heq ▸ hys.1 entry he) (String.lt_irrefl _)
            · exact hmem

theorem ext_get? {a b : Metadata} (h : ∀ key, a.get? key = b.get? key) : a = b := by
  refine entries_inj (entries_eq_of_mem_iff a.sorted b.sorted fun entry => ?_)
  obtain ⟨k, v⟩ := entry
  rw [← get?_eq_some_iff, ← get?_eq_some_iff, h]

theorem inherit_empty (own : Metadata) : own.inherit empty = own := by
  apply ext_get?
  simp

end Metadata

end Chunking
