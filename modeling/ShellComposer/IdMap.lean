/-!
# Maps keyed by block ids

Blocks, their meanings and their open violations are all kept in finite maps from block ids.  The
entries of such a map are listed in increasing order of id, so a listing never depends on the
order in which the entries arrived.

Main results:

- Theorems `get?_insert_self` and `get?_insert_ne`: writing an entry changes that entry only.
- Theorems `get?_erase_self` and `get?_erase_ne`: erasing an entry changes that entry only.
- Theorem `get?_mapValues`: changing every value keeps the ids.
- Theorems `mem_entries_iff` and `mem_keys_iff`: what is listed is what is read.
-/

namespace ShellComposer

/-- A block is known by a number, handed out once and never again. -/
abbrev BlockId := Nat

/-- The order of entries: strictly increasing ids. -/
abbrev EntriesSorted {α : Type} (entries : List (BlockId × α)) : Prop :=
  entries.Pairwise fun a b => a.1 < b.1

/-- A finite map from block ids whose entries are listed by increasing id. -/
structure IdMap (α : Type) where
  entries : List (BlockId × α)
  sorted : EntriesSorted entries

namespace IdMap

variable {α : Type}

/-! ## Building -/

/-- The map without entries. -/
def empty : IdMap α :=
  ⟨[], List.Pairwise.nil⟩

instance : Inhabited (IdMap α) :=
  ⟨empty⟩

/-- Put `value` under `id` into a sorted entry list, over any older value. -/
def insertEntry (id : BlockId) (value : α) : List (BlockId × α) → List (BlockId × α)
  | [] => [(id, value)]
  | entry :: rest =>
    if id < entry.1 then (id, value) :: entry :: rest
    else if id = entry.1 then (id, value) :: rest
    else entry :: insertEntry id value rest

/-- What is in a list after an insertion is the new entry or was there before. -/
theorem mem_insertEntry {id : BlockId} {value : α} {x : BlockId × α}
    {entries : List (BlockId × α)} (h : x ∈ insertEntry id value entries) :
    x = (id, value) ∨ x ∈ entries := by
  induction entries with
  | nil => simp_all [insertEntry]
  | cons entry rest ih =>
    rw [insertEntry] at h
    split at h
    · simp_all
    · split at h
      · simp only [List.mem_cons] at h ⊢
        exact h.elim Or.inl fun m => Or.inr (Or.inr m)
      · simp only [List.mem_cons] at h ⊢
        rcases h with h | h
        · exact Or.inr (Or.inl h)
        · exact (ih h).elim Or.inl fun m => Or.inr (Or.inr m)

/-- An insertion keeps the entries in increasing order of ids. -/
theorem insertEntry_sorted (id : BlockId) (value : α) {entries : List (BlockId × α)}
    (h : EntriesSorted entries) : EntriesSorted (insertEntry id value entries) := by
  induction entries with
  | nil => simp [insertEntry]
  | cons entry rest ih =>
    have ⟨above, tail⟩ := List.pairwise_cons.1 h
    rw [insertEntry]
    split
    · rename_i lower
      refine List.pairwise_cons.2 ⟨fun b hb => ?_, h⟩
      rcases List.mem_cons.1 hb with rfl | hb
      · exact lower
      · exact Nat.lt_trans lower (above b hb)
    · split
      · rename_i same
        exact List.pairwise_cons.2 ⟨fun b hb => same ▸ above b hb, tail⟩
      · rename_i notLower notSame
        refine List.pairwise_cons.2 ⟨fun b hb => ?_, ih tail⟩
        rcases mem_insertEntry hb with rfl | hb
        · exact Nat.lt_of_le_of_ne (Nat.le_of_not_lt notLower) (Ne.symm notSame)
        · exact above b hb

/-- The map with `value` under `id`, whatever was there before. -/
def insert (m : IdMap α) (id : BlockId) (value : α) : IdMap α :=
  ⟨insertEntry id value m.entries, insertEntry_sorted id value m.sorted⟩

/-- The map without the entry of `id`. -/
def erase (m : IdMap α) (id : BlockId) : IdMap α :=
  ⟨m.entries.filter fun entry => entry.1 != id, m.sorted.filter _⟩

/-- The map with every value changed, each knowing its id. -/
def mapValues (m : IdMap α) (f : BlockId → α → α) : IdMap α :=
  ⟨m.entries.map fun entry => (entry.1, f entry.1 entry.2),
    List.Pairwise.map _ (fun _ _ h => h) m.sorted⟩

/-! ## Reading -/

/-- The first value under `id` in an entry list. -/
def findEntry (id : BlockId) : List (BlockId × α) → Option α
  | [] => none
  | entry :: rest => if entry.1 = id then some entry.2 else findEntry id rest

/-- The value under `id`, if there is one. -/
def get? (m : IdMap α) (id : BlockId) : Option α :=
  findEntry id m.entries

/-- Whether `id` has an entry. -/
def contains (m : IdMap α) (id : BlockId) : Bool :=
  (m.get? id).isSome

/-- The ids with an entry, in increasing order. -/
def keys (m : IdMap α) : List BlockId :=
  m.entries.map Prod.fst

/-- The number of entries. -/
def size (m : IdMap α) : Nat :=
  m.entries.length

/-! ## What each operation does to a reading -/

@[simp] theorem get?_empty (id : BlockId) : (empty : IdMap α).get? id = none :=
  rfl

/-- Under the inserted id the inserted value is found. -/
theorem findEntry_insertEntry_self (id : BlockId) (value : α) (entries : List (BlockId × α)) :
    findEntry id (insertEntry id value entries) = some value := by
  induction entries with
  | nil => simp [insertEntry, findEntry]
  | cons entry rest ih =>
    rw [insertEntry]
    split
    · simp [findEntry]
    · split
      · simp [findEntry]
      · rename_i notSame
        simp [findEntry, Ne.symm notSame, ih]

/-- Under other ids an insertion changes nothing. -/
theorem findEntry_insertEntry_ne {id other : BlockId} (h : other ≠ id) (value : α)
    (entries : List (BlockId × α)) :
    findEntry other (insertEntry id value entries) = findEntry other entries := by
  induction entries with
  | nil => simp [insertEntry, findEntry, h.symm]
  | cons entry rest ih =>
    rw [insertEntry]
    split
    · simp [findEntry, h.symm]
    · split
      · rename_i same
        simp [findEntry, h.symm, ← same]
      · simp [findEntry, ih]

@[simp] theorem get?_insert_self (m : IdMap α) (id : BlockId) (value : α) :
    (m.insert id value).get? id = some value :=
  findEntry_insertEntry_self id value m.entries

theorem get?_insert_ne (m : IdMap α) {id other : BlockId} (h : other ≠ id) (value : α) :
    (m.insert id value).get? other = m.get? other :=
  findEntry_insertEntry_ne h value m.entries

/-- Filtering out an id leaves what is found under the others. -/
theorem findEntry_filter_ne {id other : BlockId} (h : other ≠ id)
    (entries : List (BlockId × α)) :
    findEntry other (entries.filter fun entry => entry.1 != id) = findEntry other entries := by
  induction entries with
  | nil => rfl
  | cons entry rest ih =>
    by_cases same : entry.1 = id
    · simp [findEntry, same, h.symm, ih]
    · simp [findEntry, same, ih]

theorem findEntry_filter_self (id : BlockId) (entries : List (BlockId × α)) :
    findEntry id (entries.filter fun entry => entry.1 != id) = none := by
  induction entries with
  | nil => rfl
  | cons entry rest ih =>
    by_cases same : entry.1 = id
    · simp [same, ih]
    · simp [findEntry, same, ih]

@[simp] theorem get?_erase_self (m : IdMap α) (id : BlockId) : (m.erase id).get? id = none :=
  findEntry_filter_self id m.entries

theorem get?_erase_ne (m : IdMap α) {id other : BlockId} (h : other ≠ id) :
    (m.erase id).get? other = m.get? other :=
  findEntry_filter_ne h m.entries

/-- The value under an id is changed by the function for that id. -/
@[simp] theorem get?_mapValues (m : IdMap α) (f : BlockId → α → α) (id : BlockId) :
    (m.mapValues f).get? id = (m.get? id).map (f id) := by
  obtain ⟨entries, _⟩ := m
  simp only [get?, mapValues]
  induction entries with
  | nil => rfl
  | cons entry rest ih =>
    rename_i sorted
    by_cases same : entry.1 = id
    · simp [findEntry, same]
    · simp [findEntry, same, ih (List.pairwise_cons.1 sorted).2]

/-- Changing values keeps the ids. -/
@[simp] theorem keys_mapValues (m : IdMap α) (f : BlockId → α → α) :
    (m.mapValues f).keys = m.keys := by
  simp [keys, mapValues]

/-- Erasing several entries changes these entries only. -/
theorem get?_foldl_erase (m : IdMap α) (doomed : List BlockId) (id : BlockId) :
    (doomed.foldl erase m).get? id = if id ∈ doomed then none else m.get? id := by
  induction doomed generalizing m with
  | nil => simp
  | cons first rest ih =>
    rw [List.foldl_cons, ih]
    by_cases same : id = first
    · subst same
      simp
    · simp [same, get?_erase_ne m same]

/-! ## Which ids have an entry -/

/-- A map contains the ids under which it has a value. -/
theorem contains_iff (m : IdMap α) (id : BlockId) :
    m.contains id = true ↔ ∃ value, m.get? id = some value := by
  rw [contains, Option.isSome_iff_exists]

/-- In a list sorted by ids, what is found under an id is what the list holds for it. -/
theorem findEntry_eq_some_iff {entries : List (BlockId × α)} (sorted : EntriesSorted entries)
    (id : BlockId) (value : α) : findEntry id entries = some value ↔ (id, value) ∈ entries := by
  induction entries with
  | nil => simp [findEntry]
  | cons entry rest ih =>
    obtain ⟨key, stored⟩ := entry
    have ⟨above, tail⟩ := List.pairwise_cons.1 sorted
    rw [findEntry, List.mem_cons, Prod.mk.injEq]
    by_cases same : key = id
    · subst same
      have notLater : (key, value) ∉ rest := fun later =>
        Nat.lt_irrefl key (above _ later)
      simp [notLater, eq_comm]
    · rw [if_neg same, ih tail]
      simp [Ne.symm same]

/-- The entries are what is read under their ids. -/
theorem mem_entries_iff (m : IdMap α) (id : BlockId) (value : α) :
    (id, value) ∈ m.entries ↔ m.get? id = some value :=
  (findEntry_eq_some_iff m.sorted id value).symm

/-- The listed ids are those with an entry. -/
theorem mem_keys_iff (m : IdMap α) (id : BlockId) : id ∈ m.keys ↔ m.contains id = true := by
  simp only [keys, contains_iff, ← mem_entries_iff, List.mem_map, Prod.exists,
    exists_eq_right, exists_and_right]

/-- No id is listed twice. -/
theorem nodup_keys (m : IdMap α) : m.keys.Nodup :=
  List.Pairwise.map _ (fun _ _ => Nat.ne_of_lt) m.sorted

theorem length_keys (m : IdMap α) : m.keys.length = m.size :=
  List.length_map _

end IdMap

end ShellComposer
