import LineCensus.FileTree.Listing

/-!
# LineCensus.Proofs.FileTree.Lookup — entries by their names

1. `Entry.isFile`, `Entry.isDirectory`: kinds of entries.
2. `Listing.lookup?`: the entry at the end of a list of names, through directories.
3. `find?_eq_none_of_lt`, `WellFormed.find?`: look-up in a well-formed listing.
4. `entries`: the entries with their names. `mem_entries_iff`: in a well-formed listing these are those that are
   found. `namesOf`: the names of the entries of one kind.
-/

namespace LineCensus

namespace Entry

/-- A regular file. -/
def isFile : Entry → Bool
  | .leaf (.file _ _) => true
  | _ => false

/-- A directory itself, and no link to one. -/
def isDirectory : Entry → Bool
  | .dir _ _ => true
  | .leaf _ => false

end Entry

namespace Listing

/-- The entry at the end of a list of names; all names but the last lead through directories. -/
def lookup? : List Name → Listing → Option Entry
  | [], _ => none
  | [name], l => l.find? name
  | name :: more, l =>
    match l.find? name with
    | some (.dir _ below) => below.lookup? more
    | _ => none

theorem mem_names_of_find? {name : Name} {l : Listing} {e : Entry} (h : l.find? name = some e) :
    name ∈ l.names := by
  induction l with
  | nil => cases h
  | leaf n lf rest ih =>
    rw [find?] at h
    rw [names, List.mem_cons]
    split at h
    · rename_i heq
      exact .inl heq.symm
    · exact .inr (ih h)
  | dir n locked below rest _ ih =>
    rw [find?] at h
    rw [names, List.mem_cons]
    split at h
    · rename_i heq
      exact .inl heq.symm
    · exact .inr (ih h)

/-- A name below all names of a listing is not found there. -/
theorem find?_eq_none_of_lt {name : Name} {l : Listing} (h : ∀ n ∈ l.names, name < n) :
    l.find? name = none := by
  -- what is found has its name among the names, and no name is below itself
  cases hfind : l.find? name with
  | none => rfl
  | some e => exact absurd (h name (mem_names_of_find? hfind)) (List.lt_irrefl name)

/-- Whether a listing is well-formed, level by level. -/
def decideWellFormed : (l : Listing) → Decidable l.WellFormed
  | nil => isTrue trivial
  | leaf name _ rest =>
    have := decideWellFormed rest
    inferInstanceAs
      (Decidable (Path.isName name = true ∧ (∀ n ∈ rest.names, name < n) ∧ rest.WellFormed))
  | dir name _ below rest =>
    have := decideWellFormed below
    have := decideWellFormed rest
    inferInstanceAs
      (Decidable (Path.isName name = true ∧ (∀ n ∈ rest.names, name < n) ∧ below.WellFormed ∧
        rest.WellFormed))

instance : DecidablePred WellFormed := decideWellFormed

/-- The names of the entries are such as entries can have. -/
theorem WellFormed.isName {l : Listing} (hl : l.WellFormed) : ∀ n ∈ l.names, Path.isName n = true := by
  induction l with
  | nil => simp [names]
  | leaf name lf rest ih =>
    intro n hn
    rcases List.mem_cons.1 hn with rfl | hn
    · exact hl.1
    · exact ih hl.2.2 n hn
  | dir name locked below rest _ ih =>
    intro n hn
    rcases List.mem_cons.1 hn with rfl | hn
    · exact hl.1
    · exact ih hl.2.2.2 n hn

/-- Whatever is found in a well-formed listing is well-formed. -/
theorem WellFormed.find? {name : Name} {l : Listing} (hl : l.WellFormed) :
    ∀ e ∈ l.find? name, EntryWellFormed e := by
  induction l with
  | nil => simp [Listing.find?]
  | leaf n lf rest ih =>
    intro e he
    rw [Listing.find?] at he
    split at he
    · obtain rfl := Option.some.inj he
      trivial
    · exact ih hl.2.2 e he
  | dir n locked below rest _ ih =>
    intro e he
    rw [Listing.find?] at he
    split at he
    · obtain rfl := Option.some.inj he
      exact hl.2.2.1
    · exact ih hl.2.2.2 e he

theorem WellFormed.of_find?_dir {name : Name} {l below : Listing} {locked : Bool}
    (hl : l.WellFormed) (h : l.find? name = some (.dir locked below)) : below.WellFormed :=
  hl.find? _ h

/-! ## All entries -/

/-- The entries with their names. -/
def entries : Listing → List (Name × Entry)
  | nil => []
  | leaf name lf rest => (name, .leaf lf) :: rest.entries
  | dir name locked below rest => (name, .dir locked below) :: rest.entries

theorem map_entries (l : Listing) : l.entries.map (·.1) = l.names := by
  induction l with
  | nil => rfl
  | leaf name lf rest ih => rw [entries, List.map_cons, ih, names]
  | dir name locked below rest _ ih => rw [entries, List.map_cons, ih, names]

/-- The entry in front is found by its name, and the others by theirs, which are greater. -/
theorem mem_cons_entries_iff {name n : Name} {e entry : Entry} {rest : Listing} (hrest : ∀ m ∈ rest.names, n < m)
    (hmem : (name, e) ∈ rest.entries ↔ rest.find? name = some e) :
    (name, e) ∈ (n, entry) :: rest.entries ↔ (if n = name then some entry else rest.find? name) = some e := by
  rw [List.mem_cons, Prod.mk.injEq, hmem]
  by_cases hn : n = name
  · subst hn
    rw [find?_eq_none_of_lt hrest]
    simp [eq_comm]
  · simp [hn, Ne.symm hn]

/-- The entries of a well-formed listing are those that are found by their names. -/
theorem mem_entries_iff {l : Listing} (hl : l.WellFormed) {name : Name} {e : Entry} :
    (name, e) ∈ l.entries ↔ l.find? name = some e := by
  induction l with
  | nil => simp [entries, Listing.find?]
  | leaf n lf rest ih => exact mem_cons_entries_iff hl.2.1 (ih hl.2.2)
  | dir n locked below rest _ ih => exact mem_cons_entries_iff hl.2.1 (ih hl.2.2.2)

/-- The names of a well-formed listing rise. -/
theorem pairwise_names {l : Listing} (hl : l.WellFormed) : l.names.Pairwise (· < ·) := by
  induction l with
  | nil => exact .nil
  | leaf name lf rest ih => exact List.pairwise_cons.2 ⟨hl.2.1, ih hl.2.2⟩
  | dir name locked below rest _ ih => exact List.pairwise_cons.2 ⟨hl.2.1, ih hl.2.2.2⟩

/-- The names of the entries of one kind. -/
def namesOf (kind : Entry → Bool) (l : Listing) : List Name := (l.entries.filter (kind ·.2)).map (·.1)

theorem mem_namesOf_iff {l : Listing} (hl : l.WellFormed) {kind : Entry → Bool} {name : Name} :
    name ∈ l.namesOf kind ↔ ∃ e, l.find? name = some e ∧ kind e = true := by
  rw [namesOf, List.mem_map]
  constructor
  · rintro ⟨⟨n, e⟩, hmem, rfl⟩
    rcases List.mem_filter.1 hmem with ⟨hentry, hkind⟩
    exact ⟨e, (mem_entries_iff hl).1 hentry, hkind⟩
  · rintro ⟨e, hfind, hkind⟩
    exact ⟨(name, e), List.mem_filter.2 ⟨(mem_entries_iff hl).2 hfind, hkind⟩, rfl⟩

theorem pairwise_namesOf {l : Listing} (hl : l.WellFormed) (kind : Entry → Bool) :
    (l.namesOf kind).Pairwise (· < ·) := by
  have hsub : (l.namesOf kind).Sublist l.names := by
    rw [namesOf, ← map_entries]
    exact List.filter_sublist.map _
  exact (pairwise_names hl).sublist hsub

theorem mem_namesOf_isFile_iff {l : Listing} (hl : l.WellFormed) {name : Name} :
    name ∈ l.namesOf Entry.isFile ↔ ∃ content locked, l.find? name = some (.leaf (.file content locked)) := by
  rw [mem_namesOf_iff hl]
  constructor
  · rintro ⟨e, hfind, hkind⟩
    cases e with
    | dir locked below => cases hkind
    | leaf lf =>
      cases lf with
      | file content locked => exact ⟨content, locked, hfind⟩
      | link target => cases hkind
      | fifo => cases hkind
  · rintro ⟨content, locked, hfind⟩
    exact ⟨_, hfind, rfl⟩

theorem mem_namesOf_isDirectory_iff {l : Listing} (hl : l.WellFormed) {name : Name} :
    name ∈ l.namesOf Entry.isDirectory ↔ ∃ locked below, l.find? name = some (.dir locked below) := by
  rw [mem_namesOf_iff hl]
  constructor
  · rintro ⟨e, hfind, hkind⟩
    cases e with
    | dir locked below => exact ⟨locked, below, hfind⟩
    | leaf lf => cases hkind
  · rintro ⟨locked, below, hfind⟩
    exact ⟨_, hfind, rfl⟩

end Listing

end LineCensus
