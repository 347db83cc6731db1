import LineCensus.Path

/-!
# LineCensus.FileTree.Listing — what a directory holds

1. `Listing`: the entries of a directory in the order of their names, where a directory among them comes
   with its own listing.
2. `Listing.find?`: the entry of a name.
3. `Listing.alter`, `Listing.alterAt`: changes, adds or removes the entry of a name, or of a list of names that
   leads through directories.
4. `Listing.WellFormed`: at every level the names are names that entries can have, and they rise, by bytes.
   Every change at such names keeps this.
-/

namespace LineCensus

/-! ## Entries -/

/-- What is no directory. -/
inductive Leaf where
  /-- A regular file; a locked one cannot be read. -/
  | file (content : Bytes) (locked : Bool)
  /-- A symbolic link. -/
  | link (target : Bytes)
  /-- A named pipe. -/
  | fifo
deriving DecidableEq, Repr

/-- The entries of a directory. -/
inductive Listing where
  /-- No entry. -/
  | nil
  /-- An entry that is no directory, and the entries after it. -/
  | leaf (name : Name) (leaf : Leaf) (rest : Listing)
  /-- A directory, and the entries after it; a locked one can be neither listed nor passed through. -/
  | dir (name : Name) (locked : Bool) (below rest : Listing)
deriving DecidableEq, Repr

/-- One entry. -/
inductive Entry where
  | leaf (leaf : Leaf)
  | dir (locked : Bool) (below : Listing)
deriving DecidableEq, Repr

namespace Listing

/-- The names of the entries. -/
def names : Listing → List Name
  | nil => []
  | leaf name _ rest => name :: rest.names
  | dir name _ _ rest => name :: rest.names

/-- The entry of a name. -/
def find? (name : Name) : Listing → Option Entry
  | nil => none
  | leaf n l rest => if n = name then some (.leaf l) else rest.find? name
  | dir n locked below rest => if n = name then some (.dir locked below) else rest.find? name

/-! ## Changes -/

/-- Puts an entry in front, if there is one. -/
def place (name : Name) : Option Entry → Listing → Listing
  | none, rest => rest
  | some (.leaf l), rest => leaf name l rest
  | some (.dir locked below), rest => dir name locked below rest

/-- Changes the entry of a name, adds one, or removes it. -/
def alter (name : Name) (change : Option Entry → Option Entry) : Listing → Listing
  | nil => place name (change none) nil
  | leaf n l rest =>
    if n = name then place name (change (some (.leaf l))) rest
    else if name < n then place name (change none) (leaf n l rest)
    else leaf n l (rest.alter name change)
  | dir n locked below rest =>
    if n = name then place name (change (some (.dir locked below))) rest
    else if name < n then place name (change none) (dir n locked below rest)
    else dir n locked below (rest.alter name change)

/-- Changes the entry at the end of a list of names; all but the last have to be directories. -/
def alterAt (change : Option Entry → Option Entry) : List Name → Listing → Listing
  | [], listing => listing
  | [name], listing => listing.alter name change
  | name :: more, listing =>
    listing.alter name fun
      | some (.dir locked below) => some (.dir locked (alterAt change more below))
      | other => other

/-! ## Form -/

/-- The names are names of entries and rise, here and in every directory below. -/
def WellFormed : Listing → Prop
  | nil => True
  | leaf name _ rest =>
    Path.isName name = true ∧ (∀ n ∈ rest.names, name < n) ∧ rest.WellFormed
  | dir name _ below rest =>
    Path.isName name = true ∧ (∀ n ∈ rest.names, name < n) ∧ below.WellFormed ∧ rest.WellFormed

/-- An entry whose listing, if it has one, is well-formed. -/
def EntryWellFormed : Entry → Prop
  | .leaf _ => True
  | .dir _ below => below.WellFormed

theorem names_place {name n : Name} {e : Option Entry} {rest : Listing}
    (h : n ∈ (place name e rest).names) : n = name ∨ n ∈ rest.names := by
  match e with
  | none => exact .inr h
  | some (.leaf l) => simpa [place, names] using h
  | some (.dir locked below) => simpa [place, names] using h

theorem names_alter {name n : Name} {change : Option Entry → Option Entry} {listing : Listing}
    (h : n ∈ (listing.alter name change).names) : n = name ∨ n ∈ listing.names := by
  induction listing with
  | nil => exact names_place h
  | leaf m l rest ih =>
    unfold alter at h
    split at h
    · rcases names_place h with h | h <;> simp [names, h]
    · split at h
      · exact names_place h
      · simp only [names, List.mem_cons] at h ⊢
        rcases h with h | h
        · exact .inr (.inl h)
        · exact (ih h).imp_right .inr
  | dir m locked below rest _ ih =>
    unfold alter at h
    split at h
    · rcases names_place h with h | h <;> simp [names, h]
    · split at h
      · exact names_place h
      · simp only [names, List.mem_cons] at h ⊢
        rcases h with h | h
        · exact .inr (.inl h)
        · exact (ih h).imp_right .inr

theorem WellFormed.place {name : Name} {e : Option Entry} {rest : Listing}
    (hname : Path.isName name = true) (hn : ∀ n ∈ rest.names, name < n)
    (he : ∀ x ∈ e, EntryWellFormed x) (hr : rest.WellFormed) :
    (Listing.place name e rest).WellFormed := by
  match e with
  | none => exact hr
  | some (.leaf l) => exact ⟨hname, hn, hr⟩
  | some (.dir locked below) => exact ⟨hname, hn, he _ rfl, hr⟩

/-- A change that keeps entries well-formed keeps listings well-formed. -/
theorem WellFormed.alter {name : Name} (hname : Path.isName name = true)
    {change : Option Entry → Option Entry}
    (hc : ∀ e, (∀ x ∈ e, EntryWellFormed x) → ∀ x ∈ change e, EntryWellFormed x) :
    ∀ {listing : Listing}, listing.WellFormed → (listing.alter name change).WellFormed := by
  intro listing
  induction listing with
  | nil =>
    intro h
    exact WellFormed.place hname (by simp [names]) (hc none (by simp)) h
  | leaf m l rest ih =>
    intro ⟨hname', hm, hr⟩
    unfold Listing.alter
    split
    · rename_i heq
      exact WellFormed.place hname (heq ▸ hm) (hc _ (by simp [EntryWellFormed])) hr
    · rename_i hne
      split
      · rename_i hlt
        refine WellFormed.place hname (fun n hn => ?_) (hc _ (by simp)) ⟨hname', hm, hr⟩
        simp only [names, List.mem_cons] at hn
        rcases hn with rfl | hn
        · exact hlt
        · exact List.lt_trans hlt (hm n hn)
      · rename_i hnlt
        refine ⟨hname', fun n hn => ?_, ih hr⟩
        rcases names_alter hn with rfl | hn
        · exact Std.lt_of_le_of_ne (Std.not_lt.1 hnlt) hne
        · exact hm n hn
  | dir m locked below rest _ ih =>
    intro ⟨hname', hm, hb, hr⟩
    unfold Listing.alter
    split
    · rename_i heq
      refine WellFormed.place hname (heq ▸ hm) (hc _ fun x hx => ?_) hr
      obtain rfl : Entry.dir locked below = x := by simpa using hx
      exact hb
    · rename_i hne
      split
      · rename_i hlt
        refine WellFormed.place hname (fun n hn => ?_) (hc _ (by simp)) ⟨hname', hm, hb, hr⟩
        simp only [names, List.mem_cons] at hn
        rcases hn with rfl | hn
        · exact hlt
        · exact List.lt_trans hlt (hm n hn)
      · rename_i hnlt
        refine ⟨hname', fun n hn => ?_, hb, ih hr⟩
        rcases names_alter hn with rfl | hn
        · exact Std.lt_of_le_of_ne (Std.not_lt.1 hnlt) hne
        · exact hm n hn

theorem WellFormed.alterAt {change : Option Entry → Option Entry}
    (hc : ∀ e, (∀ x ∈ e, EntryWellFormed x) → ∀ x ∈ change e, EntryWellFormed x) :
    ∀ {path : List Name} {listing : Listing}, (∀ n ∈ path, Path.isName n = true) →
      listing.WellFormed → (listing.alterAt change path).WellFormed
  | [], _, _, h => h
  | [name], _, hpath, h => WellFormed.alter (hpath name (by simp)) hc h
  | a :: b :: more, _, hpath, h => by
    refine WellFormed.alter (hpath a (by simp)) (fun e he x hx => ?_) h
    split at hx
    · obtain rfl := (Option.some.inj hx).symm
      have below (l : Listing) (hl : l.WellFormed) : (l.alterAt change (b :: more)).WellFormed :=
        WellFormed.alterAt hc (fun n hn => hpath n (List.mem_cons_of_mem a hn)) hl
      exact below _ (he _ rfl)
    · exact he x hx

end Listing

end LineCensus
