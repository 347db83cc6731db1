import LineCensus.FileTree.Resolve

/-!
# LineCensus.FileTree.Edit — building a file system

Everything here is done with all rights: locks do not bind.

1. `FileSystem.empty`: an empty working directory.
2. `FileSystem.edit`: changes the entry at a path, below directories that are made where they are missing.
   Links on the way, and if so asked a link at the end, are followed.
3. `writeFile`, `makeDirectory`, `makeLink`, `makeFifo`, `remove`, `setLock`: the changes.
-/

namespace LineCensus

namespace Entry

/-- The entry as a file with new content; a file that exists keeps its lock. -/
def overwritten (content : Bytes) : Option Entry → Option Entry
  | some (.leaf (.file _ locked)) => some (.leaf (.file content locked))
  | some (.dir locked below) => some (.dir locked below)
  | _ => some (.leaf (.file content false))

/-- The entry, or a new directory. -/
def orDirectory : Option Entry → Option Entry
  | none => some (.dir false .nil)
  | some entry => some entry

/-- The entry with its lock set or taken away. -/
def locked (lock : Bool) : Option Entry → Option Entry
  | some (.leaf (.file content _)) => some (.leaf (.file content lock))
  | some (.dir _ below) => some (.dir lock below)
  | other => other

/-- A change that keeps entries well-formed. -/
def KeepsForm (change : Option Entry → Option Entry) : Prop :=
  ∀ e, (∀ x ∈ e, Listing.EntryWellFormed x) → ∀ x ∈ change e, Listing.EntryWellFormed x

theorem keepsForm_leaf (l : Leaf) : KeepsForm fun _ => some (.leaf l) := by
  intro e _ x hx
  obtain rfl : Entry.leaf l = x := by simpa using hx
  trivial

theorem keepsForm_remove : KeepsForm fun _ => none := by
  intro e _ x hx
  simp at hx

theorem keepsForm_overwritten (content : Bytes) : KeepsForm (overwritten content) := by
  intro e he x hx
  unfold overwritten at hx
  split at hx
  · obtain rfl := Option.some.inj hx
    trivial
  · obtain rfl := Option.some.inj hx
    exact he _ rfl
  · obtain rfl := Option.some.inj hx
    trivial

theorem keepsForm_orDirectory : KeepsForm orDirectory := by
  intro e he x hx
  unfold orDirectory at hx
  split at hx
  · obtain rfl := Option.some.inj hx
    trivial
  · exact he x hx

theorem keepsForm_locked (lock : Bool) : KeepsForm (locked lock) := by
  intro e he x hx
  unfold locked at hx
  split at hx
  · obtain rfl := Option.some.inj hx
    trivial
  · obtain rfl := Option.some.inj hx
    have h := he _ rfl
    exact h
  · exact he x hx

end Entry

namespace FileSystem

/-- Directories of the given names, one in the other. -/
def nested (names : List Name) : Listing := names.foldr (fun name below => .dir name false below .nil) .nil

theorem wellFormed_nested {names : List Name} (h : ∀ n ∈ names, Path.isName n = true) :
    (nested names).WellFormed := by
  induction names with
  | nil => trivial
  | cons name rest ih =>
    exact ⟨h name List.mem_cons_self, by simp [Listing.names],
      ih fun n hn => h n (List.mem_cons_of_mem name hn), trivial⟩

/-- An empty directory, where work is done, at the given names. What cannot be a name is left out. -/
def empty (here : List Name) : FileSystem where
  top := nested (here.filter Path.isName)
  wellFormed := wellFormed_nested fun _ hn => (List.mem_filter.1 hn).2
  here := here.filter Path.isName

/-- Changes the entry at a list of names, from the root on. Nothing changes if one of them cannot be a
name. -/
def change (fs : FileSystem) (f : Option Entry → Option Entry) (hf : Entry.KeepsForm f)
    (names : List Name) : FileSystem :=
  if h : ∀ n ∈ names, Path.isName n = true then
    { fs with top := fs.top.alterAt f names, wellFormed := fs.wellFormed.alterAt hf h }
  else fs

/-! ## Going to a path -/

/-- The names of a trail, outermost first. -/
def namesOf (trail : Trail) : List Name := (trail.map (·.name)).reverse

/-- The names that lead to a path, from the root on, in a file system in which the directories on the way
exist. Follows at most `fuel` pieces; a link at the end is followed if `through` is set. -/
def reach (fs : FileSystem) (through : Bool) : (fuel : Nat) → Trail → List Name →
    FileSystem × List Name
  | 0, trail, _ => (fs, namesOf trail)
  | _, trail, [] => (fs, namesOf trail)
  | fuel + 1, trail, piece :: rest =>
    if Path.isIdle piece then fs.reach through fuel trail rest
    else if piece = Path.dotDot then fs.reach through fuel trail.tail rest
    else
      let here := namesOf trail ++ [piece]
      let isLast := rest.all Path.isIdle
      match (fs.listingOf trail).find? piece with
      | some (.leaf (.link target)) =>
        if isLast && !through then (fs, here)
        else fs.reach through fuel (startOf trail target) (Path.split target ++ rest)
      | some (.dir locked below) => fs.reach through fuel (⟨piece, locked, below⟩ :: trail) rest
      | some (.leaf _) => (fs, here)
      | none =>
        if isLast then (fs, here)
        else
          let fs := fs.change Entry.orDirectory Entry.keepsForm_orDirectory here
          fs.reach through fuel (⟨piece, false, .nil⟩ :: trail) rest

/-- A bound on the pieces on the way to a path, with all links that may be followed. -/
def reachLimit (path : Bytes) : Nat := path.length + 4096

/-- Changes the entry at a path. -/
def edit (fs : FileSystem) (f : Option Entry → Option Entry) (hf : Entry.KeepsForm f)
    (through : Bool) (path : Bytes) : FileSystem :=
  let (fs, names) :=
    fs.reach through (reachLimit path) (startOf fs.workingTrail path) (Path.split path)
  fs.change f hf names

/-! ## Changes -/

/-- Writes a file. -/
def writeFile (fs : FileSystem) (path content : Bytes) : FileSystem :=
  fs.edit (Entry.overwritten content) (Entry.keepsForm_overwritten content) true path

/-- Makes a directory, unless something of the name exists. -/
def makeDirectory (fs : FileSystem) (path : Bytes) : FileSystem :=
  fs.edit Entry.orDirectory Entry.keepsForm_orDirectory true path

/-- Makes a symbolic link. -/
def makeLink (fs : FileSystem) (path target : Bytes) : FileSystem :=
  fs.edit (fun _ => some (.leaf (.link target))) (Entry.keepsForm_leaf _) false path

/-- Makes a named pipe. -/
def makeFifo (fs : FileSystem) (path : Bytes) : FileSystem :=
  fs.edit (fun _ => some (.leaf .fifo)) (Entry.keepsForm_leaf _) false path

/-- Removes what is at a path, with everything below it. -/
def remove (fs : FileSystem) (path : Bytes) : FileSystem :=
  fs.edit (fun _ => none) Entry.keepsForm_remove false path

/-- Locks what is at a path, or takes the lock away. -/
def setLock (fs : FileSystem) (path : Bytes) (lock : Bool) : FileSystem :=
  fs.edit (Entry.locked lock) (Entry.keepsForm_locked lock) true path

end FileSystem

end LineCensus
