import LineCensus.FileTree.Edit
import LineCensus.Proofs.FileTree.Way

/-!
# LineCensus.Proofs.FileTree.Standing — the working directory

A relative path is seen from the working directory, and its absolute form goes there from the root. Both come to the
same only if the names of the working directory lead to it.

1. `find?_alter_place`, `find?_alter`: look-up after a change in one listing.
2. `Listing.Leads`: names lead through directories, of which none but the last may be locked. `Listing.Spares`,
   `Leads.alterAt`: changes elsewhere keep this.
3. `Stands`: the names of the working directory lead to it. `Stands.descend_here`: then the way from the root arrives.
4. `stands_empty`, `Stands.edit`: a new file system stands, and goes on standing through an edit that spares the
   working directory and those above it.
5. `Alteration`, `SparesAll`: the changes to a file system, and runs of them that spare the working directory.
   `Stands.alter`, `Stands.alterAll`: one of them and all of them leave it standing. `stands_built`: so it stands in
   file systems that are built like this.
-/

namespace LineCensus

namespace Listing

/-! ## One listing -/

theorem find?_place {name n : Name} {e : Option Entry} {rest : Listing} (hrest : ∀ m ∈ rest.names, name < m) :
    (place name e rest).find? n = if n = name then e else rest.find? n := by
  by_cases hn : n = name
  · subst hn
    rw [if_pos rfl]
    match e with
    | none => exact find?_eq_none_of_lt hrest
    | some (.leaf l) => exact if_pos rfl
    | some (.dir locked below) => exact if_pos rfl
  · rw [if_neg hn]
    match e with
    | none => rfl
    | some (.leaf l) => exact if_neg (Ne.symm hn)
    | some (.dir locked below) => exact if_neg (Ne.symm hn)

/-- A change is made to the entry in front, in front of it, or behind it. -/
theorem alter_place (name m : Name) (change : Option Entry → Option Entry) (e : Entry) (rest : Listing) :
    (place m (some e) rest).alter name change =
      if m = name then place name (change (some e)) rest
      else if name < m then place name (change none) (place m (some e) rest)
      else place m (some e) (rest.alter name change) := by
  cases e <;> rfl

theorem find?_place_some (m n : Name) (e : Entry) (rest : Listing) :
    (place m (some e) rest).find? n = if m = n then some e else rest.find? n := by
  cases e <;> rfl

/-- Behind an entry, a change is looked up as it is in the rest. -/
theorem find?_alter_place {name m n : Name} {change : Option Entry → Option Entry} {e : Entry} {rest : Listing}
    (hrest : ∀ x ∈ rest.names, m < x)
    (ih : (rest.alter name change).find? n = if n = name then change (rest.find? name) else rest.find? n) :
    ((place m (some e) rest).alter name change).find? n =
      if n = name then change ((place m (some e) rest).find? name) else (place m (some e) rest).find? n := by
  rw [alter_place]
  split
  · -- the entry stands in front
    next heq =>
    subst heq
    rw [find?_place hrest, find?_place_some, find?_place_some, if_pos rfl]
    by_cases hn : n = m
    · rw [if_pos hn, if_pos hn]
    · rw [if_neg hn, if_neg hn, if_neg (Ne.symm hn)]
  · next hne =>
    split
    · -- there is none, and its place is in front
      next hlt =>
      have hbehind : ∀ x ∈ (place m (some e) rest).names, name < x := by
        intro x hx
        rcases names_place hx with rfl | hx
        · exact hlt
        · exact List.lt_trans hlt (hrest x hx)
      rw [find?_place hbehind, find?_eq_none_of_lt hbehind]
    · -- it is further behind, or is put there
      rw [find?_place_some, find?_place_some, find?_place_some, if_neg hne, ih]
      by_cases hn : m = n
      · rw [if_pos hn, if_pos hn, if_neg (fun h => hne (hn.trans h))]
      · rw [if_neg hn, if_neg hn]

/-- After a change, the entry of the name is the changed one, and all others are as they were. -/
theorem find?_alter {name n : Name} {change : Option Entry → Option Entry} {l : Listing} (hl : l.WellFormed) :
    (l.alter name change).find? n = if n = name then change (l.find? name) else l.find? n := by
  induction l with
  | nil => exact find?_place (by simp [names])
  | leaf m lf rest ih =>
    rcases hl with ⟨-, hrest, hwf⟩
    exact @find?_alter_place name m n change (.leaf lf) rest hrest (ih hwf)
  | dir m locked below rest _ ih =>
    rcases hl with ⟨-, hrest, -, hwf⟩
    exact @find?_alter_place name m n change (.dir locked below) rest hrest (ih hwf)

/-! ## Names that lead to a directory -/

/-- Names lead through directories to a directory; none but the last is locked. -/
def Leads : List Name → Listing → Prop
  | [], _ => True
  | [name], l => ∃ locked below, l.find? name = some (.dir locked below)
  | name :: more, l => ∃ below, l.find? name = some (.dir false below) ∧ below.Leads more

theorem leads_cons_iff {l : Listing} {name : Name} {more : List Name} :
    l.Leads (name :: more) ↔
      ∃ locked below, l.find? name = some (.dir locked below) ∧ (more ≠ [] → locked = false ∧ below.Leads more) := by
  cases more with
  | nil => simp [Leads]
  | cons next more =>
    constructor
    · rintro ⟨below, hfind, hmore⟩
      exact ⟨false, below, hfind, fun _ => ⟨rfl, hmore⟩⟩
    · rintro ⟨locked, below, hfind, hmore⟩
      rcases hmore (List.cons_ne_nil next more) with ⟨rfl, hbelow⟩
      exact ⟨below, hfind, hbelow⟩

/-- A change further down is made in the directory of the first name. -/
theorem alterAt_cons_cons (change : Option Entry → Option Entry) (name next : Name) (more : List Name) (l : Listing) :
    l.alterAt change (name :: next :: more) =
      l.alter name fun
        | some (.dir locked below) => some (.dir locked (below.alterAt change (next :: more)))
        | other => other := rfl

/-- A change of the entry at a path spares the directories to which names lead: it is made to none of them, or keeps
them with what is in them and locks none but the last. -/
def Spares (change : Option Entry → Option Entry) (path names : List Name) : Prop :=
  path <+: names → ∀ locked below, ∃ lock, change (some (.dir locked below)) = some (.dir lock below) ∧
    (path ≠ names → lock = true → locked = true)

theorem spares_of_not_prefix {change : Option Entry → Option Entry} {path names : List Name} (h : ¬path <+: names) :
    Spares change path names := fun hprefix => absurd hprefix h

theorem spares_of_keeps {change : Option Entry → Option Entry}
    (h : ∀ locked below, change (some (.dir locked below)) = some (.dir locked below)) (path names : List Name) :
    Spares change path names := fun _ locked below => ⟨locked, h locked below, fun _ hlocked => hlocked⟩

/-- A lock on the last of the directories spares them, and so does a lock that is taken away. -/
theorem spares_locked {lock : Bool} {path names : List Name} (h : lock = true → path <+: names → path = names) :
    Spares (Entry.locked lock) path names := by
  intro hprefix locked below
  exact ⟨lock, rfl, fun hpath hlock => absurd (h hlock hprefix) hpath⟩

/-- A change that spares the directories to which names lead keeps them. -/
theorem Leads.alterAt {change : Option Entry → Option Entry} {path names : List Name} {l : Listing}
    (hl : l.WellFormed) (h : l.Leads names) (hspares : Spares change path names) :
    (l.alterAt change path).Leads names := by
  induction path generalizing names l with
  | nil => exact h
  | cons a path ih =>
    cases names with
    | nil => trivial
    | cons name more =>
      rcases leads_cons_iff.1 h with ⟨locked, below, hfind, hmore⟩
      by_cases ha : name = a
      · subst ha
        cases path with
        | nil =>
          rcases hspares ⟨more, rfl⟩ locked below with ⟨lock, hkept, hlock⟩
          have hfind' : (l.alter name change).find? name = some (.dir lock below) := by
            rw [find?_alter hl, if_pos rfl, hfind, hkept]
          refine leads_cons_iff.2 ⟨lock, below, hfind', fun hne => ?_⟩
          rcases hmore hne with ⟨rfl, hbelow⟩
          have hpath : [name] ≠ name :: more := by
            intro heq
            exact hne (List.cons.inj heq).2.symm
          have hunlocked : lock = false := by
            cases lock with
            | false => rfl
            | true => exact (hlock hpath rfl).symm
          exact ⟨hunlocked, hbelow⟩
        | cons b path =>
          -- the directory stays, and the change is made below it
          have hfind' : (l.alterAt change (name :: b :: path)).find? name =
              some (.dir locked (below.alterAt change (b :: path))) := by
            rw [alterAt_cons_cons, find?_alter hl, if_pos rfl, hfind]
          refine leads_cons_iff.2 ⟨locked, _, hfind', fun hne => ?_⟩
          rcases hmore hne with ⟨hlocked, hbelow⟩
          refine ⟨hlocked, ih (hl.of_find?_dir hfind) hbelow ?_⟩
          intro hprefix locked' below'
          rcases hspares ((List.prefix_cons_inj name).2 hprefix) locked' below' with ⟨lock, hkept, hlock⟩
          exact ⟨lock, hkept, fun hpath => hlock fun heq => hpath (List.cons.inj heq).2⟩
      · have hfind' : (l.alterAt change (a :: path)).find? name = some (.dir locked below) := by
          cases path with
          | nil => rw [Listing.alterAt, find?_alter hl, if_neg ha, hfind]
          | cons b path => rw [alterAt_cons_cons, find?_alter hl, if_neg ha, hfind]
        exact leads_cons_iff.2 ⟨locked, below, hfind', hmore⟩

end Listing

/-! ## The working directory -/

namespace FileSystem

variable {fs : FileSystem}

/-- The working directory stands: its names are names, and lead to it from the root. -/
structure Stands (fs : FileSystem) : Prop where
  isName : ∀ n ∈ fs.here, Path.isName n = true
  leads : fs.top.Leads fs.here

/-- Names that lead to a directory are gone through, from any directory that may be passed through. -/
theorem descend_of_leads {trail : Trail} {names : List Name} (hlocked : isLocked trail = false)
    (hnames : ∀ n ∈ names, Path.isName n = true) (h : (fs.listingOf trail).Leads names) :
    fs.descend trail names = .done (.dir (fs.trailThrough trail names)) := by
  induction names generalizing trail with
  | nil => rfl
  | cons name more ih =>
    rcases Listing.leads_cons_iff.1 h with ⟨locked, below, hfind, hmore⟩
    have hname := hnames name List.mem_cons_self
    have hthrough : fs.trailThrough trail (name :: more) = fs.trailThrough (⟨name, locked, below⟩ :: trail) more := by
      rw [trailThrough, hfind]
    rw [descend_name hname hlocked hfind, hthrough]
    show fs.descend (⟨name, locked, below⟩ :: trail) more = _
    by_cases hne : more = []
    · subst hne
      rfl
    · rcases hmore hne with ⟨rfl, hbelow⟩
      exact ih rfl (fun n hn => hnames n (List.mem_cons_of_mem name hn)) hbelow

/-- The way from the root to the working directory arrives there. -/
theorem Stands.descend_here (h : fs.Stands) : fs.descend [] fs.here = .done (.dir fs.workingTrail) :=
  descend_of_leads rfl h.isName h.leads

/-! ## Changes -/

theorem leads_nested (names : List Name) : (nested names).Leads names := by
  induction names with
  | nil => trivial
  | cons name more ih =>
    have hfind : (nested (name :: more)).find? name = some (.dir false (nested more)) := if_pos rfl
    exact Listing.leads_cons_iff.2 ⟨false, nested more, hfind, fun _ => ⟨rfl, ih⟩⟩

/-- The working directory of a new file system stands. -/
theorem stands_empty (here : List Name) : (empty here).Stands :=
  ⟨fun _ hn => (List.mem_filter.1 hn).2, leads_nested _⟩

/-- A change that spares the working directory and those above it leaves it standing. -/
theorem Stands.change (h : fs.Stands) {f : Option Entry → Option Entry} (hf : Entry.KeepsForm f) {names : List Name}
    (hspares : Listing.Spares f names fs.here) : (fs.change f hf names).Stands := by
  unfold FileSystem.change
  split
  · exact ⟨h.isName, h.leads.alterAt fs.wellFormed hspares⟩
  · exact h

theorem here_change (f : Option Entry → Option Entry) (hf : Entry.KeepsForm f) (names : List Name) :
    (fs.change f hf names).here = fs.here := by
  unfold FileSystem.change
  split <;> rfl

/-- On the way to a path, directories are made only where there is nothing. -/
theorem Stands.reach (h : fs.Stands) (through : Bool) (fuel : Nat) (trail : Trail) (pieces : List Name) :
    (fs.reach through fuel trail pieces).1.Stands ∧ (fs.reach through fuel trail pieces).1.here = fs.here := by
  induction fuel generalizing fs trail pieces with
  | zero => exact ⟨h, rfl⟩
  | succ fuel ih =>
    cases pieces with
    | nil => exact ⟨h, rfl⟩
    | cons piece rest =>
      unfold FileSystem.reach
      split
      · exact ih h trail rest
      · split
        · exact ih h trail.tail rest
        · dsimp only
          split
          · split
            · exact ⟨h, rfl⟩
            · exact ih h _ _
          · exact ih h _ _
          · exact ⟨h, rfl⟩
          · split
            · exact ⟨h, rfl⟩
            · have hmade : (fs.change Entry.orDirectory Entry.keepsForm_orDirectory (namesOf trail ++ [piece])).Stands :=
                h.change Entry.keepsForm_orDirectory (Listing.spares_of_keeps (fun _ _ => rfl) _ _)
              rcases ih hmade (⟨piece, false, .nil⟩ :: trail) rest with ⟨hstands, hhere⟩
              exact ⟨hstands, hhere.trans (here_change _ _ _)⟩

/-- The names of the entry that an edit changes. -/
def editedNames (fs : FileSystem) (through : Bool) (path : Bytes) : List Name :=
  (fs.reach through (reachLimit path) (startOf fs.workingTrail path) (Path.split path)).2

/-- An edit that spares the working directory and those above it leaves it standing, and in its place. -/
theorem Stands.edit (h : fs.Stands) {f : Option Entry → Option Entry} (hf : Entry.KeepsForm f) {through : Bool}
    {path : Bytes} (hspares : Listing.Spares f (fs.editedNames through path) fs.here) :
    (fs.edit f hf through path).Stands ∧ (fs.edit f hf through path).here = fs.here := by
  rcases h.reach through (reachLimit path) (startOf fs.workingTrail path) (Path.split path) with ⟨hstands, hhere⟩
  constructor
  · apply hstands.change hf
    rw [hhere]
    exact hspares
  · exact (here_change f hf _).trans hhere

/-! ## Changes one after the other -/

/-- One of the changes to a file system. -/
inductive Alteration where
  | writeFile (path content : Bytes)
  | makeDirectory (path : Bytes)
  | makeLink (path target : Bytes)
  | makeFifo (path : Bytes)
  | remove (path : Bytes)
  | setLock (path : Bytes) (lock : Bool)
deriving DecidableEq, Repr

/-- The file system after an alteration. -/
def alter (fs : FileSystem) : Alteration → FileSystem
  | .writeFile path content => fs.writeFile path content
  | .makeDirectory path => fs.makeDirectory path
  | .makeLink path target => fs.makeLink path target
  | .makeFifo path => fs.makeFifo path
  | .remove path => fs.remove path
  | .setLock path lock => fs.setLock path lock

/-- The file system after alterations, one after the other. -/
def alterAll (fs : FileSystem) (alterations : List Alteration) : FileSystem := alterations.foldl alter fs

/-- An alteration neither removes nor replaces the working directory or a directory above it, and locks none of those
above it. Files and directories that are made take the place of no directory. -/
def Spares (fs : FileSystem) : Alteration → Prop
  | .writeFile .. | .makeDirectory .. => True
  | .makeLink path _ | .makeFifo path | .remove path => ¬fs.editedNames false path <+: fs.here
  | .setLock path lock => lock = true → fs.editedNames true path <+: fs.here → fs.editedNames true path = fs.here

/-- Each of the alterations spares the working directory when it is made. -/
def SparesAll (fs : FileSystem) : List Alteration → Prop
  | [] => True
  | a :: rest => fs.Spares a ∧ (fs.alter a).SparesAll rest

instance (fs : FileSystem) : (a : Alteration) → Decidable (fs.Spares a)
  | .writeFile .. | .makeDirectory .. => inferInstanceAs (Decidable True)
  | .makeLink .. | .makeFifo .. | .remove .. => inferInstanceAs (Decidable (¬_))
  | .setLock .. => inferInstanceAs (Decidable (_ → _ → _))

instance decidableSparesAll (fs : FileSystem) : (alterations : List Alteration) → Decidable (fs.SparesAll alterations)
  | [] => inferInstanceAs (Decidable True)
  | a :: rest =>
    let _ := decidableSparesAll (fs.alter a) rest
    inferInstanceAs (Decidable (_ ∧ _))

variable {a : Alteration} {alterations : List Alteration}

/-- An alteration that spares the working directory leaves it standing, and in its place. -/
theorem Stands.alter (h : fs.Stands) (hspares : fs.Spares a) : (fs.alter a).Stands ∧ (fs.alter a).here = fs.here := by
  cases a with
  | writeFile path content =>
    exact h.edit (Entry.keepsForm_overwritten content) (Listing.spares_of_keeps (fun _ _ => rfl) _ _)
  | makeDirectory path => exact h.edit Entry.keepsForm_orDirectory (Listing.spares_of_keeps (fun _ _ => rfl) _ _)
  | makeLink path target => exact h.edit (Entry.keepsForm_leaf _) (Listing.spares_of_not_prefix hspares)
  | makeFifo path => exact h.edit (Entry.keepsForm_leaf _) (Listing.spares_of_not_prefix hspares)
  | remove path => exact h.edit Entry.keepsForm_remove (Listing.spares_of_not_prefix hspares)
  | setLock path lock => exact h.edit (Entry.keepsForm_locked lock) (Listing.spares_locked hspares)

/-- The working directory goes on standing through any alterations that spare it. -/
theorem Stands.alterAll (h : fs.Stands) (hspares : fs.SparesAll alterations) :
    (fs.alterAll alterations).Stands ∧ (fs.alterAll alterations).here = fs.here := by
  induction alterations generalizing fs with
  | nil => exact ⟨h, rfl⟩
  | cons a rest ih =>
    rcases hspares with ⟨ha, hrest⟩
    rcases h.alter ha with ⟨hstands, hhere⟩
    rcases ih hstands hrest with ⟨hstands', hhere'⟩
    exact ⟨hstands', hhere'.trans hhere⟩

/-- The working directory stands in every file system that is built from an empty one by alterations that spare it. -/
theorem stands_built {here : List Name} (hspares : (empty here).SparesAll alterations) :
    ((empty here).alterAll alterations).Stands := ((stands_empty here).alterAll hspares).1

/-- A link to the root, a directory that is made and removed through it, and a lock on the working directory. -/
example : ((empty [[0x74]]).alterAll
    [.makeLink [0x6c] [0x2f], .writeFile [0x6c, 0x2f, 0x73, 0x2f, 0x61] [0x31], .remove [0x6c, 0x2f, 0x73],
      .setLock [0x2e] true]).Stands := stands_built (by decide)

end FileSystem

end LineCensus
