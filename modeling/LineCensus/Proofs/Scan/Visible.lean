import LineCensus.Count
import LineCensus.Proofs.FileTree.Lookup
import LineCensus.Proofs.Scan.Found

/-!
# LineCensus.Proofs.Scan.Visible — entries that can matter to a census

1. `Outline`: what is seen of an entry by itself, of a directory no more than that it is one.
2. `Outline.isHidden`, `Listing.Hidden`: entries that are hidden, in themselves or by a directory around them.
   `Listing.Shows`: the others.
3. `shows_singleton_iff`, `shows_cons_iff`: what can be seen, by the entry of the first name.
4. `Listing.visible`: all that can be seen, in the order of names. `mem_visible_iff`: it is what `Shows`
   describes. Hence `visible_eq_of_shows_iff`: two directories that show the same list it in the same order.
-/

namespace LineCensus

/-! ## Entries by themselves -/

/-- An entry without what lies below it: of a directory no more is seen than that it is one. -/
inductive Outline where
  | dir
  | leaf (leaf : Leaf)
deriving DecidableEq, Repr

/-- What is seen of an entry by itself. -/
def Entry.outline : Entry → Outline
  | .dir _ _ => .dir
  | .leaf lf => .leaf lf

/-- Whether an entry is hidden in itself: a link, a pipe, a file that is not to be counted, a file that cannot
be read, a file that is no text. -/
def Outline.isHidden (rules : Rules) (path : Bytes) : Outline → Bool
  | .dir => false
  | .leaf (.link _) | .leaf .fifo => true
  | .leaf (.file content locked) =>
    !rules.includes path || locked || (Text.decode? content).isNone

theorem Rules.enters_eq_false_iff {rules : Rules} {name : Name} :
    rules.enters name = false ↔ String.ofList (Text.decodeLossy name) ∈ rules.directories := by
  simp [enters, ignoresDirectory]

/-! ## Hidden entries -/

namespace Listing

/-- The entry at a list of names, by itself. -/
def outline? (l : Listing) (names : List Name) : Option Outline := (l.lookup? names).map Entry.outline

/-- An entry below the directory at `root` is hidden: it lies in a directory that is left out because of its
name or in one that cannot be listed, at any depth, or it is hidden in itself. -/
inductive Hidden (rules : Rules) (root : Bytes) (l : Listing) (names : List Name) : Prop
  | inIgnored (dirs more : List Name) (d : Name) {locked : Bool} {below : Listing}
      (hnames : names = dirs ++ [d] ++ more) (hmore : more ≠ [])
      (hdir : l.lookup? (dirs ++ [d]) = some (.dir locked below))
      (hignored : String.ofList (Text.decodeLossy d) ∈ rules.directories)
  | inUnlisted (dirs more : List Name) {below : Listing} (hnames : names = dirs ++ more)
      (hmore : more ≠ []) (hdir : l.lookup? dirs = some (.dir true below))
  | inItself {o : Outline} (hentry : l.outline? names = some o)
      (hhidden : o.isHidden rules (Path.joinAll root names) = true)

/-! ## What can be seen -/

variable {rules : Rules} {root : Bytes} {names : List Name} {o : Outline}

/-- An entry is there and is not hidden. -/
structure Shows (rules : Rules) (root : Bytes) (l : Listing) (names : List Name) (o : Outline) : Prop where
  entry : l.outline? names = some o
  not_hidden : ¬Hidden rules root l names

/-! ## By the first name -/

theorem lookup?_cons {l below : Listing} {name : Name} {locked : Bool}
    (hfind : l.find? name = some (.dir locked below)) (hne : names ≠ []) :
    l.lookup? (name :: names) = below.lookup? names := by
  cases names with
  | nil => exact absurd rfl hne
  | cons next more => rw [lookup_cons_cons, hfind]

theorem outline?_cons {l below : Listing} {name : Name} {locked : Bool}
    (hfind : l.find? name = some (.dir locked below)) (hne : names ≠ []) :
    l.outline? (name :: names) = below.outline? names := by
  rw [outline?, lookup?_cons hfind hne, outline?]

/-- What is hidden below a directory is hidden seen from above. -/
theorem Hidden.of_below {l below : Listing} {name : Name} {locked : Bool}
    (h : Hidden rules (Path.join root name) below names)
    (hfind : l.find? name = some (.dir locked below)) : Hidden rules root l (name :: names) := by
  cases h with
  | inIgnored dirs more d hnames hmore hdir hignored =>
    have hup : l.lookup? (name :: dirs ++ [d]) = _ := (lookup?_cons hfind (by simp)).trans hdir
    exact .inIgnored (name :: dirs) more d (congrArg (name :: ·) hnames) hmore hup hignored
  | inUnlisted dirs more hnames hmore hdir =>
    have hne : dirs ≠ [] := by
      rintro rfl
      cases hdir
    have hup : l.lookup? (name :: dirs) = _ := (lookup?_cons hfind hne).trans hdir
    exact .inUnlisted (name :: dirs) more (congrArg (name :: ·) hnames) hmore hup
  | inItself hentry hhidden =>
    have hne : names ≠ [] := by
      rintro rfl
      cases hentry
    exact .inItself ((outline?_cons hfind hne).trans hentry) hhidden

/-- What is hidden seen from above, in a directory that is entered and listed, is hidden below. -/
theorem Hidden.below {l below : Listing} {name : Name} (h : Hidden rules root l (name :: names))
    (hne : names ≠ []) (hfind : l.find? name = some (.dir false below)) (henters : rules.enters name = true) :
    Hidden rules (Path.join root name) below names := by
  cases h with
  | inIgnored dirs more d hnames hmore hdir hignored =>
    cases dirs with
    | nil =>
      -- the directory is this one
      rcases List.cons.inj hnames with ⟨rfl, -⟩
      rw [← Rules.enters_eq_false_iff, henters] at hignored
      cases hignored
    | cons a dirs =>
      rcases List.cons.inj hnames with ⟨rfl, hnames'⟩
      rw [List.cons_append, lookup?_cons hfind (by simp)] at hdir
      exact .inIgnored dirs more d hnames' hmore hdir hignored
  | inUnlisted dirs more hnames hmore hdir =>
    cases dirs with
    | nil => cases hdir
    | cons a dirs =>
      rcases List.cons.inj hnames with ⟨rfl, hnames'⟩
      cases dirs with
      | nil =>
        have hlisted : l.lookup? [name] = some (.dir false below) := hfind
        rw [hlisted] at hdir
        cases hdir
      | cons b dirs =>
        rw [lookup?_cons hfind (by simp)] at hdir
        exact .inUnlisted (b :: dirs) more hnames' hmore hdir
  | inItself hentry hhidden =>
    rw [outline?_cons hfind hne] at hentry
    exact .inItself hentry hhidden

/-- An entry directly in the directory is hidden only in itself. -/
theorem hidden_singleton_iff {l : Listing} {name : Name} :
    Hidden rules root l [name] ↔
      ∃ o, l.outline? [name] = some o ∧ o.isHidden rules (Path.join root name) = true := by
  constructor
  · intro h
    cases h with
    | inIgnored dirs more d hnames hmore hdir hignored =>
      have hlength := congrArg List.length hnames
      have hpos := List.length_pos_iff.2 hmore
      simp only [List.length_append, List.length_singleton] at hlength
      omega
    | inUnlisted dirs more hnames hmore hdir =>
      have hlength := congrArg List.length hnames
      have hpos := List.length_pos_iff.2 hmore
      have hdirs : dirs = [] := by
        rw [List.length_append, List.length_singleton] at hlength
        exact List.length_eq_zero_iff.1 (by omega)
      rw [hdirs] at hdir
      cases hdir
    | inItself hentry hhidden => exact ⟨_, hentry, hhidden⟩
  · rintro ⟨o, hentry, hhidden⟩
    exact .inItself hentry hhidden

theorem not_shows_nil {l : Listing} : ¬Shows rules root l [] o := by
  rintro ⟨hentry, -⟩
  cases hentry

/-- An entry directly in the directory is seen unless it is hidden in itself. -/
theorem shows_singleton_iff {l : Listing} {name : Name} :
    Shows rules root l [name] o ↔
      (l.find? name).map Entry.outline = some o ∧ o.isHidden rules (Path.join root name) = false := by
  have hentry : l.outline? [name] = (l.find? name).map Entry.outline := rfl
  constructor
  · rintro ⟨hshown, hhidden⟩
    rw [hidden_singleton_iff] at hhidden
    refine ⟨hshown, ?_⟩
    rw [← Bool.not_eq_true]
    intro his
    exact hhidden ⟨o, hshown, his⟩
  · rintro ⟨hshown, hnot⟩
    refine ⟨hshown, ?_⟩
    rw [hidden_singleton_iff, hentry, hshown]
    rintro ⟨o', ho', hhidden⟩
    obtain rfl := Option.some.inj ho'
    rw [hnot] at hhidden
    cases hhidden

/-- An entry further down is seen from the first directory on the way, if that one is entered and listed. -/
theorem shows_cons_iff {l : Listing} {name next : Name} {more : List Name} :
    Shows rules root l (name :: next :: more) o ↔
      ∃ below, l.find? name = some (.dir false below) ∧ rules.enters name = true ∧
        Shows rules (Path.join root name) below (next :: more) o := by
  have hne : next :: more ≠ [] := List.cons_ne_nil next more
  constructor
  · rintro ⟨hentry, hhidden⟩
    -- the first name leads through a directory
    obtain ⟨locked, below, hfind⟩ : ∃ locked below, l.find? name = some (.dir locked below) := by
      rw [outline?, lookup_cons_cons] at hentry
      split at hentry
      · rename_i hfind
        exact ⟨_, _, hfind⟩
      · cases hentry
    have hdir : l.lookup? [name] = some (.dir locked below) := hfind
    have hlisted : locked = false := by
      cases locked with
      | false => rfl
      | true => exact absurd (.inUnlisted [name] _ rfl hne hdir) hhidden
    subst hlisted
    have henters : rules.enters name = true := by
      cases henters : rules.enters name with
      | true => rfl
      | false =>
        exact absurd (.inIgnored [] _ name rfl hne hdir (Rules.enters_eq_false_iff.1 henters)) hhidden
    rw [outline?_cons hfind hne] at hentry
    exact ⟨below, hfind, henters, hentry, fun h => hhidden (h.of_below hfind)⟩
  · rintro ⟨below, hfind, henters, hentry, hhidden⟩
    refine ⟨?_, fun h => hhidden (h.below hne hfind henters)⟩
    rw [outline?_cons hfind hne]
    exact hentry

/-- Whether an entry is seen depends on the entry of its first name only. -/
theorem shows_congr {l l' : Listing} {name : Name} (h : l.find? name = l'.find? name) {more : List Name} :
    Shows rules root l (name :: more) o ↔ Shows rules root l' (name :: more) o := by
  cases more with
  | nil => rw [shows_singleton_iff, shows_singleton_iff, h]
  | cons next more => rw [shows_cons_iff, shows_cons_iff, h]

/-- The first name of an entry that is seen is the name of an entry. -/
theorem Shows.exists_cons {l : Listing} (h : Shows rules root l names o) :
    ∃ name more, names = name :: more ∧ name ∈ l.names := by
  cases names with
  | nil => exact absurd h not_shows_nil
  | cons name more =>
    refine ⟨name, more, rfl, ?_⟩
    cases more with
    | nil =>
      rcases shows_singleton_iff.1 h with ⟨hentry, -⟩
      rcases Option.map_eq_some_iff.1 hentry with ⟨e, hfind, -⟩
      exact mem_names_of_find? hfind
    | cons next more =>
      rcases shows_cons_iff.1 h with ⟨below, hfind, -⟩
      exact mem_names_of_find? hfind

/-! ## All that can be seen -/

/-- What is seen of an entry that is no directory. -/
def visibleLeaf (rules : Rules) (path : Bytes) (name : Name) (lf : Leaf) : List (List Name × Outline) :=
  if (Outline.leaf lf).isHidden rules path then [] else [([name], .leaf lf)]

/-- All that can be seen below the directory at `root`, in the order of names. -/
def visible (rules : Rules) (root : Bytes) : Listing → List (List Name × Outline)
  | .nil => []
  | .leaf name lf rest => visibleLeaf rules (Path.join root name) name lf ++ rest.visible rules root
  | .dir name locked below rest =>
    ([name], .dir) ::
      ((if rules.enters name && !locked then
          (below.visible rules (Path.join root name)).map fun v => (name :: v.1, v.2)
        else [])
        ++ rest.visible rules root)

theorem mem_visibleLeaf_iff {path : Bytes} {name : Name} {lf : Leaf} :
    (names, o) ∈ visibleLeaf rules path name lf ↔
      names = [name] ∧ .leaf lf = o ∧ o.isHidden rules path = false := by
  unfold visibleLeaf
  by_cases hhidden : (Outline.leaf lf).isHidden rules path = true
  · rw [if_pos hhidden]
    constructor
    · intro h
      cases h
    · rintro ⟨-, rfl, hnot⟩
      rw [hhidden] at hnot
      cases hnot
  · rw [if_neg hhidden, List.mem_singleton, Prod.mk.injEq, eq_comm (b := Outline.leaf lf)]
    constructor
    · rintro ⟨rfl, rfl⟩
      exact ⟨rfl, rfl, Bool.not_eq_true _ ▸ hhidden⟩
    · rintro ⟨rfl, rfl, -⟩
      exact ⟨rfl, rfl⟩

/-- A name below all names of a listing is the first name of nothing that is seen there. -/
theorem not_shows_of_lt {l : Listing} {name : Name} (h : ∀ n ∈ l.names, name < n) (more : List Name) :
    ¬Shows rules root l (name :: more) o := by
  intro hshows
  rcases hshows.exists_cons with ⟨_, _, heq, hmem⟩
  rcases List.cons.inj heq with ⟨rfl, -⟩
  exact List.lt_irrefl name (h name hmem)

/-- What is seen in a listing that begins with an entry that is no directory. -/
theorem shows_leaf_iff {name : Name} {lf : Leaf} {rest : Listing} (hrest : ∀ n ∈ rest.names, name < n) :
    Shows rules root (.leaf name lf rest) names o ↔
      (names, o) ∈ visibleLeaf rules (Path.join root name) name lf ∨ Shows rules root rest names o := by
  rw [mem_visibleLeaf_iff]
  cases names with
  | nil => simp [not_shows_nil]
  | cons head more =>
    by_cases hhead : name = head
    · subst hhead
      have hnot : ¬Shows rules root rest (name :: more) o := not_shows_of_lt hrest more
      have hfind : (leaf name lf rest).find? name = some (.leaf lf) := if_pos rfl
      cases more with
      | nil =>
        rw [shows_singleton_iff, hfind]
        simp [hnot, Entry.outline]
      | cons next more =>
        rw [shows_cons_iff, hfind]
        simp [hnot]
    · have hfind : (leaf name lf rest).find? head = rest.find? head := if_neg hhead
      rw [shows_congr hfind]
      simp [Ne.symm hhead]

/-- What is seen in a listing that begins with a directory. -/
theorem shows_dir_iff {name : Name} {locked : Bool} {below rest : Listing}
    (hrest : ∀ n ∈ rest.names, name < n) :
    Shows rules root (.dir name locked below rest) names o ↔
      (names = [name] ∧ o = .dir) ∨
        (rules.enters name = true ∧ locked = false ∧
          ∃ more, Shows rules (Path.join root name) below more o ∧ name :: more = names) ∨
        Shows rules root rest names o := by
  cases names with
  | nil => simp [not_shows_nil]
  | cons head more =>
    by_cases hhead : name = head
    · subst hhead
      have hnot : ¬Shows rules root rest (name :: more) o := not_shows_of_lt hrest more
      have hfind : (dir name locked below rest).find? name = some (.dir locked below) := if_pos rfl
      cases more with
      | nil =>
        rw [shows_singleton_iff, hfind, Option.map_some, Option.some.injEq]
        constructor
        · rintro ⟨rfl, -⟩
          exact .inl ⟨rfl, rfl⟩
        · rintro (⟨-, rfl⟩ | ⟨-, -, _, h, hnames⟩ | h)
          · exact ⟨rfl, rfl⟩
          · rcases List.cons.inj hnames with ⟨-, rfl⟩
            exact absurd h not_shows_nil
          · exact absurd h hnot
      | cons next more =>
        rw [shows_cons_iff, hfind]
        constructor
        · rintro ⟨_, hdir, henters, h⟩
          rcases Entry.dir.inj (Option.some.inj hdir) with ⟨hlisted, rfl⟩
          exact .inr (.inl ⟨henters, hlisted, _, h, rfl⟩)
        · rintro (⟨hnames, -⟩ | ⟨henters, rfl, _, h, hnames⟩ | h)
          · cases hnames
          · rcases List.cons.inj hnames with ⟨-, rfl⟩
            exact ⟨below, rfl, henters, h⟩
          · exact absurd h hnot
    · have hfind : (dir name locked below rest).find? head = rest.find? head := if_neg hhead
      rw [shows_congr hfind]
      simp [hhead, Ne.symm hhead]

/-- What is listed as seen is what is seen. -/
theorem mem_visible_iff {l : Listing} (hl : l.WellFormed) :
    (names, o) ∈ l.visible rules root ↔ Shows rules root l names o := by
  induction l generalizing root names o with
  | nil =>
    constructor
    · intro h
      cases h
    · intro h
      rcases h.exists_cons with ⟨_, _, -, hmem⟩
      cases hmem
  | leaf name lf rest ih =>
    rcases hl with ⟨-, hrest, hwf⟩
    rw [shows_leaf_iff hrest, visible, List.mem_append, ih hwf]
  | dir name locked below rest ihbelow ih =>
    rcases hl with ⟨-, hrest, hbelow, hwf⟩
    rw [shows_dir_iff hrest, visible, List.mem_cons, List.mem_append, ih hwf, Prod.mk.injEq]
    simp only [← ihbelow hbelow]
    refine or_congr_right (or_congr_left ?_)
    cases henters : rules.enters name <;> cases locked <;> simp

/-- The names of what is seen behind an entry come after those that begin with its name. -/
theorem lt_of_mem_visible {name : Name} {more : List Name} {rest : Listing} (hwf : rest.WellFormed)
    (hrest : ∀ n ∈ rest.names, name < n) {v : List Name × Outline} (h : v ∈ rest.visible rules root) :
    name :: more < v.1 := by
  rcases v with ⟨names, o⟩
  rcases ((mem_visible_iff hwf).1 h).exists_cons with ⟨head, tail, rfl, hmem⟩
  exact List.cons_lt_cons_iff.2 (.inl (hrest head hmem))

/-- What is seen is listed in the order of the lists of names. -/
theorem pairwise_visible {l : Listing} (hl : l.WellFormed) :
    (l.visible rules root).Pairwise fun v w => v.1 < w.1 := by
  induction l generalizing root with
  | nil => exact .nil
  | leaf name lf rest ih =>
    rcases hl with ⟨-, hrest, hwf⟩
    rw [visible, List.pairwise_append]
    refine ⟨?_, ih hwf, ?_⟩
    · unfold visibleLeaf
      split
      · exact .nil
      · exact List.pairwise_singleton _ _
    · rintro ⟨names, o⟩ hv w hw
      obtain rfl : names = [name] := (mem_visibleLeaf_iff.1 hv).1
      exact lt_of_mem_visible hwf hrest hw
  | dir name locked below rest ihbelow ih =>
    rcases hl with ⟨-, hrest, hbelow, hwf⟩
    rw [visible, List.pairwise_cons, List.pairwise_append]
    refine ⟨?_, ?_, ih hwf, ?_⟩
    · -- the directory comes before what is below it, whose names go on
      intro w hw
      rcases List.mem_append.1 hw with hw | hw
      · split at hw
        · rcases List.mem_map.1 hw with ⟨⟨names, o⟩, hv, rfl⟩
          rcases ((mem_visible_iff hbelow).1 hv).exists_cons with ⟨head, tail, rfl, -⟩
          exact List.cons_lt_cons_iff.2 (.inr ⟨rfl, List.nil_lt_cons head tail⟩)
        · cases hw
      · exact lt_of_mem_visible hwf hrest hw
    · split
      · rw [List.pairwise_map]
        exact (ihbelow hbelow).imp fun hlt => List.cons_lt_cons_iff.2 (.inr ⟨rfl, hlt⟩)
      · exact .nil
    · intro v hv w hw
      split at hv
      · rcases List.mem_map.1 hv with ⟨v, -, rfl⟩
        exact lt_of_mem_visible hwf hrest hw
      · cases hv

/-- Directories that show the same list the same. -/
theorem visible_eq_of_shows_iff {l l' : Listing} (hl : l.WellFormed) (hl' : l'.WellFormed)
    (h : ∀ names o, Shows rules root l names o ↔ Shows rules root l' names o) :
    l.visible rules root = l'.visible rules root := by
  have horder : (l.visible rules root).Pairwise fun v w => v.1 < w.1 := pairwise_visible hl
  have horder' : (l'.visible rules root).Pairwise fun v w => v.1 < w.1 := pairwise_visible hl'
  have hirrefl : ∀ v w : List Name × Outline, v.1 < w.1 → v ≠ w := by
    rintro v _ hlt rfl
    exact List.lt_irrefl v.1 hlt
  have hmem : ∀ v, v ∈ l.visible rules root ↔ v ∈ l'.visible rules root := by
    rintro ⟨names, o⟩
    rw [mem_visible_iff hl, mem_visible_iff hl', h names o]
  have hperm : (l.visible rules root).Perm (l'.visible rules root) :=
    (List.perm_ext_iff_of_nodup (horder.imp (hirrefl _ _)) (horder'.imp (hirrefl _ _))).2 hmem
  refine hperm.eq_of_pairwise ?_ horder horder'
  -- two that each come before the other there cannot be
  intro v w _ _ hlt hgt
  exact absurd (List.lt_trans hlt hgt) (List.lt_irrefl v.1)

end Listing

end LineCensus
