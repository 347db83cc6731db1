import LineCensus.FileTree.Resolve
import LineCensus.Proofs.FileTree.Lookup
import LineCensus.Proofs.Path.Split

/-!
# LineCensus.Proofs.FileTree.Resolve — where paths lead in a well-formed tree

1. `Trail.WellFormed`: every directory on the way is well-formed.
2. `Leads`: where pieces lead, one link after the other. Following a path keeps trails well-formed, so that
   `wellFormed_openDirectory` holds of every root.
3. `descend_append`, `Leads.append`: more pieces behind a path. Hence `resolve_joinAll`: names behind a path
   lead on from where the path leads.
-/

namespace LineCensus

/-! ## Well-formed trails -/

/-- Every directory on a trail is well-formed. -/
def Trail.WellFormed (trail : Trail) : Prop := ∀ p ∈ trail, p.listing.WellFormed

theorem Trail.WellFormed.cons {p : Passed} {trail : Trail} (hp : p.listing.WellFormed)
    (ht : Trail.WellFormed trail) : Trail.WellFormed (p :: trail) := by
  intro q hq
  rcases List.mem_cons.1 hq with rfl | hq
  · exact hp
  · exact ht q hq

theorem Trail.WellFormed.tail {trail : Trail} (ht : Trail.WellFormed trail) :
    Trail.WellFormed trail.tail := fun p hp => ht p (List.mem_of_mem_tail hp)

namespace FileSystem

variable {fs : FileSystem}

theorem wellFormed_listingOf {trail : Trail} (ht : Trail.WellFormed trail) :
    (fs.listingOf trail).WellFormed := by
  cases trail with
  | nil => exact fs.wellFormed
  | cons p trail => exact ht p List.mem_cons_self

/-- Where a descent ends, at a directory or at a link, the trail is well-formed. -/
def Descent.WellFormed : Descent → Prop
  | .done (.dir trail) | .link _ trail _ => Trail.WellFormed trail
  | .done (.leaf _) | .fault _ => True

theorem wellFormed_descend {trail : Trail} (ht : Trail.WellFormed trail) (pieces : List Name) :
    (fs.descend trail pieces).WellFormed := by
  induction pieces generalizing trail with
  | nil => exact ht
  | cons piece rest ih =>
    unfold descend
    split
    · -- an empty piece
      exact ih ht
    · split
      · -- the directory is locked
        trivial
      · split
        · -- a dot
          exact ih ht
        · split
          · -- two dots: the trail loses its last directory
            exact ih ht.tail
          · split
            · -- too long for a name
              trivial
            · -- a name: nothing is there, or a directory, a link, or something else
              split
              · trivial
              · rename_i hfind
                have hbelow := (wellFormed_listingOf ht).of_find?_dir hfind
                exact ih (.cons hbelow ht)
              · exact ht
              · split <;> trivial

theorem wellFormed_startOf {trail : Trail} (ht : Trail.WellFormed trail) (path : Bytes) :
    Trail.WellFormed (startOf trail path) := by
  unfold startOf
  split
  · simp [Trail.WellFormed]
  · exact ht

/-- Pieces lead to a place, over at most `links` links. -/
inductive Leads (fs : FileSystem) : (links : Nat) → Trail → List Name → Place → Prop
  /-- There is no link on the way. -/
  | done {links : Nat} {trail : Trail} {pieces : List Name} {place : Place}
      (hdone : fs.descend trail pieces = .done place) : Leads fs links trail pieces place
  /-- The way goes on from the target of the first link. -/
  | link {links : Nat} {trail t : Trail} {pieces rest : List Name} {target : Bytes} {place : Place}
      (hlink : fs.descend trail pieces = .link target t rest) (hne : target ≠ [])
      (hleads : Leads fs links (startOf t target) (Path.split target ++ rest) place) :
      Leads fs (links + 1) trail pieces place

theorem follow_eq_ok_iff {links : Nat} {trail : Trail} {pieces : List Name} {place : Place} :
    fs.follow links trail pieces = .ok place ↔ fs.Leads links trail pieces place := by
  induction links generalizing trail pieces with
  | zero =>
    rw [follow]
    constructor
    · intro h
      split at h
      · rename_i hdone
        obtain rfl := Except.ok.inj h
        exact .done hdone
      · cases h
      · cases h
    · rintro ⟨hdone⟩
      rw [hdone]
  | succ links ih =>
    rw [follow]
    constructor
    · intro h
      split at h
      · rename_i hdone
        obtain rfl := Except.ok.inj h
        exact .done hdone
      · cases h
      · rename_i target t rest hlink
        dsimp only at h
        split at h
        · cases h
        · rename_i hempty
          exact .link hlink (by simpa using hempty) (ih.1 h)
    · intro h
      cases h with
      | done hdone => rw [hdone]
      | link hlink hne hleads =>
        rw [hlink]
        simpa [hne] using ih.2 hleads

theorem Leads.wellFormed {links : Nat} {trail t : Trail} {pieces : List Name} {place : Place}
    (h : fs.Leads links trail pieces place) (ht : Trail.WellFormed trail) (hplace : place = .dir t) :
    Trail.WellFormed t := by
  induction h with
  | @done links trail pieces place hdone =>
    have hdescend : (fs.descend trail pieces).WellFormed := wellFormed_descend ht pieces
    rw [hdone, hplace] at hdescend
    exact hdescend
  | @link links trail t' pieces rest target place hlink hne hleads ih =>
    have hdescend : (fs.descend trail pieces).WellFormed := wellFormed_descend ht pieces
    rw [hlink] at hdescend
    exact ih (wellFormed_startOf hdescend target) hplace

theorem wellFormed_trailThrough {trail : Trail} (ht : Trail.WellFormed trail) (names : List Name) :
    Trail.WellFormed (fs.trailThrough trail names) := by
  induction names generalizing trail with
  | nil => exact ht
  | cons name rest ih =>
    unfold trailThrough
    split
    · rename_i hfind
      have hbelow := (wellFormed_listingOf ht).of_find?_dir hfind
      exact ih (.cons hbelow ht)
    · exact ht

/-- The directory that a path leads to, as the root of a census. -/
theorem openDirectory_eq_ok_iff {path : Bytes} {listing : Listing} :
    fs.openDirectory path = .ok listing ↔
      ∃ trail, fs.resolve path = .ok (.dir trail) ∧ isLocked trail = false ∧
        fs.listingOf trail = listing := by
  unfold openDirectory
  split
  · rename_i h
    simp [h]
  · rename_i h
    simp [h]
  · rename_i h
    simp [h]
  · rename_i trail h
    by_cases hlocked : isLocked trail = true <;> simp [h, hlocked]

theorem resolve_eq_ok_iff {path : Bytes} {place : Place} :
    fs.resolve path = .ok place ↔
      0 ∉ path ∧ path ≠ [] ∧
        fs.Leads linkLimit (startOf fs.workingTrail path) (Path.split path) place := by
  rw [← follow_eq_ok_iff]
  unfold resolve
  by_cases hzero : 0 ∈ path
  · simp [hzero]
  · by_cases hempty : path = [] <;> simp [hzero, hempty]

theorem wellFormed_resolve {path : Bytes} {t : Trail} (h : fs.resolve path = .ok (.dir t)) :
    Trail.WellFormed t := by
  rcases resolve_eq_ok_iff.1 h with ⟨-, -, hleads⟩
  have hworking : Trail.WellFormed fs.workingTrail :=
    wellFormed_trailThrough (by simp [Trail.WellFormed]) _
  exact hleads.wellFormed (wellFormed_startOf hworking path) rfl

/-- The root of a census is well-formed. -/
theorem wellFormed_openDirectory {path : Bytes} {listing : Listing}
    (h : fs.openDirectory path = .ok listing) : listing.WellFormed := by
  rcases openDirectory_eq_ok_iff.1 h with ⟨trail, hresolve, -, rfl⟩
  exact wellFormed_listingOf (wellFormed_resolve hresolve)

/-! ## More pieces behind a path -/

/-- What the entry of a name makes of a descent, with pieces behind it. -/
def enter (fs : FileSystem) (trail : Trail) (name : Name) (rest : List Name) : Entry → Descent
  | .dir locked below => fs.descend (⟨name, locked, below⟩ :: trail) rest
  | .leaf (.link target) => .link target trail rest
  | .leaf l => if rest.isEmpty then .done (.leaf l) else .fault .notDirectory

/-- A piece that is looked up in a directory leads to the entry of that name. -/
theorem descend_entry {trail : Trail} {piece : Name} {rest : List Name} {entry : Entry} (hempty : piece ≠ [])
    (hdot : piece ≠ Path.dot) (hdotDot : piece ≠ Path.dotDot) (hfits : piece.length ≤ nameLimit)
    (hlocked : isLocked trail = false) (hfind : (fs.listingOf trail).find? piece = some entry) :
    fs.descend trail (piece :: rest) = fs.enter trail piece rest entry := by
  have hsome : ¬piece.isEmpty = true := by simpa using hempty
  have hlimit : ¬nameLimit < piece.length := by omega
  rw [descend, if_neg hsome, if_neg (by simp [hlocked]), if_neg hdot, if_neg hdotDot, if_neg hlimit, hfind]
  cases entry with
  | dir locked below => rfl
  | leaf l => cases l <;> rfl

/-- A name leads to the entry of that name, in a directory that is not locked. -/
theorem descend_name {trail : Trail} {name : Name} {rest : List Name} {entry : Entry}
    (hname : Path.isName name = true) (hlocked : isLocked trail = false)
    (hfind : (fs.listingOf trail).find? name = some entry) :
    fs.descend trail (name :: rest) = fs.enter trail name rest entry := by
  rcases Path.isName_iff.1 hname with ⟨hne, hdot, hdotDot, -, -, hlength⟩
  exact descend_entry hne hdot hdotDot hlength hlocked hfind

/-- What more pieces make of a descent. -/
def resume (fs : FileSystem) (more : List Name) : Descent → Descent
  | .done (.dir trail) => fs.descend trail more
  | .done (.leaf l) => if more.isEmpty then .done (.leaf l) else .fault .notDirectory
  | .fault cause => .fault cause
  | .link target trail rest => .link target trail (rest ++ more)

/-- Pieces are followed one list after the other. -/
theorem descend_append (trail : Trail) (pieces more : List Name) :
    fs.descend trail (pieces ++ more) = fs.resume more (fs.descend trail pieces) := by
  induction pieces generalizing trail with
  | nil => rfl
  | cons piece rest ih =>
    -- the same cases on both sides: an empty piece, a lock, a dot, two dots, too long a name, a name
    rw [List.cons_append, descend, descend]
    split
    · exact ih trail
    · split
      · rfl
      · split
        · exact ih trail
        · split
          · exact ih trail.tail
          · split
            · rfl
            · split
              · rfl
              · exact ih _
              · rfl
              · -- behind what is no directory nothing may come
                cases rest with
                | nil => rfl
                | cons next rest => rfl

/-- Behind a directory, a path goes on wherever the pieces behind it lead from there. -/
theorem Leads.append {links : Nat} {trail t : Trail} {pieces more : List Name} {start place : Place}
    (h : fs.Leads links trail pieces start) (hstart : start = .dir t)
    (hmore : fs.descend t more = .done place) : fs.Leads links trail (pieces ++ more) place := by
  induction h with
  | @done links trail pieces start hdone =>
    refine .done ?_
    rw [descend_append, hdone, hstart]
    exact hmore
  | @link links trail t' pieces rest target start hlink hne hleads ih =>
    have hall : fs.descend trail (pieces ++ more) = .link target t' (rest ++ more) := by
      rw [descend_append, hlink]
      rfl
    have hon : fs.Leads links (startOf t' target) (Path.split target ++ (rest ++ more)) place := by
      rw [← List.append_assoc]
      exact ih hstart
    exact .link hall hne hon

/-- The empty piece behind a slash at the end of a path asks for a directory and leads no further. -/
theorem Leads.of_append_empty {links : Nat} {trail : Trail} {pieces : List Name} {place : Place}
    (h : fs.Leads links trail (pieces ++ [[]]) place) : fs.Leads links trail pieces place := by
  -- what is followed ends in the empty piece all the way, also behind a link
  generalize hall : pieces ++ [[]] = all at h
  induction h generalizing pieces with
  | @done links trail all place hdone =>
    rw [← hall, descend_append] at hdone
    cases hdescend : fs.descend trail pieces with
    | done start =>
      rw [hdescend] at hdone
      cases start with
      | dir t => exact .done (hdescend.trans hdone)
      | leaf l =>
        -- a slash behind a file is a fault
        cases hdone
    | fault cause => simp [hdescend, resume] at hdone
    | link target t rest => simp [hdescend, resume] at hdone
  | @link links trail t all rest target place hlink hne hleads ih =>
    rw [← hall, descend_append] at hlink
    cases hdescend : fs.descend trail pieces with
    | done start =>
      rw [hdescend] at hlink
      cases start with
      | dir t' => cases hlink
      | leaf l => cases hlink
    | fault cause => simp [hdescend, resume] at hlink
    | link target' t' rest' =>
      rw [hdescend] at hlink
      rcases Descent.link.inj hlink with ⟨rfl, rfl, rfl⟩
      exact .link hdescend hne (ih (List.append_assoc _ _ _))

/-- A path with names behind it leads where the names lead from the directory at the end of the path. -/
theorem resolve_joinAll {path : Bytes} {t : Trail} {names : List Name} {place : Place}
    (h : fs.resolve path = .ok (.dir t)) (hnames : ∀ n ∈ names, Path.isName n = true) (hne : names ≠ [])
    (hdescend : fs.descend t names = .done place) :
    fs.resolve (Path.joinAll path names) = .ok place := by
  rcases resolve_eq_ok_iff.1 h with ⟨hzero, hpath, hleads⟩
  have hstem : fs.Leads linkLimit (startOf fs.workingTrail path) (Path.stem path) (.dir t) := by
    rcases Path.split_eq_stem path with hsplit | hsplit
    · rw [← hsplit]
      exact hleads
    · rw [hsplit] at hleads
      exact hleads.of_append_empty
  have hstart : startOf fs.workingTrail (Path.joinAll path names) = startOf fs.workingTrail path := by
    rw [startOf, startOf, Path.isAbsolute_joinAll hpath]
  refine resolve_eq_ok_iff.2 ⟨Path.zero_not_mem_joinAll hzero hnames, ?_, ?_⟩
  · intro hnil
    have hprefix := Path.prefix_joinAll path names
    rw [hnil] at hprefix
    exact hpath (List.prefix_nil.1 hprefix)
  · rw [hstart, Path.split_joinAll hnames hne]
    exact hstem.append rfl hdescend

end FileSystem

end LineCensus
