import LineCensus.Proofs.FileTree.Standing
import LineCensus.Proofs.Path.Pieces

/-!
# LineCensus.Proofs.FileTree.Idle — empty pieces and single dots lead nowhere else

A single dot asks for a directory that may be passed through, and an empty piece asks for a directory. A root has to be
a directory that can be listed in any case, so for a root neither asks for more.

1. `listable`: what a path comes to for a root. A file, and a directory that cannot be listed, are faults.
2. `Descent.landing`: the same of a descent. `landing_descend_congr`: it is decided by the pieces that name something.
3. `listable_follow_congr`: so is what comes of following links.
4. `listable_resolve_absolute`: a path and its absolute form come to the same for a root, where the working directory
   stands.
-/

namespace LineCensus

namespace FileSystem

variable {fs : FileSystem}

/-! ## Directories that can be listed -/

/-- The directory at the end of a trail, if it can be listed. -/
def listTrail (trail : Trail) : Except ResolveFault Trail := if isLocked trail then .error .denied else .ok trail

/-- The directory at a place, if there is one that can be listed. -/
def listPlace : Place → Except ResolveFault Trail
  | .dir trail => listTrail trail
  | .leaf _ => .error .notDirectory

/-- The directory that following comes to, if it can be listed. -/
def listable (found : Except ResolveFault Place) : Except ResolveFault Trail := found >>= listPlace

/-- A root is open if its path comes to a directory that can be listed. -/
theorem openDirectory_eq_ok_iff_listable {path : Bytes} {listing : Listing} :
    fs.openDirectory path = .ok listing ↔
      ∃ trail, listable (fs.resolve path) = .ok trail ∧ fs.listingOf trail = listing := by
  rw [openDirectory_eq_ok_iff]
  constructor
  · rintro ⟨trail, hresolve, hlocked, hlisting⟩
    refine ⟨trail, ?_, hlisting⟩
    rw [hresolve]
    show listTrail trail = _
    rw [listTrail, hlocked]
    rfl
  · rintro ⟨trail, hlist, hlisting⟩
    cases hresolve : fs.resolve path with
    | error cause =>
      rw [hresolve] at hlist
      cases hlist
    | ok place =>
      rw [hresolve] at hlist
      cases place with
      | leaf l => cases hlist
      | dir t =>
        have hlist' : listTrail t = .ok trail := hlist
        unfold listTrail at hlist'
        split at hlist'
        · cases hlist'
        · rename_i hlocked
          obtain rfl := Except.ok.inj hlist'
          exact ⟨t, rfl, by simpa using hlocked, hlisting⟩

/-! ## Going down -/

/-- The pieces that name something. -/
def named (pieces : List Name) : List Name := pieces.filter (!Path.isIdle ·)

/-- What a descent comes to for a root: how it ends, or the link that it meets, with the pieces behind it that name
something. -/
inductive Landing where
  | ends (result : Except ResolveFault Trail)
  | link (target : Bytes) (trail : Trail) (rest : List Name)

/-- A descent as it matters for a root. -/
def Descent.landing : Descent → Landing
  | .done place => .ends (listPlace place)
  | .fault cause => .ends (.error cause)
  | .link target trail rest => .link target trail (named rest)

/-- A locked directory is no root, whatever pieces come behind it. -/
theorem landing_of_locked {trail : Trail} (h : isLocked trail = true) (pieces : List Name) :
    (fs.descend trail pieces).landing = .ends (.error .denied) := by
  induction pieces with
  | nil =>
    show Landing.ends (listTrail trail) = _
    rw [listTrail, if_pos h]
  | cons piece rest ih =>
    unfold descend
    by_cases hempty : piece.isEmpty = true
    · rw [if_pos hempty]
      exact ih
    · rw [if_neg hempty, if_pos h]
      rfl

/-- An idle piece makes no difference to a root. -/
theorem landing_cons_of_isIdle {piece : Name} (hidle : Path.isIdle piece = true) (trail : Trail)
    (rest : List Name) : (fs.descend trail (piece :: rest)).landing = (fs.descend trail rest).landing := by
  cases hlocked : isLocked trail with
  | true => rw [landing_of_locked hlocked, landing_of_locked hlocked]
  | false =>
    have hdescend : fs.descend trail (piece :: rest) = fs.descend trail rest := by
      by_cases hempty : piece.isEmpty = true
      · rw [descend, if_pos hempty]
      · have hdot : piece = Path.dot := by simpa [Path.isIdle, hempty] using hidle
        rw [descend, if_neg hempty, if_neg (by simp [hlocked]), if_pos hdot]
    rw [hdescend]

theorem named_cons_of_isIdle {piece : Name} (hidle : Path.isIdle piece = true) (rest : List Name) :
    named (piece :: rest) = named rest := List.filter_cons_of_neg (by simpa using hidle)

theorem named_cons_of_not_isIdle {piece : Name} (hidle : Path.isIdle piece = false) (rest : List Name) :
    named (piece :: rest) = piece :: named rest := List.filter_cons_of_pos (by simpa using hidle)

theorem named_named (pieces : List Name) : named (named pieces) = named pieces := by
  simp [named]

/-- For a root, a descent is decided by the pieces that name something. -/
theorem landing_descend_named (trail : Trail) (pieces : List Name) :
    (fs.descend trail (named pieces)).landing = (fs.descend trail pieces).landing := by
  induction pieces generalizing trail with
  | nil => rfl
  | cons piece rest ih =>
    cases hidle : Path.isIdle piece with
    | true => rw [named_cons_of_isIdle hidle, landing_cons_of_isIdle hidle, ih]
    | false =>
      -- the same cases on both sides; of the pieces behind, a file asks whether there are any
      rw [named_cons_of_not_isIdle hidle, descend, descend]
      split
      · exact ih trail
      · split
        · rfl
        · split
          · exact ih trail
          · split
            · exact ih trail.tail
            · split
              · rfl
              · split
                · rfl
                · exact ih _
                · show Landing.link _ _ _ = Landing.link _ _ _
                  rw [named_named]
                · split <;> split <;> rfl

/-- Pieces that name the same land at the same place. -/
theorem landing_descend_congr {pieces pieces' : List Name} (h : named pieces = named pieces') (trail : Trail) :
    (fs.descend trail pieces).landing = (fs.descend trail pieces').landing := by
  rw [← landing_descend_named, h, landing_descend_named]

/-! ## Following links -/

/-- What a landing comes to, with at most `links` links to follow. -/
def followLanding (fs : FileSystem) (links : Nat) : Landing → Except ResolveFault Trail
  | .ends result => result
  | .link target trail rest =>
    match links with
    | 0 => .error .tooManyLinks
    | links + 1 =>
      if target.isEmpty then .error .missing
      else listable (fs.follow links (startOf trail target) (Path.split target ++ rest))

theorem named_append (front rest : List Name) : named (front ++ rest) = named front ++ named rest :=
  List.filter_append _ _

/-- For a root, following pieces is decided by where they land. -/
theorem listable_follow (links : Nat) (trail : Trail) (pieces : List Name) :
    listable (fs.follow links trail pieces) = fs.followLanding links (fs.descend trail pieces).landing := by
  induction links generalizing trail pieces with
  | zero =>
    rw [follow]
    cases fs.descend trail pieces with
    | done place => rfl
    | fault cause => rfl
    | link target t rest => rfl
  | succ links ih =>
    rw [follow]
    cases fs.descend trail pieces with
    | done place => rfl
    | fault cause => rfl
    | link target t rest =>
      show listable (if target.isEmpty then _ else _) = if target.isEmpty then _ else _
      split
      · rfl
      · -- behind the target, too, the idle pieces make no difference
        have hnamed : named (Path.split target ++ rest) = named (Path.split target ++ named rest) := by
          rw [named_append, named_append, named_named]
        rw [ih, ih, landing_descend_congr hnamed]

/-- Pieces that name the same come to the same root. -/
theorem listable_follow_congr {pieces pieces' : List Name} (h : named pieces = named pieces') (links : Nat)
    (trail : Trail) : listable (fs.follow links trail pieces) = listable (fs.follow links trail pieces') := by
  rw [listable_follow, listable_follow, landing_descend_congr h]

/-! ## The working directory -/

theorem pieces_workingPath (h : fs.Stands) : Path.pieces fs.workingPath = fs.here := by
  have hjoin : Path.pieces (Path.joinAll [Path.slash] fs.here) = Path.pieces [Path.slash] ++ fs.here := by
    refine Path.pieces_joinAll (fun n hn => ?_) _
    rcases Path.isName_iff.1 (h.isName n hn) with ⟨-, -, -, hslash, -⟩
    exact ⟨hslash, Path.isIdle_of_isName (h.isName n hn)⟩
  exact hjoin

theorem isAbsolute_workingPath (fs : FileSystem) : Path.isAbsolute fs.workingPath = true :=
  Path.isAbsolute_of_prefix (Path.prefix_joinAll [Path.slash] fs.here) rfl

/-- Pieces lead from the working directory where they lead from the root behind its names. -/
theorem follow_here_append (h : fs.Stands) (links : Nat) (pieces : List Name) :
    fs.follow links [] (fs.here ++ pieces) = fs.follow links fs.workingTrail pieces := by
  refine follow_congr ?_ links
  rw [descend_append, h.descend_here]
  rfl

/-- The absolute form of a path holds a zero byte only if the path does. -/
theorem zero_mem_absolute_iff {path : Bytes} (h : Path.isAbsolute path = false → fs.Stands) :
    0 ∈ Path.absolute fs.workingPath path ↔ 0 ∈ path := by
  rw [Path.zero_mem_iff, @Path.zero_mem_iff path, Path.pieces_absolute]
  cases habsolute : Path.isAbsolute path with
  | true => rw [if_pos rfl, List.nil_append]
  | false =>
    have hstands := h habsolute
    rw [if_neg Bool.false_ne_true, pieces_workingPath hstands]
    constructor
    · rintro ⟨piece, hpiece, hzero⟩
      rcases List.mem_append.1 hpiece with hhere | hpiece
      · have hname := hstands.isName piece hhere
        exact absurd hzero (Path.isName_iff.1 hname).2.2.2.2.1
      · exact ⟨piece, hpiece, hzero⟩
    · rintro ⟨piece, hpiece, hzero⟩
      exact ⟨piece, List.mem_append_right _ hpiece, hzero⟩

/-- The way to the absolute form of a path comes to the root that the way to the path comes to. -/
theorem listable_follow_absolute {path : Bytes} (h : Path.isAbsolute path = false → fs.Stands) (links : Nat) :
    listable (fs.follow links [] (Path.split (Path.absolute fs.workingPath path))) =
      listable (fs.follow links (startOf fs.workingTrail path) (Path.split path)) := by
  have hpieces : named (Path.split (Path.absolute fs.workingPath path)) =
      (if Path.isAbsolute path then [] else Path.pieces fs.workingPath) ++ Path.pieces path :=
    Path.pieces_absolute fs.workingPath path
  have hown : named (Path.split path) = Path.pieces path := rfl
  cases habsolute : Path.isAbsolute path with
  | true =>
    rw [habsolute, if_pos rfl, List.nil_append] at hpieces
    have hstart : startOf fs.workingTrail path = [] := if_pos habsolute
    rw [hstart]
    exact listable_follow_congr hpieces links []
  | false =>
    have hstands := h habsolute
    rw [habsolute, if_neg Bool.false_ne_true, pieces_workingPath hstands] at hpieces
    have hstart : startOf fs.workingTrail path = fs.workingTrail := if_neg (by simp [habsolute])
    have hhere : named fs.here = fs.here :=
      List.filter_eq_self.2 fun n hn => by rw [Path.isIdle_of_isName (hstands.isName n hn)]; rfl
    -- the names of the working directory come first, and then the pieces of the path
    have hsame : named (Path.split (Path.absolute fs.workingPath path)) = named (fs.here ++ Path.split path) := by
      rw [hpieces, named_append, hhere, hown]
    rw [hstart, listable_follow_congr hsame, follow_here_append hstands]

/-- A path and its absolute form come to the same for a root. -/
theorem listable_resolve_absolute {path : Bytes} (hne : path ≠ [])
    (h : Path.isAbsolute path = false → fs.Stands) :
    listable (fs.resolve (Path.absolute fs.workingPath path)) = listable (fs.resolve path) := by
  have habsolute : Path.isAbsolute (Path.absolute fs.workingPath path) = true :=
    Path.isAbsolute_absolute (isAbsolute_workingPath fs) path
  by_cases hzero : 0 ∈ path
  · have hzero' : 0 ∈ Path.absolute fs.workingPath path := (zero_mem_absolute_iff h).2 hzero
    rw [resolve, if_pos (by simpa using hzero'), resolve, if_pos (by simpa using hzero)]
  · have hzero' : 0 ∉ Path.absolute fs.workingPath path := mt (zero_mem_absolute_iff h).1 hzero
    have hne' : Path.absolute fs.workingPath path ≠ [] := by
      intro hnil
      rw [hnil] at habsolute
      cases habsolute
    have hstart : startOf fs.workingTrail (Path.absolute fs.workingPath path) = [] := if_pos habsolute
    rw [resolve_eq_follow hzero hne, resolve_eq_follow hzero' hne']
    show listable (fs.follow linkLimit (startOf _ _) _) = listable (fs.follow linkLimit (startOf _ _) _)
    rw [hstart]
    exact listable_follow_absolute h linkLimit

/-- A path and its absolute form open the same directory, or neither opens one. -/
theorem openDirectory_absolute {path : Bytes} (hne : path ≠ []) (h : Path.isAbsolute path = false → fs.Stands)
    {listing : Listing} :
    fs.openDirectory (Path.absolute fs.workingPath path) = .ok listing ↔ fs.openDirectory path = .ok listing := by
  rw [openDirectory_eq_ok_iff_listable, openDirectory_eq_ok_iff_listable, listable_resolve_absolute hne h]

end FileSystem

end LineCensus
