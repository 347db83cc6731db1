import Mathlib.Logic.Relation
import LineCensus.Proofs.FileTree.Resolve

/-!
# LineCensus.Proofs.FileTree.Way — the way to a path, step by step

Resolution is said here as a way from directory to directory: at each point one piece is taken, and what the
directory says of it decides where the way goes on or how it ends.

1. `Waypoint`, `Step`: how far the way has got, and what one piece does. `Step.decreases`: no way goes on forever, as
   each link takes one from those that may be followed.
2. `Arrives`, `Fails`: how a way ends. `progress`: at every point it ends or goes on.
3. `follow_step`, `follow_of_reaches`: a step keeps what the way comes to, and so does a whole way. Hence
   `follow_eq_iff`: following pieces comes to what their way ends with.
4. `resolve_eq_ok_iff_arrives`, `resolve_eq_error_iff`: a path is resolved to where its way arrives, and fails as its
   way fails.
5. `Loops`: a link that leads back to itself. `follow_of_loops`: the way through such a link runs out of links.
-/

namespace LineCensus

/-- How far the way to a path has got: the links that may still be followed, the directory, and the pieces still to
take. -/
structure Waypoint where
  links : Nat
  trail : Trail
  pieces : List Name

namespace FileSystem

variable {fs : FileSystem}

/-! ## Steps -/

/-- A piece is looked up in a directory: the directory is not locked, and the piece is a name that is not too long. -/
structure LooksUp (fs : FileSystem) (trail : Trail) (piece : Name) (found : Option Entry) : Prop where
  unlocked : isLocked trail = false
  named : piece ≠ [] ∧ piece ≠ Path.dot ∧ piece ≠ Path.dotDot
  fits : piece.length ≤ nameLimit
  find : (fs.listingOf trail).find? piece = found

/-- One piece is taken. -/
inductive Step (fs : FileSystem) : Waypoint → Waypoint → Prop
  /-- An empty piece asks for no more than a directory. -/
  | idle {links : Nat} {trail : Trail} {rest : List Name} : Step fs ⟨links, trail, [] :: rest⟩ ⟨links, trail, rest⟩
  | stay {links : Nat} {trail : Trail} {rest : List Name} (hunlocked : isLocked trail = false) :
      Step fs ⟨links, trail, Path.dot :: rest⟩ ⟨links, trail, rest⟩
  | up {links : Nat} {trail : Trail} {rest : List Name} (hunlocked : isLocked trail = false) :
      Step fs ⟨links, trail, Path.dotDot :: rest⟩ ⟨links, trail.tail, rest⟩
  | enter {links : Nat} {trail : Trail} {rest : List Name} {piece : Name} {locked : Bool} {below : Listing}
      (hfound : fs.LooksUp trail piece (some (.dir locked below))) :
      Step fs ⟨links, trail, piece :: rest⟩ ⟨links, ⟨piece, locked, below⟩ :: trail, rest⟩
  /-- The target of a link takes the place of its name. -/
  | link {links : Nat} {trail : Trail} {rest : List Name} {piece : Name} {target : Bytes}
      (hfound : fs.LooksUp trail piece (some (.leaf (.link target)))) (hne : target ≠ []) :
      Step fs ⟨links + 1, trail, piece :: rest⟩ ⟨links, startOf trail target, Path.split target ++ rest⟩

/-- A way leads from one point to another. -/
def Reaches (fs : FileSystem) : Waypoint → Waypoint → Prop := Relation.ReflTransGen fs.Step

/-- A step follows a link or leaves fewer pieces. -/
theorem Step.decreases {w next : Waypoint} (h : fs.Step w next) :
    Prod.Lex (· < ·) (· < ·) (next.links, next.pieces.length) (w.links, w.pieces.length) := by
  cases h with
  | idle => exact .right _ (Nat.lt_succ_self _)
  | stay => exact .right _ (Nat.lt_succ_self _)
  | up => exact .right _ (Nat.lt_succ_self _)
  | enter => exact .right _ (Nat.lt_succ_self _)
  | link => exact .left _ _ (Nat.lt_succ_self _)

/-! ## Ends -/

/-- A way arrives: no piece is left, or the last one is the name of what is no directory and no link. -/
inductive Arrives (fs : FileSystem) : Waypoint → Place → Prop
  | dir {links : Nat} {trail : Trail} : Arrives fs ⟨links, trail, []⟩ (.dir trail)
  | leaf {links : Nat} {trail : Trail} {piece : Name} {l : Leaf} (hfound : fs.LooksUp trail piece (some (.leaf l)))
      (hlink : ∀ target, l ≠ .link target) : Arrives fs ⟨links, trail, [piece]⟩ (.leaf l)

/-- A way fails. -/
inductive Fails (fs : FileSystem) : Waypoint → ResolveFault → Prop
  /-- There is no entry of a name. -/
  | absent {links : Nat} {trail : Trail} {piece : Name} {rest : List Name} (hfound : fs.LooksUp trail piece none) :
      Fails fs ⟨links, trail, piece :: rest⟩ .missing
  /-- A link leads nowhere. -/
  | emptyLink {links : Nat} {trail : Trail} {piece : Name} {rest : List Name}
      (hfound : fs.LooksUp trail piece (some (.leaf (.link [])))) :
      Fails fs ⟨links + 1, trail, piece :: rest⟩ .missing
  /-- The way goes on behind what is no directory and no link. -/
  | throughFile {links : Nat} {trail : Trail} {piece : Name} {rest : List Name} {l : Leaf}
      (hfound : fs.LooksUp trail piece (some (.leaf l))) (hlink : ∀ target, l ≠ .link target) (hrest : rest ≠ []) :
      Fails fs ⟨links, trail, piece :: rest⟩ .notDirectory
  /-- The way goes on in a directory that is locked. -/
  | throughLock {links : Nat} {trail : Trail} {piece : Name} {rest : List Name} (hlocked : isLocked trail = true)
      (hpiece : piece ≠ []) : Fails fs ⟨links, trail, piece :: rest⟩ .denied
  | overLong {links : Nat} {trail : Trail} {piece : Name} {rest : List Name} (hunlocked : isLocked trail = false)
      (hlong : nameLimit < piece.length) : Fails fs ⟨links, trail, piece :: rest⟩ .nameTooLong
  /-- A link is met and no more may be followed. -/
  | outOfLinks {trail : Trail} {piece : Name} {rest : List Name} {target : Bytes}
      (hfound : fs.LooksUp trail piece (some (.leaf (.link target)))) :
      Fails fs ⟨0, trail, piece :: rest⟩ .tooManyLinks

/-- How a way ends at a point: it arrives, or it fails. -/
def Ends (fs : FileSystem) (w : Waypoint) : Except ResolveFault Place → Prop
  | .ok place => fs.Arrives w place
  | .error cause => fs.Fails w cause

/-- At every point a way ends or goes on. -/
theorem progress (fs : FileSystem) (w : Waypoint) : (∃ result, fs.Ends w result) ∨ ∃ next, fs.Step w next := by
  rcases w with ⟨links, trail, pieces⟩
  cases pieces with
  | nil => exact .inl ⟨.ok _, Arrives.dir⟩
  | cons piece rest =>
    by_cases hempty : piece = []
    · subst hempty
      exact .inr ⟨_, .idle⟩
    cases hlocked : isLocked trail with
    | true => exact .inl ⟨.error _, Fails.throughLock hlocked hempty⟩
    | false =>
      by_cases hdot : piece = Path.dot
      · subst hdot
        exact .inr ⟨_, .stay hlocked⟩
      by_cases hdotDot : piece = Path.dotDot
      · subst hdotDot
        exact .inr ⟨_, .up hlocked⟩
      by_cases hlong : nameLimit < piece.length
      · exact .inl ⟨.error _, Fails.overLong hlocked hlong⟩
      -- a name: what the directory has under it decides
      have hfound : fs.LooksUp trail piece ((fs.listingOf trail).find? piece) :=
        ⟨hlocked, ⟨hempty, hdot, hdotDot⟩, Nat.le_of_not_lt hlong, rfl⟩
      cases hfind : (fs.listingOf trail).find? piece with
      | none =>
        rw [hfind] at hfound
        exact .inl ⟨.error _, Fails.absent hfound⟩
      | some entry =>
        rw [hfind] at hfound
        cases entry with
        | dir locked below => exact .inr ⟨_, .enter hfound⟩
        | leaf l =>
          by_cases hlink : ∃ target, l = .link target
          · rcases hlink with ⟨target, rfl⟩
            cases links with
            | zero => exact .inl ⟨.error _, Fails.outOfLinks hfound⟩
            | succ links =>
              by_cases htarget : target = []
              · subst htarget
                exact .inl ⟨.error _, Fails.emptyLink hfound⟩
              · exact .inr ⟨_, .link hfound htarget⟩
          · have hother : ∀ target, l ≠ .link target := fun target h => hlink ⟨target, h⟩
            cases rest with
            | nil => exact .inl ⟨.ok _, Arrives.leaf hfound hother⟩
            | cons next rest => exact .inl ⟨.error _, Fails.throughFile hfound hother (List.cons_ne_nil _ _)⟩

/-- Every way comes to an end. -/
theorem exists_ends (fs : FileSystem) (w : Waypoint) :
    ∃ last result, fs.Reaches w last ∧ fs.Ends last result := by
  rcases fs.progress w with ⟨result, hends⟩ | ⟨next, hstep⟩
  · exact ⟨w, result, .refl, hends⟩
  · rcases exists_ends fs next with ⟨last, result, hreaches, hends⟩
    exact ⟨last, result, .head hstep hreaches, hends⟩
termination_by (w.links, w.pieces.length)
decreasing_by exact hstep.decreases

/-! ## What a way comes to -/

/-- What following pieces comes to depends on how far they lead without a link. -/
theorem follow_congr {t t' : Trail} {pieces pieces' : List Name} (h : fs.descend t pieces = fs.descend t' pieces')
    (links : Nat) : fs.follow links t pieces = fs.follow links t' pieces' := by
  cases links with
  | zero => rw [follow, follow, h]
  | succ links => rw [follow, follow, h]

/-- A name that is looked up leads to the entry that is found. -/
theorem LooksUp.descend {trail : Trail} {piece : Name} {entry : Entry} (h : fs.LooksUp trail piece (some entry))
    (rest : List Name) : fs.descend trail (piece :: rest) = fs.enter trail piece rest entry := by
  rcases h with ⟨hunlocked, ⟨hempty, hdot, hdotDot⟩, hfits, hfind⟩
  exact descend_entry hempty hdot hdotDot hfits hunlocked hfind

/-- A step keeps what a way comes to. -/
theorem follow_step {w next : Waypoint} (h : fs.Step w next) :
    fs.follow w.links w.trail w.pieces = fs.follow next.links next.trail next.pieces := by
  cases h with
  | @idle links trail rest =>
    have hdescend : fs.descend trail ([] :: rest) = fs.descend trail rest := by rw [descend, if_pos List.isEmpty_nil]
    exact follow_congr hdescend links
  | @stay links trail rest hunlocked =>
    have hdescend : fs.descend trail (Path.dot :: rest) = fs.descend trail rest := by
      rw [descend, if_neg (by decide), if_neg (by simp [hunlocked]), if_pos rfl]
    exact follow_congr hdescend links
  | @up links trail rest hunlocked =>
    have hdescend : fs.descend trail (Path.dotDot :: rest) = fs.descend trail.tail rest := by
      rw [descend, if_neg (by decide), if_neg (by simp [hunlocked]), if_neg (by decide), if_pos rfl]
    exact follow_congr hdescend links
  | @enter links trail rest piece locked below hfound => exact follow_congr (hfound.descend rest) links
  | @link links trail rest piece target hfound hne =>
    show fs.follow (links + 1) trail (piece :: rest) = _
    rw [follow, hfound.descend]
    simp [FileSystem.enter, hne]

/-- A way keeps what it comes to. -/
theorem follow_of_reaches {w last : Waypoint} (h : fs.Reaches w last) :
    fs.follow w.links w.trail w.pieces = fs.follow last.links last.trail last.pieces := by
  induction h with
  | refl => rfl
  | tail _ hstep ih => exact ih.trans (follow_step hstep)

/-- Following pieces fails where going down fails. -/
theorem follow_of_fault {trail : Trail} {pieces : List Name} {cause : ResolveFault}
    (h : fs.descend trail pieces = .fault cause) (links : Nat) : fs.follow links trail pieces = .error cause := by
  cases links with
  | zero => rw [follow, h]
  | succ links => rw [follow, h]

theorem follow_of_arrives {w : Waypoint} {place : Place} (h : fs.Arrives w place) :
    fs.follow w.links w.trail w.pieces = .ok place := by
  cases h with
  | dir => exact follow_eq_ok_iff.2 (.done rfl)
  | @leaf links trail piece l hfound hlink =>
    have hdescend : fs.descend trail [piece] = .done (.leaf l) := by
      rw [hfound.descend]
      cases l with
      | link target => exact absurd rfl (hlink target)
      | file content locked => rfl
      | fifo => rfl
    exact follow_eq_ok_iff.2 (.done hdescend)

theorem follow_of_fails {w : Waypoint} {cause : ResolveFault} (h : fs.Fails w cause) :
    fs.follow w.links w.trail w.pieces = .error cause := by
  cases h with
  | @absent links trail piece rest hfound =>
    rcases hfound with ⟨hunlocked, ⟨hempty, hdot, hdotDot⟩, hfits, hfind⟩
    have hlimit : ¬nameLimit < piece.length := by omega
    have hdescend : fs.descend trail (piece :: rest) = .fault .missing := by
      rw [descend, if_neg (by simpa using hempty), if_neg (by simp [hunlocked]), if_neg hdot, if_neg hdotDot,
        if_neg hlimit, hfind]
    exact follow_of_fault hdescend links
  | @emptyLink links trail piece rest hfound =>
    show fs.follow (links + 1) trail (piece :: rest) = _
    rw [follow, hfound.descend]
    rfl
  | @throughFile links trail piece rest l hfound hlink hrest =>
    have hdescend : fs.descend trail (piece :: rest) = .fault .notDirectory := by
      rw [hfound.descend]
      cases l with
      | link target => exact absurd rfl (hlink target)
      | file content locked => exact if_neg (by simpa using hrest)
      | fifo => exact if_neg (by simpa using hrest)
    exact follow_of_fault hdescend links
  | @throughLock links trail piece rest hlocked hpiece =>
    have hdescend : fs.descend trail (piece :: rest) = .fault .denied := by
      rw [descend, if_neg (by simpa using hpiece), if_pos hlocked]
    exact follow_of_fault hdescend links
  | @overLong links trail piece rest hunlocked hlong =>
    -- neither dot nor two dots are that long
    have hname : ∀ short : Name, short.length ≤ nameLimit → piece ≠ short := by
      rintro short hshort rfl
      omega
    have hdescend : fs.descend trail (piece :: rest) = .fault .nameTooLong := by
      rw [descend, if_neg (by simpa using hname [] (by decide)), if_neg (by simp [hunlocked]),
        if_neg (hname Path.dot (by decide)), if_neg (hname Path.dotDot (by decide)), if_pos hlong]
    exact follow_of_fault hdescend links
  | @outOfLinks trail piece rest target hfound =>
    show fs.follow 0 trail (piece :: rest) = _
    rw [follow, hfound.descend]
    rfl

/-- Following pieces comes to what their way ends with. -/
theorem follow_eq_iff {w : Waypoint} {result : Except ResolveFault Place} :
    fs.follow w.links w.trail w.pieces = result ↔ ∃ last, fs.Reaches w last ∧ fs.Ends last result := by
  have hcome : ∀ last result', fs.Reaches w last → fs.Ends last result' →
      fs.follow w.links w.trail w.pieces = result' := by
    intro last result' hreaches hends
    rw [follow_of_reaches hreaches]
    cases result' with
    | ok place => exact follow_of_arrives hends
    | error cause => exact follow_of_fails hends
  constructor
  · intro h
    -- the way has one end, and that is what following comes to
    rcases fs.exists_ends w with ⟨last, result', hreaches, hends⟩
    have hsame : result' = result := (hcome last result' hreaches hends).symm.trans h
    exact ⟨last, hreaches, hsame ▸ hends⟩
  · rintro ⟨last, hreaches, hends⟩
    exact hcome last result hreaches hends

/-! ## The way to a path -/

/-- Where the way to a path begins. -/
def setOut (fs : FileSystem) (path : Bytes) : Waypoint :=
  ⟨linkLimit, startOf fs.workingTrail path, Path.split path⟩

/-- A path without a zero byte that is not empty is followed. -/
theorem resolve_eq_follow {path : Bytes} (hzero : 0 ∉ path) (hne : path ≠ []) :
    fs.resolve path = fs.follow (fs.setOut path).links (fs.setOut path).trail (fs.setOut path).pieces := by
  rw [resolve, if_neg (by simpa using hzero), if_neg (by simpa using hne)]
  rfl

/-- A path leads where its way arrives. -/
theorem resolve_eq_ok_iff_arrives {path : Bytes} {place : Place} :
    fs.resolve path = .ok place ↔
      0 ∉ path ∧ path ≠ [] ∧ ∃ last, fs.Reaches (fs.setOut path) last ∧ fs.Arrives last place := by
  have hfollow : fs.follow linkLimit (startOf fs.workingTrail path) (Path.split path) = .ok place ↔
      ∃ last, fs.Reaches (fs.setOut path) last ∧ fs.Arrives last place := follow_eq_iff (w := fs.setOut path)
  rw [resolve_eq_ok_iff, ← follow_eq_ok_iff, hfollow]

/-- A path leads nowhere if it holds a zero byte, if it is empty, or if its way fails. -/
theorem resolve_eq_error_iff {path : Bytes} {cause : ResolveFault} :
    fs.resolve path = .error cause ↔
      (0 ∈ path ∧ cause = .zeroByte) ∨ (path = [] ∧ cause = .missing) ∨
        (0 ∉ path ∧ path ≠ [] ∧ ∃ last, fs.Reaches (fs.setOut path) last ∧ fs.Fails last cause) := by
  by_cases hzero : 0 ∈ path
  · have hne : path ≠ [] := List.ne_nil_of_mem hzero
    have hresolve : fs.resolve path = .error .zeroByte := by rw [resolve, if_pos (by simpa using hzero)]
    rw [hresolve]
    simp [hzero, hne, eq_comm]
  · by_cases hne : path = []
    · subst hne
      have hresolve : fs.resolve [] = .error .missing := rfl
      rw [hresolve]
      simp [eq_comm]
    · rw [resolve_eq_follow hzero hne, follow_eq_iff]
      simp [hzero, hne, Ends]

/-! ## Links that lead back -/

/-- A link leads back to itself: once some links are followed, it is met again in the same directory. -/
def Loops (fs : FileSystem) (trail : Trail) (piece : Name) : Prop :=
  ∃ links rest, 0 < links ∧ fs.Reaches ⟨links, trail, [piece]⟩ ⟨0, trail, piece :: rest⟩

/-- A step may be taken with any pieces behind it. It follows no link, and takes none from those left, or follows one,
and fails if none is left. -/
theorem Step.elsewhere {w next : Waypoint} (h : fs.Step w next) (more : List Name) :
    (w.links = next.links ∧
        ∀ links, fs.Step ⟨links, w.trail, w.pieces ++ more⟩ ⟨links, next.trail, next.pieces ++ more⟩) ∨
      (w.links = next.links + 1 ∧
        (∀ links, fs.Step ⟨links + 1, w.trail, w.pieces ++ more⟩ ⟨links, next.trail, next.pieces ++ more⟩) ∧
          fs.Fails ⟨0, w.trail, w.pieces ++ more⟩ .tooManyLinks) := by
  cases h with
  | idle => exact .inl ⟨rfl, fun _ => .idle⟩
  | stay hunlocked => exact .inl ⟨rfl, fun _ => .stay hunlocked⟩
  | up hunlocked => exact .inl ⟨rfl, fun _ => .up hunlocked⟩
  | enter hfound => exact .inl ⟨rfl, fun _ => .enter hfound⟩
  | link hfound hne =>
    refine .inr ⟨rfl, fun links => ?_, .outOfLinks hfound⟩
    rw [List.append_assoc]
    exact .link hfound hne

/-- A way may be gone with more links left and with more pieces behind it. -/
theorem Reaches.extend {w last : Waypoint} (h : fs.Reaches w last) (extra : Nat) (more : List Name) :
    fs.Reaches ⟨w.links + extra, w.trail, w.pieces ++ more⟩ ⟨last.links + extra, last.trail, last.pieces ++ more⟩ := by
  induction h with
  | refl => exact .refl
  | @tail w' next _ hstep ih =>
    refine ih.tail ?_
    rcases hstep.elsewhere more with ⟨hlinks, hsame⟩ | ⟨hlinks, hlink, -⟩
    · rw [hlinks]
      exact hsame _
    · rw [hlinks, Nat.add_right_comm]
      exact hlink _

/-- A way fails if fewer links are left than are followed on it. -/
theorem follow_of_short {w last : Waypoint} (h : fs.Reaches w last) (more : List Name) {links : Nat}
    (hshort : links + last.links < w.links) : fs.follow links w.trail (w.pieces ++ more) = .error .tooManyLinks := by
  induction h using Relation.ReflTransGen.head_induction_on generalizing links with
  | refl => omega
  | @head w' next hstep _ ih =>
    rcases hstep.elsewhere more with ⟨hlinks, hsame⟩ | ⟨hlinks, hlink, hfails⟩
    · have hrest : links + last.links < next.links := by omega
      exact (follow_step (hsame links)).trans (ih hrest)
    · cases links with
      | zero => exact follow_of_fails hfails
      | succ links =>
        have hrest : links + last.links < next.links := by omega
        exact (follow_step (hlink links)).trans (ih hrest)

/-- The way through a link that leads back to itself runs out of links, however many there are. -/
theorem follow_of_loops {trail : Trail} {piece : Name} (h : fs.Loops trail piece) (links : Nat) (rest : List Name) :
    fs.follow links trail (piece :: rest) = .error .tooManyLinks := by
  rcases h with ⟨round, more, hround, hreaches⟩
  -- round after round, each time with fewer links and with more pieces behind
  induction links using Nat.strongRecOn generalizing rest with
  | ind links ih =>
    by_cases hshort : links < round
    · exact follow_of_short hreaches rest hshort
    · have honce := hreaches.extend (links - round) rest
      have hlinks : round + (links - round) = links := by omega
      have hfollow := follow_of_reaches honce
      simp only [hlinks, List.cons_append, List.nil_append, Nat.zero_add] at hfollow
      rw [hfollow]
      exact ih (links - round) (by omega) (more ++ rest)

/-- A path through a link that leads back to itself has too many links. -/
theorem resolve_of_loops {path : Bytes} (hzero : 0 ∉ path) (hne : path ≠ []) {links : Nat} {trail : Trail}
    {piece : Name} {rest : List Name} (hreaches : fs.Reaches (fs.setOut path) ⟨links, trail, piece :: rest⟩)
    (hloops : fs.Loops trail piece) : fs.resolve path = .error .tooManyLinks := by
  rw [resolve_eq_follow hzero hne, follow_of_reaches hreaches]
  exact follow_of_loops hloops links rest

end FileSystem

end LineCensus
