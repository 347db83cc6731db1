import LineCensus.Count
import LineCensus.Proofs.FileTree.Way

/-!
# LineCensus.Proofs.Scan.Root — the roots that fail

A scan and a census fail at their root or not at all, and what is wrong with a root is said by its path alone.

1. `RootFault`: what may be wrong with a root, with the failure that comes of it. `openDirectory_eq_error_iff`: nothing
   else may be.
2. `scan_eq_error_iff`, `count_eq_error_iff`, `exists_scan_iff`, `exists_count_iff`: a scan and a census succeed
   wherever the root is open, whatever lies below.
3. `scan_and_count_fail_alike`: all of it, down to the way to the root.
-/

namespace LineCensus

namespace FileSystem

variable {fs : FileSystem} {f : Filter} {rules : Rules} {registry : Registry} {root : Bytes} {failure : Failure}

/-! ## What may be wrong with a root -/

/-- What is wrong with a root, with the failure that comes of it. -/
inductive RootFault (fs : FileSystem) (root : Bytes) : Failure → Prop
  | missing (h : fs.resolve root = .error .missing) : RootFault fs root (.rootMissing root)
  | notDirectory {leaf : Leaf} (h : fs.resolve root = .ok (.leaf leaf)) : RootFault fs root (.rootNotDirectory root)
  /-- The path fails, and not because something does not exist. -/
  | unreachable {cause : ResolveFault} (hcause : cause ≠ .missing) (h : fs.resolve root = .error cause) :
      RootFault fs root (.rootUnreadable root cause.message)
  /-- The path leads to a directory that cannot be listed. -/
  | locked {trail : Trail} (h : fs.resolve root = .ok (.dir trail)) (hlocked : isLocked trail = true) :
      RootFault fs root (.rootUnreadable root ResolveFault.denied.message)

/-- A root fails just as something is wrong with it. -/
theorem openDirectory_eq_error_iff : fs.openDirectory root = .error failure ↔ fs.RootFault root failure := by
  constructor
  · intro h
    unfold openDirectory at h
    split at h
    · rename_i hresolve
      obtain rfl := Except.error.inj h
      exact .missing hresolve
    · rename_i cause hmissing hresolve
      obtain rfl := Except.error.inj h
      exact .unreachable hmissing hresolve
    · rename_i leaf hresolve
      obtain rfl := Except.error.inj h
      exact .notDirectory hresolve
    · rename_i trail hresolve
      split at h
      · rename_i hlocked
        obtain rfl := Except.error.inj h
        exact .locked hresolve hlocked
      · cases h
  · intro h
    cases h with
    | missing h => rw [openDirectory, h]
    | notDirectory h => rw [openDirectory, h]
    | @unreachable cause hcause h =>
      rw [openDirectory, h]
      cases cause with
      | missing => exact absurd rfl hcause
      | notDirectory => rfl
      | denied => rfl
      | nameTooLong => rfl
      | tooManyLinks => rfl
      | zeroByte => rfl
      | notFile => rfl
    | locked h hlocked =>
      rw [openDirectory, h]
      exact if_pos hlocked

theorem rootFault_missing_iff : fs.RootFault root (.rootMissing root) ↔ fs.resolve root = .error .missing := by
  constructor
  · intro h
    cases h with
    | missing h => exact h
  · exact .missing

theorem rootFault_notDirectory_iff :
    fs.RootFault root (.rootNotDirectory root) ↔ ∃ leaf, fs.resolve root = .ok (.leaf leaf) := by
  constructor
  · intro h
    cases h with
    | notDirectory h => exact ⟨_, h⟩
  · rintro ⟨leaf, h⟩
    exact .notDirectory h

theorem rootFault_unreadable_iff {reason : String} :
    fs.RootFault root (.rootUnreadable root reason) ↔
      (∃ cause, cause ≠ .missing ∧ fs.resolve root = .error cause ∧ reason = cause.message) ∨
        ∃ trail, fs.resolve root = .ok (.dir trail) ∧ isLocked trail = true ∧
          reason = ResolveFault.denied.message := by
  constructor
  · intro h
    cases h with
    | unreachable hcause h => exact .inl ⟨_, hcause, h, rfl⟩
    | locked h hlocked => exact .inr ⟨_, h, hlocked, rfl⟩
  · rintro (⟨cause, hcause, h, rfl⟩ | ⟨trail, h, hlocked, rfl⟩)
    · exact .unreachable hcause h
    · exact .locked h hlocked

/-- Whatever is wrong, the failure is one of three, and names the root. -/
theorem RootFault.failure_eq (h : fs.RootFault root failure) :
    failure = .rootMissing root ∨ failure = .rootNotDirectory root ∨
      ∃ reason, failure = .rootUnreadable root reason := by
  cases h with
  | missing => exact .inl rfl
  | notDirectory => exact .inr (.inl rfl)
  | unreachable => exact .inr (.inr ⟨_, rfl⟩)
  | locked => exact .inr (.inr ⟨_, rfl⟩)

/-! ## Scans and censuses of a root -/

/-- What is made of an open root does not fail by itself. -/
theorem map_eq_error_iff {α β : Type} {opened : Except Failure α} {g : α → β} :
    opened.map g = .error failure ↔ opened = .error failure := by
  cases opened with
  | error failure' => simp [Except.map]
  | ok a => simp [Except.map]

theorem exists_map_eq_ok_iff {α β : Type} {opened : Except Failure α} {g : α → β} :
    (∃ b, opened.map g = .ok b) ↔ ∃ a, opened = .ok a := by
  cases opened with
  | error failure => simp [Except.map]
  | ok a => simp [Except.map]

theorem scan_eq_error_iff : fs.scan f root = .error failure ↔ fs.RootFault root failure := by
  rw [scan, visits, map_eq_error_iff, map_eq_error_iff, openDirectory_eq_error_iff]

theorem count_eq_error_iff : fs.count rules registry root = .error failure ↔ fs.RootFault root failure := by
  rw [count, map_eq_error_iff, openDirectory_eq_error_iff]

theorem count_eq_ok_iff {counted : Counted} :
    fs.count rules registry root = .ok counted ↔
      ∃ listing, fs.openDirectory root = .ok listing ∧ countListing rules registry root listing = counted := by
  unfold count
  cases fs.openDirectory root with
  | error failure => simp [Except.map]
  | ok listing => simp [Except.map]

theorem exists_openDirectory_iff :
    (∃ listing, fs.openDirectory root = .ok listing) ↔
      ∃ trail, fs.resolve root = .ok (.dir trail) ∧ isLocked trail = false := by
  constructor
  · rintro ⟨listing, hopen⟩
    rcases openDirectory_eq_ok_iff.1 hopen with ⟨trail, hresolve, hunlocked, -⟩
    exact ⟨trail, hresolve, hunlocked⟩
  · rintro ⟨trail, hresolve, hunlocked⟩
    exact ⟨_, openDirectory_eq_ok_iff.2 ⟨trail, hresolve, hunlocked, rfl⟩⟩

/-- A scan succeeds if its root is a directory that can be listed. -/
theorem exists_scan_iff :
    (∃ paths, fs.scan f root = .ok paths) ↔
      ∃ trail, fs.resolve root = .ok (.dir trail) ∧ isLocked trail = false := by
  rw [← exists_openDirectory_iff]
  unfold scan visits
  rw [exists_map_eq_ok_iff, exists_map_eq_ok_iff]

/-- So does a census. -/
theorem exists_count_iff :
    (∃ counted, fs.count rules registry root = .ok counted) ↔
      ∃ trail, fs.resolve root = .ok (.dir trail) ∧ isLocked trail = false := by
  rw [← exists_openDirectory_iff]
  unfold count
  rw [exists_map_eq_ok_iff]

/-- A scan and a census of one root fail alike, with whatever filter, rules and registry. The root is missing if
resolving its path finds that something does not exist, and no directory if the path leads to something else. It cannot
be read if the path fails in any other way, or leads to a directory that is locked. There is no other failure: for every
other root both succeed. A path leads where its way arrives and fails as its way fails: through a file, through a locked
directory, at a name that is too long, with no link left to follow, as it is with links that lead back to themselves.
With a zero byte it fails before any of these. -/
theorem scan_and_count_fail_alike (fs : FileSystem) (f : Filter) (rules : Rules) (registry : Registry) (root : Bytes) :
    (∀ failure, fs.scan f root = .error failure ↔ fs.count rules registry root = .error failure) ∧
      (fs.scan f root = .error (.rootMissing root) ↔ fs.resolve root = .error .missing) ∧
      (fs.scan f root = .error (.rootNotDirectory root) ↔ ∃ leaf, fs.resolve root = .ok (.leaf leaf)) ∧
      (∀ reason, fs.scan f root = .error (.rootUnreadable root reason) ↔
        (∃ cause, cause ≠ .missing ∧ fs.resolve root = .error cause ∧ reason = cause.message) ∨
          ∃ trail, fs.resolve root = .ok (.dir trail) ∧ isLocked trail = true ∧
            reason = ResolveFault.denied.message) ∧
      (∀ failure, fs.scan f root = .error failure → failure = .rootMissing root ∨
        failure = .rootNotDirectory root ∨ ∃ reason, failure = .rootUnreadable root reason) ∧
      ((∃ paths, fs.scan f root = .ok paths) ↔
        ∃ trail, fs.resolve root = .ok (.dir trail) ∧ isLocked trail = false) ∧
      ((∃ counted, fs.count rules registry root = .ok counted) ↔
        ∃ trail, fs.resolve root = .ok (.dir trail) ∧ isLocked trail = false) ∧
      (∀ place, fs.resolve root = .ok place ↔
        0 ∉ root ∧ root ≠ [] ∧ ∃ last, fs.Reaches (fs.setOut root) last ∧ fs.Arrives last place) ∧
      (∀ cause, fs.resolve root = .error cause ↔
        (0 ∈ root ∧ cause = .zeroByte) ∨ (root = [] ∧ cause = .missing) ∨
          (0 ∉ root ∧ root ≠ [] ∧ ∃ last, fs.Reaches (fs.setOut root) last ∧ fs.Fails last cause)) ∧
      ∀ links trail piece rest, 0 ∉ root → root ≠ [] →
        fs.Reaches (fs.setOut root) ⟨links, trail, piece :: rest⟩ → fs.Loops trail piece →
          fs.resolve root = .error .tooManyLinks := by
  refine ⟨?_, ?_, ?_, ?_, ?_, exists_scan_iff, exists_count_iff, ?_, ?_, ?_⟩
  · intro failure
    exact scan_eq_error_iff.trans count_eq_error_iff.symm
  · exact scan_eq_error_iff.trans rootFault_missing_iff
  · exact scan_eq_error_iff.trans rootFault_notDirectory_iff
  · intro reason
    exact scan_eq_error_iff.trans rootFault_unreadable_iff
  · intro failure hscan
    have hfault : fs.RootFault root failure := scan_eq_error_iff.1 hscan
    exact hfault.failure_eq
  · intro place
    exact resolve_eq_ok_iff_arrives
  · intro cause
    exact resolve_eq_error_iff
  · intro links trail piece rest hzero hne hreaches hloops
    exact resolve_of_loops hzero hne hreaches hloops

/-- The locked directory `d`, the file `f`, the link `l` to itself, and the directory `s` with one of everything that
cannot be counted: a locked directory, a link to nowhere, a pipe, a locked file and a file that is no text. -/
def hedge : FileSystem where
  top :=
    .dir [0x64] true .nil
      (.leaf [0x66] (.file [0x31] false)
        (.leaf [0x6c] (.link [0x6c])
          (.dir [0x73] false
            (.dir [0x64] true .nil
              (.leaf [0x6c] (.link [0x78])
                (.leaf [0x70] .fifo
                  (.leaf [0x75] (.file [] true)
                    (.leaf [0x76] (.file [0xff] false) .nil)))))
            .nil)))
  wellFormed := by decide
  here := []

/-- The root `/l/f` has too many links and `/f/d` leads through a file, for a scan and for a census. Of `/s` both
succeed. -/
theorem scan_and_count_fail_alike_hedge :
    hedge.count .empty .empty [0x2f, 0x6c, 0x2f, 0x66] =
        .error (.rootUnreadable [0x2f, 0x6c, 0x2f, 0x66] "Too many levels of symbolic links") ∧
      hedge.count .empty .empty [0x2f, 0x66, 0x2f, 0x64] =
        .error (.rootUnreadable [0x2f, 0x66, 0x2f, 0x64] "Not a directory") ∧
      (∃ paths, hedge.scan Rules.empty.filter [0x2f, 0x73] = .ok paths) ∧
      ∃ counted, hedge.count .empty .empty [0x2f, 0x73] = .ok counted := by
  have htop : ∀ piece found, piece ≠ [] ∧ piece ≠ Path.dot ∧ piece ≠ Path.dotDot → piece.length ≤ nameLimit →
      hedge.top.find? piece = found → hedge.LooksUp [] piece found :=
    fun _ _ hnamed hfits hfind => ⟨rfl, hnamed, hfits, hfind⟩
  refine ⟨?_, ?_, ?_⟩
  · have hlink := htop [0x6c] (some (.leaf (.link [0x6c]))) (by decide) (by decide) rfl
    -- one link, and the way is where it was
    have hloops : hedge.Loops [] [0x6c] := ⟨1, [], Nat.one_pos, .single (.link hlink (by decide))⟩
    have hreaches : hedge.Reaches (hedge.setOut [0x2f, 0x6c, 0x2f, 0x66]) ⟨linkLimit, [], [[0x6c], [0x66]]⟩ :=
      .single .idle
    rcases scan_and_count_fail_alike hedge Rules.empty.filter .empty .empty [0x2f, 0x6c, 0x2f, 0x66] with
      ⟨halike, -, -, hunreadable, -, -, -, -, -, hlooping⟩
    have hresolve := hlooping _ _ _ _ (by decide) (by decide) hreaches hloops
    exact (halike _).1 ((hunreadable _).2 (.inl ⟨.tooManyLinks, by decide, hresolve, rfl⟩))
  · have hfile := htop [0x66] (some (.leaf (.file [0x31] false))) (by decide) (by decide) rfl
    have hfails : hedge.Fails ⟨linkLimit, [], [[0x66], [0x64]]⟩ .notDirectory :=
      .throughFile hfile (by simp) (by decide)
    have hreaches : hedge.Reaches (hedge.setOut [0x2f, 0x66, 0x2f, 0x64]) ⟨linkLimit, [], [[0x66], [0x64]]⟩ :=
      .single .idle
    rcases scan_and_count_fail_alike hedge Rules.empty.filter .empty .empty [0x2f, 0x66, 0x2f, 0x64] with
      ⟨halike, -, -, hunreadable, -, -, -, -, herror, -⟩
    have hresolve := (herror .notDirectory).2 (.inr (.inr ⟨by decide, by decide, _, hreaches, hfails⟩))
    exact (halike _).1 ((hunreadable _).2 (.inl ⟨.notDirectory, by decide, hresolve, rfl⟩))
  · rcases scan_and_count_fail_alike hedge Rules.empty.filter .empty .empty [0x2f, 0x73] with
      ⟨-, -, -, -, -, hscan, hcount, -⟩
    have hopen : ∃ trail, hedge.resolve [0x2f, 0x73] = .ok (.dir trail) ∧ isLocked trail = false := ⟨_, rfl, rfl⟩
    exact ⟨hscan.2 hopen, hcount.2 hopen⟩

end FileSystem

end LineCensus
