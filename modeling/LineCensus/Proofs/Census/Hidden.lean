import LineCensus.Proofs.Census.Count
import LineCensus.Proofs.Scan.Visible

/-!
# LineCensus.Proofs.Census.Hidden — hidden entries do not count

The walk finds files that cannot be read or are no text, and they are left out only when they are measured.
What can be seen leaves them out from the start.

1. `Outline.measured?`: what an entry that is seen is counted as.
2. `filterMap_found`: what is counted of the files that the walk finds is what is counted of the entries that
   can be seen, in the same order.
3. `FileSystem.census_eq_of_shows_iff`: where two directories show the same, their censuses are the same.
-/

namespace LineCensus

/-- What an entry at a path is counted as, by itself. -/
def Outline.measured? (registry : Registry) (path : Bytes) : Outline → Option (String × Breakdown)
  | .leaf (.file content locked) => (Candidate.mk path content locked).measured? registry
  | .dir | .leaf (.link _) | .leaf .fifo => none

/-- A file that is not read, or is no text, is not counted. -/
theorem Candidate.measured?_eq_none {registry : Registry} {c : Candidate}
    (h : (c.locked || (Text.decode? c.content).isNone) = true) : c.measured? registry = none := by
  have htext : c.text? = none := by
    unfold text?
    cases hlocked : c.locked with
    | true => rfl
    | false =>
      rw [hlocked, Bool.false_or, Option.isNone_iff_eq_none] at h
      exact h
  rw [measured?, htext, Option.map_none]

namespace Listing

variable {rules : Rules} {registry : Registry} {root : Bytes}

/-- A file in the directory itself is counted as it is seen. -/
theorem filterMap_file (name : Name) (content : Bytes) (locked : Bool) :
    (if rules.includes (Path.join root name) then [Regular.mk [name] content locked] else []).filterMap
        (fun r => (r.candidate root).measured? registry) =
      (visibleLeaf rules (Path.join root name) name (.file content locked)).filterMap
        fun v => v.2.measured? registry (Path.joinAll root v.1) := by
  have hhidden : (Outline.leaf (.file content locked)).isHidden rules (Path.join root name) =
      (!rules.includes (Path.join root name) || locked || (Text.decode? content).isNone) := rfl
  rw [visibleLeaf, hhidden]
  cases rules.includes (Path.join root name) with
  | false => rfl
  | true =>
    rw [Bool.not_true, Bool.false_or, if_pos rfl]
    by_cases hnot : (locked || (Text.decode? content).isNone) = true
    · -- the walk finds the file, and it is left out as it is measured
      have hnone : ((Regular.mk [name] content locked).candidate root).measured? registry = none :=
        Candidate.measured?_eq_none hnot
      rw [if_pos hnot]
      exact List.filterMap_cons_none hnone
    · rw [if_neg hnot]
      rfl

/-- What is counted of the files that are found is what is counted of the entries that can be seen. -/
theorem filterMap_found (l : Listing) :
    (l.found rules.filter root).filterMap (fun r => (r.candidate root).measured? registry) =
      (l.visible rules root).filterMap fun v => v.2.measured? registry (Path.joinAll root v.1) := by
  induction l generalizing root with
  | nil => rfl
  | leaf name lf rest ih =>
    cases lf with
    | file content locked =>
      rw [found, visible, List.filterMap_append, List.filterMap_append, ih]
      congr 1
      exact filterMap_file name content locked
    | link target => exact ih
    | fifo => exact ih
  | dir name locked below rest ihbelow ih =>
    rw [found, visible, List.filterMap_append, ih]
    -- the directory itself is seen and counts for nothing
    refine Eq.trans ?_ (List.filterMap_cons_none rfl).symm
    rw [List.filterMap_append]
    congr 1
    show List.filterMap _ (if rules.enters name && !locked then _ else _) = _
    split
    · rw [List.filterMap_map, List.filterMap_map]
      exact ihbelow
    · rfl

/-- The census of a directory is that of the entries that can be seen. -/
theorem census_countListing (l : Listing) :
    (countListing rules registry root l).census =
      Census.empty.recordAll
        ((l.visible rules root).filterMap fun v => v.2.measured? registry (Path.joinAll root v.1)) := by
  rw [census_eq_grouped, measured, filterMap_found, Census.recordAll_eq_grouped]

end Listing

namespace FileSystem

/-- Entries that are hidden do not count: if a root can be opened in two file systems, and the directories
that it leads to have the same entries but for hidden ones, then the root has the same census in both. -/
theorem census_eq_of_shows_iff {fs fs' : FileSystem} {rules : Rules} (registry : Registry) {root : Bytes}
    {l l' : Listing} (hopen : fs.openDirectory root = .ok l) (hopen' : fs'.openDirectory root = .ok l')
    (h : ∀ names o, l.Shows rules root names o ↔ l'.Shows rules root names o) :
    ∃ counted counted',
      fs.count rules registry root = .ok counted ∧
        fs'.count rules registry root = .ok counted' ∧ counted.census = counted'.census := by
  have hvisible : l.visible rules root = l'.visible rules root :=
    Listing.visible_eq_of_shows_iff (wellFormed_openDirectory hopen) (wellFormed_openDirectory hopen') h
  refine ⟨countListing rules registry root l, countListing rules registry root l', ?_, ?_, ?_⟩
  · rw [count, hopen]
    rfl
  · rw [count, hopen']
    rfl
  · rw [Listing.census_countListing, Listing.census_countListing, hvisible]

/-- A file `b.c`, a directory `m`, a directory `s` and a file `t/d.c`. -/
def plain : FileSystem where
  top :=
    .leaf [0x62, 0x2e, 0x63] (.file [0x31] false)
      (.dir [0x6d] false .nil
        (.dir [0x73] false .nil
          (.dir [0x74] false (.leaf [0x64, 0x2e, 0x63] (.file [0x32] false) .nil) .nil)))
  wellFormed := by decide
  here := []

/-- The same and more: the link `a.c` before `b.c`, the files `c.c`, which is locked, and `d.c`, which is no
text, the pipe `e`, the file `f.png`, files in `m` and its directory `n`, and a file in `s`, which is locked. -/
def cluttered : FileSystem where
  top :=
    .leaf [0x61, 0x2e, 0x63] (.link [0x74])
      (.leaf [0x62, 0x2e, 0x63] (.file [0x31] false)
        (.leaf [0x63, 0x2e, 0x63] (.file [0x33] true)
          (.leaf [0x64, 0x2e, 0x63] (.file [0xff] false)
            (.leaf [0x65] .fifo
              (.leaf [0x66, 0x2e, 0x70, 0x6e, 0x67] (.file [0x34] false)
                (.dir [0x6d] false
                  (.leaf [0x67, 0x2e, 0x63] (.file [0x35] false)
                    (.dir [0x6e] false (.leaf [0x68, 0x2e, 0x63] (.file [0x36] false) .nil) .nil))
                  (.dir [0x73] true (.leaf [0x69, 0x2e, 0x63] (.file [0x37] false) .nil)
                    (.dir [0x74] false (.leaf [0x64, 0x2e, 0x63] (.file [0x32] false) .nil) .nil))))))))
  wellFormed := by decide
  here := []

/-- With `m` left out, the second file system has the census of the first. -/
theorem census_plain_eq_cluttered :
    plain.openDirectory [0x2f] = .ok plain.top ∧
      cluttered.openDirectory [0x2f] = .ok cluttered.top ∧
      (∀ names o, plain.top.Shows (Rules.empty.addDirectory "m") [0x2f] names o ↔
        cluttered.top.Shows (Rules.empty.addDirectory "m") [0x2f] names o) ∧
      ∃ counted counted',
        plain.count (Rules.empty.addDirectory "m") .empty [0x2f] = .ok counted ∧
          cluttered.count (Rules.empty.addDirectory "m") .empty [0x2f] = .ok counted' ∧
          counted.census = counted'.census := by
  have hopen : plain.openDirectory [0x2f] = .ok plain.top := by rfl
  have hopen' : cluttered.openDirectory [0x2f] = .ok cluttered.top := by rfl
  have hvisible : plain.top.visible (Rules.empty.addDirectory "m") [0x2f] =
      cluttered.top.visible (Rules.empty.addDirectory "m") [0x2f] := by decide +kernel
  have h : ∀ names o, plain.top.Shows (Rules.empty.addDirectory "m") [0x2f] names o ↔
      cluttered.top.Shows (Rules.empty.addDirectory "m") [0x2f] names o := by
    intro names o
    rw [← Listing.mem_visible_iff plain.wellFormed, ← Listing.mem_visible_iff cluttered.wellFormed, hvisible]
  exact ⟨hopen, hopen', h, census_eq_of_shows_iff .empty hopen hopen' h⟩

end FileSystem

end LineCensus
