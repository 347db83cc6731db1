import Mathlib.Algebra.Order.BigOperators.Group.List
import Mathlib.Algebra.Order.Ring.Nat
import LineCensus.Proofs.Census.Count
import LineCensus.Proofs.Ignore.Additions
import LineCensus.Proofs.Scan.Pruning

/-!
# LineCensus.Proofs.Census.Shrinking — leaving out more counts no more

1. `Tally.AtMost`: a tally no field of which is greater than that of another. `atMost_sum`: the tally of some files among
   others.
2. `FileSystem.Shrinks`: from some rules to others, a scan loses paths and keeps the order of the rest, and no total of
   the census grows. `shrinks_of_grows`: so it is with rules that grow.
3. `scan_prunes_and_shrinks`: what a filter does to a scan, and what further rules, a command line and the defaults do.
-/

namespace LineCensus

namespace Tally

/-- No count of a tally is greater than that of another. -/
structure AtMost (t' t : Tally) : Prop where
  files : t'.files ≤ t.files
  lines : t'.lines ≤ t.lines
  blank : t'.blank ≤ t.blank
  comments : t'.comments ≤ t.comments
  code : t'.code ≤ t.code

/-- Some of the files come to no more than all of them. -/
theorem atMost_sum {bs bs' : List Breakdown} (h : bs'.Sublist bs) : (sum bs').AtMost (sum bs) := by
  have hfield : ∀ field : Breakdown → Nat, (bs'.map field).sum ≤ (bs.map field).sum := by
    intro field
    exact (h.map field).sum_le_sum fun n _ => Nat.zero_le n
  exact ⟨h.length_le, hfield (·.lines), hfield (·.blank), hfield (·.comments), hfield (·.code)⟩

end Tally

namespace FileSystem

variable {fs : FileSystem} {rules rules' : Rules} {registry : Registry} {root : Bytes} {listing : Listing}

/-! ## Growing rules -/

/-- With other rules a scan finds a part of the files, in the same order, and no total of the census is greater. -/
structure Shrinks (fs : FileSystem) (registry : Registry) (root : Bytes) (rules rules' : Rules) : Prop where
  scan : ∃ paths paths', fs.scan rules.filter root = .ok paths ∧ fs.scan rules'.filter root = .ok paths' ∧
    paths'.Sublist paths
  count : ∃ counted counted', fs.count rules registry root = .ok counted ∧
    fs.count rules' registry root = .ok counted' ∧ counted'.census.totals.AtMost counted.census.totals

/-- Rules that grow make a narrower filter. -/
theorem narrows_of_grows (h : rules.Grows rules') : rules'.filter.Narrows rules.filter :=
  ⟨fun _ => h.enters, fun _ => h.includes⟩

/-- Rules that grow leave a part of the files, which come to no more. -/
theorem shrinks_of_grows (registry : Registry) (hopen : fs.openDirectory root = .ok listing)
    (h : rules.Grows rules') : fs.Shrinks registry root rules rules' := by
  rcases scan_sublist hopen (narrows_of_grows h) with ⟨paths, paths', hscan, hscan', hsublist⟩
  rcases count_eq_grouped registry hscan with ⟨counted, hcount, hcensus⟩
  rcases count_eq_grouped registry hscan' with ⟨counted', hcount', hcensus'⟩
  refine ⟨⟨paths, paths', hscan, hscan', hsublist⟩, ⟨counted, counted', hcount, hcount', ?_⟩⟩
  -- the files that are counted are a part, too
  have hfiles : ((paths'.filterMap (fs.measured? registry)).map (·.2)).Sublist
      ((paths.filterMap (fs.measured? registry)).map (·.2)) := (hsublist.filterMap _).map _
  rw [hcensus, hcensus']
  exact Tally.atMost_sum hfiles

/-! ## Scans and censuses of a root -/

/-- What leaving out does to a root that can be opened. A scan is the scan of everything with only the paths left whose
directories, strictly between the root and the file, are all entered and which are counted themselves. So a scan only
loses paths and no total of the census grows, whatever directories, patterns and extensions are added to rules, and
whatever a command line adds to settings if it leaves the defaults in force. Settings without the defaults, be it that
they say so or the command line does, can be built where they could be before, and there it is the other way round. -/
theorem scan_prunes_and_shrinks (registry : Registry) (hopen : fs.openDirectory root = .ok listing) :
    (∀ f : Filter, ∃ all, fs.scan .keepAll root = .ok all ∧
        fs.scan f root =
          .ok (all.filter fun path => (Path.below root path).dropLast.all f.enters && f.includes path)) ∧
      (∀ (rules : Rules) (additions : List Rules.Addition),
        fs.Shrinks registry root rules (rules.applyAll additions)) ∧
      (∀ (s : Settings) (o : Options) (rules rules' : Rules), o.noDefaultIgnores = false → s.build = .ok rules →
        (o.override s).build = .ok rules' → fs.Shrinks registry root rules rules') ∧
      (∀ (s : Settings) (rules : Rules), s.build = .ok rules →
        ∃ rules', s.withoutDefaults.build = .ok rules' ∧ fs.Shrinks registry root rules' rules) ∧
      ∀ (s : Settings) (o : Options) (rules : Rules), (o.override s).build = .ok rules →
        ∃ rules', (({ o with noDefaultIgnores := true } : Options).override s).build = .ok rules' ∧
          fs.Shrinks registry root rules' rules := by
  have hdropped : ∀ (s : Settings) (rules : Rules), s.build = .ok rules →
      ∃ rules', s.withoutDefaults.build = .ok rules' ∧ fs.Shrinks registry root rules' rules := by
    intro s rules hbuild
    rcases Settings.exists_build_withoutDefaults hbuild with ⟨rules', hbuild'⟩
    have hgrows : rules'.Grows rules := Settings.grows_of_within s.within_withoutDefaults hbuild' hbuild
    exact ⟨rules', hbuild', shrinks_of_grows registry hopen hgrows⟩
  refine ⟨fun f => scan_eq_filter hopen f, ?_, ?_, hdropped, ?_⟩
  · intro rules additions
    exact shrinks_of_grows registry hopen (Rules.grows_applyAll rules additions)
  · intro s o rules rules' hdefaults hbuild hbuild'
    have hwithin : s.Within (o.override s) := Settings.within_override hdefaults s
    exact shrinks_of_grows registry hopen (Settings.grows_of_within hwithin hbuild hbuild')
  · intro s o rules hbuild
    rw [Settings.override_noDefaultIgnores]
    exact hdropped (o.override s) rules hbuild

/-- Below the link `r`, all of `a/z`, `a!` and `s/x` are found if everything is entered and counted. If `s` is not
entered, `s/x` is left out of the three. With the directory `a` and a text that is no pattern added to rules, the rules
leave out `a/z`, and neither the file `a!` nor what comes behind. -/
theorem scan_prunes_sample :
    sample.openDirectory [0x72] = .ok sampleBelow ∧
      sample.scan .keepAll [0x72] =
        .ok [[0x72, 0x2f, 0x61, 0x2f, 0x7a], [0x72, 0x2f, 0x61, 0x21], [0x72, 0x2f, 0x73, 0x2f, 0x78]] ∧
      sample.scan (Filter.prune [0x73]) [0x72] = .ok [[0x72, 0x2f, 0x61, 0x2f, 0x7a], [0x72, 0x2f, 0x61, 0x21]] ∧
      sample.scan (Rules.empty.applyAll [.directory "a", .pattern "("]).filter [0x72] =
        .ok [[0x72, 0x2f, 0x61, 0x21], [0x72, 0x2f, 0x73, 0x2f, 0x78]] ∧
      sample.Shrinks .empty [0x72] .empty (Rules.empty.applyAll [.directory "a", .pattern "("]) := by
  have hopen : sample.openDirectory [0x72] = .ok sampleBelow := by rfl
  have hall : sample.scan .keepAll [0x72] =
      .ok [[0x72, 0x2f, 0x61, 0x2f, 0x7a], [0x72, 0x2f, 0x61, 0x21], [0x72, 0x2f, 0x73, 0x2f, 0x78]] := by rfl
  rcases scan_prunes_and_shrinks .empty hopen with ⟨hprunes, hshrinks, -⟩
  have hscan : ∀ f : Filter, sample.scan f [0x72] =
      .ok ([[0x72, 0x2f, 0x61, 0x2f, 0x7a], [0x72, 0x2f, 0x61, 0x21], [0x72, 0x2f, 0x73, 0x2f, 0x78]].filter
        fun path => (Path.below [0x72] path).dropLast.all f.enters && f.includes path) := by
    intro f
    rcases hprunes f with ⟨all, hkept, hscan⟩
    obtain rfl := Except.ok.inj (hall.symm.trans hkept)
    exact hscan
  refine ⟨hopen, hall, ?_, ?_, hshrinks _ _⟩
  · rw [hscan]
    decide
  · rw [hscan]
    decide +kernel

end FileSystem

end LineCensus
