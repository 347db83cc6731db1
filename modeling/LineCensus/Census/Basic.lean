import LineCensus.Census.Breakdown

/-!
# LineCensus.Census.Basic — files grouped by extension

1. `Tally`: how many files were counted, and the sums of their lines.
2. `Census`: the tally of all files and one for each extension, in the order in which the extensions were
   first met. The totals change only together with the entry of an extension.
3. `Census.record`: counts one more file.
4. `Census.sortedByCode`: the entries by code lines, most first, and by extension where those agree.
5. `Census.same`: equality up to the order of the entries.
-/

namespace LineCensus

/-! ## Tallies -/

/-- A number of files and the sums of their lines. -/
structure Tally where
  files : Nat
  lines : Nat
  blank : Nat
  comments : Nat
  code : Nat
deriving DecidableEq, Repr

namespace Tally

/-- No file. -/
def zero : Tally := ⟨0, 0, 0, 0, 0⟩

/-- Counts one more file. -/
def add (t : Tally) (b : Breakdown) : Tally :=
  ⟨t.files + 1, t.lines + b.lines, t.blank + b.blank, t.comments + b.comments, t.code + b.code⟩

end Tally

/-- The key of files without an extension. -/
def noExtension : String := "no-extension"

/-! ## The census -/

/-- The tally of all files, and one for each extension in the order of first record. -/
structure Census where
  totals : Tally
  entries : List (String × Tally)
deriving DecidableEq, Repr

namespace Census

/-- No file was counted. -/
def empty : Census := ⟨.zero, []⟩

/-- Counts a file in the entry of its extension, which is added at the end if it is new. -/
def recordEntry (extension : String) (b : Breakdown) :
    List (String × Tally) → List (String × Tally)
  | [] => [(extension, Tally.zero.add b)]
  | (key, tally) :: rest =>
    if key = extension then (key, tally.add b) :: rest
    else (key, tally) :: recordEntry extension b rest

/-- Counts a file, under its extension and in the totals. -/
def record (c : Census) (extension : String) (b : Breakdown) : Census :=
  ⟨c.totals.add b, recordEntry extension b c.entries⟩

/-- Counts files one after the other. -/
def recordAll (c : Census) (files : List (String × Breakdown)) : Census :=
  files.foldl (fun c file => c.record file.1 file.2) c

/-- The tally of an extension. -/
def get? (c : Census) (extension : String) : Option Tally :=
  (c.entries.find? (·.1 == extension)).map (·.2)

/-- Whether no file was counted. -/
def isEmpty (c : Census) : Bool := c.entries.isEmpty

/-! ## Order -/

/-- Whether one entry goes before another, or is that entry: more code first, then the extension. -/
def entryLe (a b : String × Tally) : Bool :=
  b.2.code < a.2.code || (a.2.code == b.2.code && decide (a.1 ≤ b.1))

/-- The entries, those with the most code first. -/
def sortedByCode (c : Census) : List (String × Tally) := c.entries.mergeSort entryLe

/-- Whether two censuses agree up to the order of their entries. -/
def same (a b : Census) : Bool :=
  a.totals == b.totals && a.entries.length == b.entries.length
    && a.entries.all fun (extension, tally) => b.get? extension == some tally

end Census

end LineCensus
