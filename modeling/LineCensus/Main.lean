import LineCensus.Program

/-!
# LineCensus.Main — the command

Everything is decided in `LineCensus.Program`; here the world is read and the outcome is written.

1. `readSettings`: the content of the settings file.
2. `readListing`: the listing of a directory, as far as a census looks into it.
3. `readWorld`: the surroundings of one run.
4. `main`: runs, writes what is printed and logged, and gives the exit code.
-/

namespace LineCensus.Main

/-! ## Reading the world -/

/-- The content of a file, or why it cannot be read. -/
def readSettings (path : String) : IO (Except String Bytes) := do
  try
    pure (.ok (← IO.FS.readBinFile ((← IO.currentDir) / path)).toList)
  catch e => pure (.error (toString e))

/-- The content of a regular file; a file that cannot be read counts as locked. -/
def readLeaf (path : String) : IO Leaf := do
  try
    pure (.file (← IO.FS.readBinFile path).toList false)
  catch _ => pure (.file [] true)

/-- The listing of a directory. A file that is not counted is not read, and a directory that is not
entered is not listed. -/
partial def readListing (f : Filter) (path : String) : IO Listing := do
  let mut listing := Listing.nil
  for entry in ← ((← IO.currentDir) / path).readDir do
    let name := Text.encode entry.fileName
    let below := entry.path.toString
    let found : Option Entry ←
      match (← entry.path.symlinkMetadata).type with
      | .dir =>
        if f.enters name then
          try
            pure (some (.dir false (← readListing f below)))
          catch _ => pure (some (.dir true .nil))
        else pure (some (.dir false .nil))
      | .file =>
        if f.includes name then pure (some (.leaf (← readLeaf below)))
        else pure (some (.leaf (.file [] false)))
      | .symlink => pure (some (.leaf (.link [])))
      | .other => pure (some (.leaf .fifo))
    listing := listing.alter name fun _ => found
  pure listing

/-- The listing of the root at a path, or why there is none. -/
def readRoot (f : Filter) (path : Bytes) : IO (Except Failure Listing) := do
  let text := shownPath path
  try
    match (← ((← IO.currentDir) / text).metadata).type with
    | .dir =>
      try
        pure (.ok (← readListing f text))
      catch e => pure (.error (.rootUnreadable path (toString e)))
    | _ => pure (.error (.rootNotDirectory path))
  catch
    | .noFileOrDirectory .. => pure (.error (.rootMissing path))
    | e => pure (.error (.rootUnreadable path (toString e)))

/-- The surroundings of a run with the given options. -/
def readWorld (o : Options) : IO World := do
  let here := Text.encode (← IO.currentDir).toString
  let settings ← match o.config with
    | some path => readSettings path
    | none => pure (.error "")
  let w : World := ⟨here, fun _ => settings, fun path => .error (.rootMissing path)⟩
  match (prepare w o).2 with
  | .error _ => pure w
  | .ok rules => do
    let root ← readRoot rules.filter (rootPath w o)
    pure { w with openDirectory := fun _ => root }

/-! ## The command -/

/-- Runs with the given arguments. -/
def command (arguments : List String) : IO UInt32 := do
  let w ← match Options.parse arguments with
    | .ok o => readWorld o
    | .error _ => pure ⟨[], fun _ => .error "", fun path => .error (.rootMissing path)⟩
  let left := transcript w (← IO.getEnv "RUST_LOG") arguments
  IO.print (String.ofList left.stdout)
  for line in left.stderr do
    IO.eprintln line
  pure left.exitCode.toUInt32

end LineCensus.Main

/-- Counts the lines below a directory. -/
def main (arguments : List String) : IO UInt32 := LineCensus.Main.command arguments
