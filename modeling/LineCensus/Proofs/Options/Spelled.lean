import LineCensus.Proofs.Options.Switch

/-!
# LineCensus.Proofs.Options.Spelled — options written out as a command line

Options are written one by one, each in one argument with its value behind an equals sign. Whatever the values are, and
in whatever order the options come, the command line is read as these options.

1. `splitCommas_intercalate`: names joined by commas come apart again.
2. `Written`: one option as it is written, `Written.argument`: the argument, `Written.change`: what it does to options.
3. `Line.add`: a reading with one more option. `feed_argument`, `foldlM_feed_arguments`: reading one argument has this
   effect, and reading all of them has all effects. `foldlM_feed_path`, `settle_path`: the path behind them.
4. `Options.Spells`: arguments that write options out. `Spells.foldl_change`: they change the options of an empty
   command line to the options that are written out. `spells_writeOut`: there are always such arguments.
5. `parse_spelled`: the command line is read as the options that are written out.
-/

namespace LineCensus

/-! ## Names between commas -/

namespace Line

/-- The parts of a text between commas. -/
def commaParts (text : List Char) : List (List Char) :=
  text.foldr
    (fun c parts =>
      if c = ',' then [] :: parts
      else match parts with
        | [] => [[c]]
        | p :: rest => (c :: p) :: rest)
    [[]]

theorem splitCommas_eq (value : String) : splitCommas value = (commaParts value.toList).map String.ofList := rfl

theorem commaParts_comma (text : List Char) : commaParts (',' :: text) = [] :: commaParts text := rfl

/-- Text without a comma belongs to the part that follows. -/
theorem commaParts_append {name text part : List Char} {parts : List (List Char)} (hname : ',' ∉ name)
    (htext : commaParts text = part :: parts) : commaParts (name ++ text) = (name ++ part) :: parts := by
  induction name with
  | nil => exact htext
  | cons c rest ih =>
    simp only [List.mem_cons, not_or] at hname
    have hrest : commaParts (rest ++ text) = (rest ++ part) :: parts := ih hname.2
    have hstep : commaParts (c :: (rest ++ text)) =
        if c = ',' then [] :: commaParts (rest ++ text)
        else match commaParts (rest ++ text) with
          | [] => [[c]]
          | p :: more => (c :: p) :: more := rfl
    rw [List.cons_append, hstep, if_neg (Ne.symm hname.1), hrest]
    rfl

theorem commaParts_intercalate {names : List (List Char)} (hne : names ≠ []) (h : ∀ name ∈ names, ',' ∉ name) :
    commaParts ([','].intercalate names) = names := by
  induction names with
  | nil => exact absurd rfl hne
  | cons name rest ih =>
    have hname : ',' ∉ name := h name List.mem_cons_self
    cases rest with
    | nil =>
      have hone := commaParts_append hname (rfl : commaParts [] = [[]])
      simpa using hone
    | cons next more =>
      have hrest := ih (List.cons_ne_nil next more) fun n hn => h n (List.mem_cons_of_mem name hn)
      have hcomma := commaParts_comma ([','].intercalate (next :: more))
      rw [List.intercalate_cons_cons, List.append_assoc, List.singleton_append, commaParts_append hname hcomma, hrest,
        List.append_nil]

/-- Names without commas come apart again where they were joined. -/
theorem splitCommas_intercalate {names : List String} (hne : names ≠ []) (h : ∀ name ∈ names, ',' ∉ name.toList) :
    splitCommas (",".intercalate names) = names := by
  have hne' : names.map String.toList ≠ [] := by simpa using hne
  have hparts : ∀ part ∈ names.map String.toList, ',' ∉ part := by
    intro part hpart
    rcases List.mem_map.1 hpart with ⟨name, hname, rfl⟩
    exact h name hname
  rw [splitCommas_eq, String.toList_intercalate]
  show (commaParts ([','].intercalate (names.map String.toList))).map String.ofList = names
  rw [commaParts_intercalate hne' hparts, List.map_map]
  simp

end Line

/-! ## One option -/

/-- The name of a format, as it is written. -/
def OutputFormat.name : OutputFormat → String
  | .text => "text"
  | .json => "json"

theorem OutputFormat.ofString?_name (format : OutputFormat) : ofString? format.name = some format := by
  cases format <;> decide +kernel

/-- The name of a colour mode, as it is written. -/
def ColorMode.name : ColorMode → String
  | .auto => "auto"
  | .always => "always"
  | .never => "never"

theorem ColorMode.ofString?_name (color : ColorMode) : ofString? color.name = some color := by
  cases color <;> decide

/-- An option as it is written in one argument. Names of directories and extensions may share an argument. -/
inductive Written where
  | directories (names : List String)
  | extensions (names : List String)
  | pattern (text : String)
  | config (path : String)
  | format (f : OutputFormat)
  | color (c : ColorMode)
  | noDefaultIgnores
  | verbose
  | quiet
deriving DecidableEq, Repr

namespace Written

/-- The argument in which an option is written. -/
def argument : Written → String
  | .directories names => "--exclude-dir=" ++ ",".intercalate names
  | .extensions names => "--exclude-ext=" ++ ",".intercalate names
  | .pattern text => "--exclude-pattern=" ++ text
  | .config path => "--config=" ++ path
  | .format f => "--format=" ++ f.name
  | .color c => "--color=" ++ c.name
  | .noDefaultIgnores => "--no-default-ignores"
  | .verbose => "--verbose"
  | .quiet => "--quiet"

/-- What an option does to the options before it. -/
def change (o : Options) : Written → Options
  | .directories names => { o with excludedDirectories := o.excludedDirectories ++ names }
  | .extensions names => { o with excludedExtensions := o.excludedExtensions ++ names }
  | .pattern text => { o with excludedPatterns := o.excludedPatterns ++ [text] }
  | .config path => { o with config := some path }
  | .format f => { o with format := f }
  | .color c => { o with color := c }
  | .noDefaultIgnores => { o with noDefaultIgnores := true }
  | .verbose => { o with verbose := true }
  | .quiet => { o with quiet := true }

/-- The option, if it may be given only once. -/
def once? : Written → Option Choice
  | .directories _ | .extensions _ | .pattern _ => none
  | .config _ => some (.setting .config)
  | .format _ => some (.setting .format)
  | .color _ => some (.setting .color)
  | .noDefaultIgnores => some (.switch .noDefaultIgnores)
  | .verbose => some (.switch .verbose)
  | .quiet => some (.switch .quiet)

/-- The names of directories that are written. -/
def directoryNames : Written → List String
  | .directories names => names
  | _ => []

/-- The names of extensions that are written. -/
def extensionNames : Written → List String
  | .extensions names => names
  | _ => []

/-- The patterns that are written. -/
def patterns : Written → List String
  | .pattern text => [text]
  | _ => []

/-- The path of a settings file that is written. -/
def config? : Written → Option String
  | .config path => some path
  | _ => none

/-- The format that is written. -/
def format? : Written → Option OutputFormat
  | .format f => some f
  | _ => none

/-- The colour mode that is written. -/
def color? : Written → Option ColorMode
  | .color c => some c
  | _ => none

theorem config?_eq_some_iff {w : Written} {path : String} : w.config? = some path ↔ w = .config path := by
  cases w <;> simp [config?]

theorem format?_eq_some_iff {w : Written} {f : OutputFormat} : w.format? = some f ↔ w = .format f := by
  cases w <;> simp [format?]

theorem color?_eq_some_iff {w : Written} {c : ColorMode} : w.color? = some c ↔ w = .color c := by
  cases w <;> simp [color?]

/-- What arguments do to options, option by option. Lists grow, and of the others the last one counts. -/
theorem foldl_change_eq (ws : List Written) (o : Options) :
    ws.foldl change o =
      { path := o.path
        excludedDirectories := o.excludedDirectories ++ ws.flatMap directoryNames
        excludedExtensions := o.excludedExtensions ++ ws.flatMap extensionNames
        excludedPatterns := o.excludedPatterns ++ ws.flatMap patterns
        config := (ws.filterMap config?).foldl (fun _ path => some path) o.config
        format := (ws.filterMap format?).foldl (fun _ f => f) o.format
        color := (ws.filterMap color?).foldl (fun _ c => c) o.color
        noDefaultIgnores := o.noDefaultIgnores || ws.contains .noDefaultIgnores
        verbose := o.verbose || ws.contains .verbose
        quiet := o.quiet || ws.contains .quiet } := by
  induction ws generalizing o with
  | nil => simp
  | cons w rest ih =>
    rw [List.foldl_cons, ih]
    cases w <;> simp [change, directoryNames, extensionNames, patterns, config?, format?, color?, List.filterMap_cons]

/-- The argument says what the option says: there are names, without commas, and the path of a settings file is not
empty. -/
def IsPlain : Written → Prop
  | .directories names | .extensions names => names ≠ [] ∧ ∀ name ∈ names, ',' ∉ name.toList
  | .config path => path ≠ ""
  | _ => True

end Written

namespace Line

/-! ## Reading the arguments -/

variable {l : Line}

/-- A reading with one more option. -/
def add (l : Line) (w : Written) : Line :=
  { l with options := w.change l.options, given := w.once?.toList ++ l.given }

theorem takeWhile_name {name : List Char} (hname : '=' ∉ name) (value : List Char) :
    (name ++ '=' :: value).takeWhile (· != '=') = name ∧
      (name ++ '=' :: value).dropWhile (· != '=') = '=' :: value := by
  have hpos : ∀ c ∈ name, (c != '=') = true := by
    intro c hc
    rw [bne_iff_ne]
    rintro rfl
    exact hname hc
  rw [List.takeWhile_append_of_pos hpos, List.dropWhile_append_of_pos hpos]
  simp

/-- An argument with a value behind an equals sign is the option with this value, whatever the value is. -/
theorem feed_valued (hkept : l.kept = none) (hended : l.ended = false) (lead name : String) {setting : Setting}
    (hlead : lead.toList = '-' :: '-' :: (name.toList ++ ['='])) (hname : '=' ∉ name.toList)
    (hchoice : Choice.ofLong? name = some (.setting setting)) (value : String) :
    l.feed (lead ++ value) = l.store setting value := by
  have hchars : (lead ++ value).toList = '-' :: '-' :: (name.toList ++ '=' :: value.toList) := by
    rw [String.toList_append, hlead]
    simp
  have hlong : l.feedLong (name.toList ++ '=' :: value.toList) = l.store setting value := by
    rcases takeWhile_name hname value.toList with ⟨htake, hdrop⟩
    simp only [feedLong, htake, hdrop, String.ofList_toList, hchoice, take, settle, hkept]
    rfl
  -- the equals sign tells the argument from the end of the options
  obtain ⟨c, rest, hcons⟩ : ∃ c rest, name.toList ++ '=' :: value.toList = c :: rest :=
    List.exists_cons_of_ne_nil (by simp)
  rw [hcons] at hchars hlong
  rw [feed, hended, hchars]
  exact hlong

theorem once_of_new {choice : Choice} (hnew : choice ∉ l.given) :
    l.once choice = .ok { l with given := choice :: l.given } := by
  rw [once, if_neg (by simpa using hnew)]

/-- A switch that is new is turned on. -/
theorem turn_of_new (hkept : l.kept = none) {switch : Switch} (hhelp : switch ≠ .help) (hversion : switch ≠ .version)
    (hnew : .switch switch ∉ l.given) :
    l.turn switch =
      .ok { l with options := l.options.turnOn switch, given := .switch switch :: l.given } := by
  have hsettle : l.settle = .ok l := by rw [settle, hkept]
  cases switch with
  | help => exact absurd rfl hhelp
  | version => exact absurd rfl hversion
  | noDefaultIgnores | verbose | quiet =>
    simp only [turn, hsettle, bind, Except.bind, once_of_new hnew]
    rfl

/-- Reading the argument of an option adds the option, unless it is there already and may not come again. -/
theorem feed_argument {w : Written} (hkept : l.kept = none) (hended : l.ended = false) (hplain : w.IsPlain)
    (hnew : ∀ choice ∈ w.once?, choice ∉ l.given) : l.feed w.argument = .ok (l.add w) := by
  cases w with
  | directories names =>
    have hfeed := feed_valued hkept hended "--exclude-dir=" "exclude-dir" (by decide) (by decide) rfl
      (",".intercalate names)
    rw [store, splitCommas_intercalate hplain.1 hplain.2] at hfeed
    exact hfeed
  | extensions names =>
    have hfeed := feed_valued hkept hended "--exclude-ext=" "exclude-ext" (by decide) (by decide) rfl
      (",".intercalate names)
    rw [store, splitCommas_intercalate hplain.1 hplain.2] at hfeed
    exact hfeed
  | pattern text =>
    exact feed_valued hkept hended "--exclude-pattern=" "exclude-pattern" (by decide) (by decide) rfl text
  | config path =>
    have hfeed := feed_valued hkept hended "--config=" "config" (by decide) (by decide) rfl path
    have hne : path ≠ "" := hplain
    have hpath : path.isEmpty = false := by simpa using hne
    rw [store, once_of_new (hnew _ rfl)] at hfeed
    refine hfeed.trans ?_
    simp only [bind, Except.bind, hpath]
    rfl
  | format f =>
    have hfeed := feed_valued hkept hended "--format=" "format" (by decide) (by decide) rfl f.name
    rw [store, once_of_new (hnew _ rfl)] at hfeed
    refine hfeed.trans ?_
    simp only [bind, Except.bind, f.ofString?_name]
    rfl
  | color c =>
    have hfeed := feed_valued hkept hended "--color=" "color" (by decide) (by decide) rfl c.name
    rw [store, once_of_new (hnew _ rfl)] at hfeed
    refine hfeed.trans ?_
    simp only [bind, Except.bind, c.ofString?_name]
    rfl
  | noDefaultIgnores =>
    have hfeed : l.feed "--no-default-ignores" = l.turn .noDefaultIgnores := by
      rw [feed, hended]
      rfl
    exact hfeed.trans (turn_of_new hkept (by decide) (by decide) (hnew _ rfl))
  | verbose =>
    have hfeed : l.feed "--verbose" = l.turn .verbose := by
      rw [feed, hended]
      rfl
    exact hfeed.trans (turn_of_new hkept (by decide) (by decide) (hnew _ rfl))
  | quiet =>
    have hfeed : l.feed "--quiet" = l.turn .quiet := by
      rw [feed, hended]
      rfl
    exact hfeed.trans (turn_of_new hkept (by decide) (by decide) (hnew _ rfl))

/-- Reading arguments adds all their options, one after the other. -/
theorem foldlM_feed_arguments {ws : List Written} (hkept : l.kept = none) (hended : l.ended = false)
    (hplain : ∀ w ∈ ws, w.IsPlain) (honce : (ws.filterMap Written.once?).Nodup)
    (hnew : ∀ choice ∈ ws.filterMap Written.once?, choice ∉ l.given) :
    (ws.map Written.argument).foldlM feed l = .ok (ws.foldl add l) := by
  induction ws generalizing l with
  | nil => rfl
  | cons w rest ih =>
    have hsplit : (w :: rest).filterMap Written.once? = w.once?.toList ++ rest.filterMap Written.once? := by
      rw [List.filterMap_cons]
      cases w.once? <;> rfl
    rw [hsplit, List.nodup_append] at honce
    rw [hsplit] at hnew
    have hfirst : l.feed w.argument = .ok (l.add w) := by
      apply feed_argument hkept hended (hplain w List.mem_cons_self)
      intro choice hchoice
      exact hnew choice (List.mem_append_left _ (Option.mem_toList.2 hchoice))
    have hkept' : (l.add w).kept = none := hkept
    have hended' : (l.add w).ended = false := hended
    have hrest : (rest.map Written.argument).foldlM feed (l.add w) = .ok (rest.foldl add (l.add w)) := by
      apply ih hkept' hended'
      · intro v hv
        exact hplain v (List.mem_cons_of_mem w hv)
      · exact honce.2.1
      · -- a choice that comes later is neither this one nor an earlier one
        intro choice hchoice hgiven
        rcases List.mem_append.1 hgiven with hthis | hearlier
        · exact honce.2.2 choice hthis choice hchoice rfl
        · exact hnew choice (List.mem_append_right _ hchoice) hearlier
    rw [List.map_cons, List.foldlM_cons, hfirst]
    exact hrest

/-- What is read of arguments: their changes to the options, and no path yet. -/
theorem foldl_add_eq (ws : List Written) (l : Line) :
    (ws.foldl add l).options = ws.foldl Written.change l.options ∧ (ws.foldl add l).kept = l.kept ∧
      (ws.foldl add l).ended = l.ended ∧
      (Choice.setting .path ∈ (ws.foldl add l).given ↔ .setting .path ∈ l.given) := by
  induction ws generalizing l with
  | nil => simp
  | cons w rest ih =>
    have hpath : Choice.setting .path ∉ w.once?.toList := by cases w <;> simp [Written.once?]
    rcases ih (l.add w) with ⟨hoptions, hkept, hended, hgiven⟩
    refine ⟨hoptions, hkept, hended, hgiven.trans ?_⟩
    simp [add, hpath]

/-- Behind the end of the options stands the path, whatever it is. -/
theorem foldlM_feed_path (hkept : l.kept = none) (hended : l.ended = false) (hnew : Choice.setting .path ∉ l.given)
    (path : String) :
    ["--", path].foldlM feed l = .ok { l with ended := true, kept := some (.path, some path) } := by
  have hend : l.feed "--" = .ok { l with ended := true } := by
    rw [feed, hended]
    rfl
  have hpath : feed { l with ended := true } path =
      .ok { l with ended := true, kept := some (.path, some path) } := by
    have hgiven : l.given.contains (.setting .path) = false := by simpa using hnew
    simp only [feed, feedValue, settle, hgiven, hkept]
    rfl
  rw [List.foldlM_cons, hend]
  show [path].foldlM feed { l with ended := true } = _
  rw [List.foldlM_cons, hpath]
  rfl

/-- A path that is kept back is taken over, unless it is empty. -/
theorem settle_path (l : Line) {path : String} (hne : path ≠ "")
    (hnew : Choice.setting .path ∉ l.given) :
    settle { l with kept := some (.path, some path) } =
      .ok { l with kept := none, options.path := path, given := .setting .path :: l.given } := by
  have hfull : path.isEmpty = false := by simpa using hne
  have honce : once { l with kept := none } (.setting .path) =
      .ok { l with kept := none, given := .setting .path :: l.given } := once_of_new hnew
  simp only [settle, store, honce, bind, Except.bind, hfull]
  rfl

end Line

/-! ## All options -/

namespace Options

/-- Options that can be written out: the names of directories and extensions hold no commas, and no path is empty. -/
structure Writable (o : Options) : Prop where
  path : o.path ≠ ""
  config : o.config ≠ some ""
  directories : ∀ name ∈ o.excludedDirectories, ',' ∉ name.toList
  extensions : ∀ name ∈ o.excludedExtensions, ',' ∉ name.toList

/-- Arguments write options out, but for the path. Names of directories, names of extensions and patterns stand in their
order, names alone or several in one argument. The other options stand anywhere between them, none of them twice, and
format and colour mode may be left out where they are the default. -/
structure Spells (o : Options) (ws : List Written) : Prop where
  directories : ws.flatMap Written.directoryNames = o.excludedDirectories
  extensions : ws.flatMap Written.extensionNames = o.excludedExtensions
  patterns : ws.flatMap Written.patterns = o.excludedPatterns
  config : ∀ path, .config path ∈ ws ↔ o.config = some path
  format : (∀ f, .format f ∈ ws → f = o.format) ∧ (o.format ≠ .text → .format o.format ∈ ws)
  color : (∀ c, .color c ∈ ws → c = o.color) ∧ (o.color ≠ .auto → .color o.color ∈ ws)
  noDefaultIgnores : .noDefaultIgnores ∈ ws ↔ o.noDefaultIgnores = true
  verbose : .verbose ∈ ws ↔ o.verbose = true
  quiet : .quiet ∈ ws ↔ o.quiet = true
  grouped : .directories [] ∉ ws ∧ .extensions [] ∉ ws
  once : (ws.filterMap Written.once?).Nodup

variable {o : Options} {ws : List Written}

/-- If whatever comes last has one value, and so has the start if nothing comes, the value is that one. -/
theorem foldl_last {α β : Type} {g : α → β} {v : β} {as : List α} (hall : ∀ a ∈ as, g a = v) {start : β}
    (hnil : as = [] → start = v) : as.foldl (fun _ a => g a) start = v := by
  induction as generalizing start with
  | nil => exact hnil rfl
  | cons a rest ih =>
    apply ih
    · intro b hb
      exact hall b (List.mem_cons_of_mem a hb)
    · intro _
      exact hall a List.mem_cons_self

/-- Arguments that say one value only, and say it unless the value is there from the start, leave this value. -/
theorem foldl_said {α β : Type} {said : Written → Option α} {spell : α → Written}
    (hsaid : ∀ {w a}, said w = some a ↔ w = spell a) {g : α → β} {start v : β} (hall : ∀ a, spell a ∈ ws → g a = v)
    (hsome : start ≠ v → ∃ a, spell a ∈ ws) : (ws.filterMap said).foldl (fun _ a => g a) start = v := by
  apply foldl_last
  · intro a ha
    rcases List.mem_filterMap.1 ha with ⟨w, hw, hwritten⟩
    exact hall a (hsaid.1 hwritten ▸ hw)
  · intro hnil
    apply Classical.byContradiction
    intro hne
    rcases hsome hne with ⟨a, ha⟩
    have hmem : a ∈ ws.filterMap said := List.mem_filterMap.2 ⟨_, ha, hsaid.2 rfl⟩
    rw [hnil] at hmem
    exact List.not_mem_nil hmem

/-- The arguments change the options of an empty command line to the options that they write out. -/
theorem Spells.foldl_change (h : Spells o ws) : ws.foldl Written.change {} = { o with path := "." } := by
  -- the last argument for an option decides, and all of them say the same
  have hconfig : (ws.filterMap Written.config?).foldl (fun _ path => some path) none = o.config := by
    apply foldl_said Written.config?_eq_some_iff
    · intro path hpath
      exact ((h.config path).1 hpath).symm
    · intro hne
      rcases Option.ne_none_iff_exists'.1 (Ne.symm hne) with ⟨path, hpath⟩
      exact ⟨path, (h.config path).2 hpath⟩
  have hformat : (ws.filterMap Written.format?).foldl (fun _ f => f) OutputFormat.text = o.format := by
    apply foldl_said Written.format?_eq_some_iff h.format.1
    intro hne
    exact ⟨o.format, h.format.2 (Ne.symm hne)⟩
  have hcolor : (ws.filterMap Written.color?).foldl (fun _ c => c) ColorMode.auto = o.color := by
    apply foldl_said Written.color?_eq_some_iff h.color.1
    intro hne
    exact ⟨o.color, h.color.2 (Ne.symm hne)⟩
  have hswitch : ∀ {w : Written} {b : Bool}, (w ∈ ws ↔ b = true) → ws.contains w = b := by
    intro w b hiff
    rw [Bool.eq_iff_iff, List.contains_iff_mem]
    exact hiff
  rw [Written.foldl_change_eq]
  simp only [hconfig, hformat, hcolor, hswitch h.noDefaultIgnores, hswitch h.verbose, hswitch h.quiet, h.directories,
    h.extensions, h.patterns, List.nil_append, Bool.false_or]

/-- Names that are written out hold no commas, so each argument says what its option says. -/
theorem Spells.isPlain (h : Spells o ws) (ho : o.Writable) : ∀ w ∈ ws, w.IsPlain := by
  intro w hw
  cases w with
  | directories names =>
    constructor
    · rintro rfl
      exact h.grouped.1 hw
    · intro name hname
      apply ho.directories
      rw [← h.directories]
      exact List.mem_flatMap.2 ⟨_, hw, hname⟩
  | extensions names =>
    constructor
    · rintro rfl
      exact h.grouped.2 hw
    · intro name hname
      apply ho.extensions
      rw [← h.extensions]
      exact List.mem_flatMap.2 ⟨_, hw, hname⟩
  | config path =>
    rintro rfl
    exact ho.config ((h.config "").1 hw)
  | pattern text => trivial
  | format f => trivial
  | color c => trivial
  | noDefaultIgnores => trivial
  | verbose => trivial
  | quiet => trivial

/-- The options that stand alone, written out. -/
def writeSingle (o : Options) : List Written :=
  o.config.toList.map .config ++ [.format o.format, .color o.color]
    ++ (if o.noDefaultIgnores then [.noDefaultIgnores] else []) ++ (if o.verbose then [.verbose] else [])
    ++ (if o.quiet then [.quiet] else [])

/-- Options written out one by one: every name alone, and format and colour mode in any case. -/
def writeOut (o : Options) : List Written :=
  o.excludedDirectories.map (fun name => .directories [name])
    ++ o.excludedExtensions.map (fun name => .extensions [name])
    ++ o.excludedPatterns.map .pattern ++ o.writeSingle

/-- Each option that stands alone is written at most once, and it is no name and no pattern. -/
theorem writeSingle_once (o : Options) :
    (o.writeSingle.filterMap Written.once?).Nodup ∧ o.writeSingle.flatMap Written.directoryNames = [] ∧
      o.writeSingle.flatMap Written.extensionNames = [] ∧ o.writeSingle.flatMap Written.patterns = [] := by
  rcases o with ⟨path, directories, extensions, patterns, noDefaultIgnores, config, format, color, verbose, quiet⟩
  unfold writeSingle
  cases config <;> cases noDefaultIgnores <;> cases verbose <;> cases quiet <;>
    simp [Written.once?, Written.directoryNames, Written.extensionNames, Written.patterns]

theorem spells_writeOut (o : Options) : Spells o o.writeOut := by
  have hnil : ∀ names : List String, names.flatMap (fun _ => ([] : List String)) = [] := by
    intro names
    exact List.flatMap_eq_nil_iff.2 fun _ _ => rfl
  have hnone : ∀ names : List String, names.filterMap (fun _ => (none : Option Choice)) = [] := by
    intro names
    exact List.filterMap_eq_nil_iff.2 fun _ _ => rfl
  rcases o.writeSingle_once with ⟨honce, hdirectories, hextensions, hpatterns⟩
  constructor
  case directories => simp [writeOut, hdirectories, Written.directoryNames, List.flatMap_map, hnil]
  case extensions => simp [writeOut, hextensions, Written.extensionNames, List.flatMap_map, hnil]
  case patterns => simp [writeOut, hpatterns, Written.patterns, List.flatMap_map, hnil]
  case once => simpa [writeOut, Written.once?, List.filterMap_map, Function.comp_def, hnone] using honce
  case config =>
    intro path
    simp [writeOut, writeSingle]
  all_goals simp [writeOut, writeSingle]

/-- Options are written out in some way, and in whatever way it is done, they are what is read: names with any
characters but commas, patterns and paths with any characters at all, values that begin with hyphens, hold equals signs
or are empty where they may be. The path stands at the end, where no more options are looked for. -/
theorem parse_spelled (ho : o.Writable) :
    (∃ ws, Spells o ws) ∧
      ∀ ws, Spells o ws → parse (ws.map Written.argument ++ ["--", o.path]) = .ok o := by
  refine ⟨⟨o.writeOut, spells_writeOut o⟩, ?_⟩
  intro ws h
  have hread : (ws.map Written.argument).foldlM Line.feed {} = .ok (ws.foldl Line.add {}) :=
    Line.foldlM_feed_arguments rfl rfl (h.isPlain ho) h.once fun choice _ => List.not_mem_nil
  rcases Line.foldl_add_eq ws {} with ⟨hoptions, hkept, hended, hgiven⟩
  rw [h.foldl_change] at hoptions
  -- from here on only what was read matters, not how
  generalize ws.foldl Line.add {} = l at hread hoptions hkept hended hgiven
  have hnew : Choice.setting .path ∉ l.given := fun hmem => List.not_mem_nil (hgiven.1 hmem)
  rw [parse_eq_ok_iff]
  refine ⟨{ l with ended := true, kept := none, options.path := o.path, given := .setting .path :: l.given }, ?_, ?_⟩
  · rw [List.foldlM_append, hread]
    show ["--", o.path].foldlM Line.feed l >>= Line.settle = _
    rw [Line.foldlM_feed_path hkept hended hnew]
    exact Line.settle_path { l with ended := true } ho.path hnew
  · show { l.options with path := o.path } = o
    rw [hoptions]

/-- Values that look like options, a name that is empty, and two names in one argument. -/
theorem parse_spelled_hyphens :
    parse ["--exclude-dir=-a,", "--quiet", "--exclude-pattern=a,b", "--config=--", "--exclude-dir=b=c", "--format=json",
        "--exclude-pattern=", "--exclude-ext=x", "--color=never", "--", "--help"] =
      .ok { path := "--help", excludedDirectories := ["-a", "", "b=c"], excludedExtensions := ["x"],
            excludedPatterns := ["a,b", ""], config := some "--", format := .json, color := .never,
            quiet := true } := by
  have hwritable : Writable
      { path := "--help", excludedDirectories := ["-a", "", "b=c"], excludedExtensions := ["x"],
        excludedPatterns := ["a,b", ""], config := some "--", format := .json, color := .never, quiet := true } := by
    constructor <;> decide
  refine (parse_spelled hwritable).2 [.directories ["-a", ""], .quiet, .pattern "a,b", .config "--",
    .directories ["b=c"], .format .json, .pattern "", .extensions ["x"], .color .never] ?_
  constructor
  case config =>
    intro path
    simp [eq_comm]
  case once => decide
  all_goals simp [Written.directoryNames, Written.extensionNames, Written.patterns]

end Options

end LineCensus
