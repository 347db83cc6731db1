import LineCensus.Options.Basic
import LineCensus.Proofs.Ignore.Suffix
import LineCensus.Proofs.Pattern.Compile

/-!
# LineCensus.Proofs.Ignore.Layers — rules from settings and a command line

Settings and a command line are two layers that name the same kinds of things. Extensions of both go before patterns
of both, and the first of them that is no pattern decides how the whole fails.

1. `addPatterns_eq`: adding many patterns is reading their texts. `addPatterns_eq_ok_iff`, `addPatterns_eq_error_iff`:
   what this comes to.
2. `Settings.start`, `Settings.sources`: where settings start from and the texts that they add. `build_eq`: building
   is adding these texts.
3. `mem_directories_of_build`, `sources_of_build`: the directories and the patterns of the rules that come out.
4. `Settings.Alike`: lists with the same members. `answers_of_alike`: rules built from them give the same answers.
5. `build_override_layers`: all of it, for two layers.
-/

namespace LineCensus

open Pattern (Compiles FirstFault)

namespace Rules

variable {r r' : Rules} {sources : List String} {failure : Failure}

/-! ## Many patterns -/

theorem addPatterns_cons (r : Rules) (source : String) (rest : List String) :
    r.addPatterns (source :: rest) = r.addPattern source >>= (·.addPatterns rest) := List.foldlM_cons

theorem addPatterns_append (r : Rules) (front rest : List String) :
    r.addPatterns (front ++ rest) = r.addPatterns front >>= (·.addPatterns rest) := List.foldlM_append

/-- Adding extensions is adding their patterns. -/
theorem addExtensions_eq (r : Rules) (extensions : List String) :
    r.addExtensions extensions = r.addPatterns (extensions.map extensionPattern) := by
  rw [addPatterns, List.foldlM_map]
  rfl

/-- Adding texts is reading them; what is read is asked in their order, behind the patterns that were there. -/
theorem addPatterns_eq (r : Rules) (sources : List String) :
    r.addPatterns sources =
      (sources.mapM Pattern.require).map fun ps => { r with patterns := r.patterns ++ ps } := by
  induction sources generalizing r with
  | nil =>
    rw [List.mapM_nil]
    show Except.ok r = Except.ok { r with patterns := r.patterns ++ [] }
    rw [List.append_nil]
  | cons source rest ih =>
    rw [addPatterns_cons, List.mapM_cons, addPattern]
    cases Pattern.require source with
    | error failure => rfl
    | ok p =>
      show addPatterns { r with patterns := r.patterns ++ [p] } rest = _
      rw [ih]
      cases rest.mapM Pattern.require with
      | error failure => rfl
      | ok ps => simp [Except.map, bind, Except.bind, pure, Except.pure]

/-- Texts can be added if all of them are patterns, and are asked in their order, behind those that were there. -/
theorem addPatterns_eq_ok_iff :
    r.addPatterns sources = .ok r' ↔
      ∃ ps : List Pattern, ps.map (·.source) = sources ∧ r' = { r with patterns := r.patterns ++ ps } := by
  simp only [← Pattern.requireAll_eq_ok_iff]
  rw [addPatterns_eq]
  cases sources.mapM Pattern.require with
  | error failure => simp [Except.map]
  | ok ps => simp [Except.map, eq_comm]

/-- Texts cannot be added if one of them is no pattern, and the failure names the first such. -/
theorem addPatterns_eq_error_iff :
    r.addPatterns sources = .error failure ↔
      ∃ source fault, FirstFault sources source fault ∧ failure = .badPattern source fault.message := by
  rw [← Pattern.requireAll_eq_error_iff, addPatterns_eq]
  cases sources.mapM Pattern.require with
  | error failure' => simp [Except.map]
  | ok ps => simp [Except.map]

/-- Texts can be added if all of them are patterns. -/
theorem exists_addPatterns_iff :
    (∃ r', r.addPatterns sources = .ok r') ↔ ∀ source ∈ sources, Compiles source := by
  rw [← Pattern.exists_requireAll_iff, addPatterns_eq]
  cases sources.mapM Pattern.require with
  | error failure => simp [Except.map]
  | ok ps => simp [Except.map]

/-! ## Directories -/

theorem mem_addDirectories {names : List String} {name : String} :
    name ∈ (r.addDirectories names).directories ↔ name ∈ r.directories ∨ name ∈ names := by
  induction names generalizing r with
  | nil => simp [addDirectories]
  | cons first rest ih =>
    have hrest : name ∈ (r.addDirectories (first :: rest)).directories ↔
        name ∈ (r.addDirectory first).directories ∨ name ∈ rest := ih
    rw [hrest, addDirectory, NameSet.mem_insert, List.mem_cons, or_comm (a := name = first), or_assoc]

theorem patterns_addDirectories (r : Rules) (names : List String) :
    (r.addDirectories names).patterns = r.patterns := by
  induction names generalizing r with
  | nil => rfl
  | cons first rest ih => exact ih (r.addDirectory first)

/-! ## The default -/

/-- The default rules are the default directories with the default patterns, all of which compile. -/
theorem addPatterns_default :
    (empty.addDirectories defaultDirectories).addPatterns defaultPatterns = .ok default := by
  have hcompiles : ∀ source ∈ defaultPatterns, Compiles source := by
    have hok := addPatterns_defaultPatterns_isOk
    cases hadd : empty.addPatterns defaultPatterns with
    | error failure =>
      rw [hadd] at hok
      cases hok
    | ok r => exact exists_addPatterns_iff.1 ⟨r, hadd⟩
  rcases exists_addPatterns_iff.2 hcompiles with ⟨r, hadd⟩
  rw [default, hadd]
  rfl

theorem mem_directories_default {name : String} :
    name ∈ default.directories ↔ name ∈ defaultDirectories := by
  rcases addPatterns_eq_ok_iff.1 addPatterns_default with ⟨ps, -, hdefault⟩
  rw [hdefault]
  show name ∈ (empty.addDirectories defaultDirectories).directories ↔ _
  rw [mem_addDirectories]
  simp [empty]

theorem sources_default : default.patterns.map (·.source) = defaultPatterns := by
  rcases addPatterns_eq_ok_iff.1 addPatterns_default with ⟨ps, hps, hdefault⟩
  rw [hdefault]
  show ((empty.addDirectories defaultDirectories).patterns ++ ps).map (·.source) = _
  rw [patterns_addDirectories, List.map_append, hps]
  rfl

end Rules

/-! ## Building -/

namespace Settings

variable {s s' : Settings} {rules rules' : Rules}

/-- The rules that settings start from, with their directories. -/
def start (s : Settings) : Rules :=
  (if s.useDefaults then Rules.default else Rules.empty).addDirectories s.directories

/-- The texts of the patterns that settings add: those of the extensions, then the patterns. -/
def sources (s : Settings) : List String := s.extensions.map Rules.extensionPattern ++ s.patterns

/-- Building is adding the texts of the patterns to the rules from which settings start. -/
theorem build_eq (s : Settings) : s.build = s.start.addPatterns s.sources := by
  rw [sources, Rules.addPatterns_append, ← Rules.addExtensions_eq]
  rfl

/-- The directories of the rules: those of the settings, and the default ones if they are in force. -/
theorem mem_directories_of_build (h : s.build = .ok rules) {name : String} :
    name ∈ rules.directories ↔
      name ∈ s.directories ∨ (s.useDefaults = true ∧ name ∈ defaultDirectories) := by
  rw [build_eq] at h
  rcases Rules.addPatterns_eq_ok_iff.1 h with ⟨ps, -, rfl⟩
  show name ∈ s.start.directories ↔ _
  rw [start, Rules.mem_addDirectories, or_comm]
  apply or_congr_right
  cases s.useDefaults with
  | false => simp [Rules.empty]
  | true => simp [Rules.mem_directories_default]

/-- The patterns of the rules: the default ones if they are in force, then those of the settings. -/
theorem sources_of_build (h : s.build = .ok rules) :
    rules.patterns.map (·.source) = (if s.useDefaults then defaultPatterns else []) ++ s.sources := by
  rw [build_eq] at h
  rcases Rules.addPatterns_eq_ok_iff.1 h with ⟨ps, hps, rfl⟩
  show (s.start.patterns ++ ps).map (·.source) = _
  rw [start, Rules.patterns_addDirectories, List.map_append, hps]
  cases s.useDefaults with
  | false => rfl
  | true => rw [if_pos rfl, if_pos rfl, Rules.sources_default]

/-! ## Order and repetition -/

/-- Settings whose lists hold the same, each maybe in another order and more than once. -/
structure Alike (s s' : Settings) : Prop where
  useDefaults : s.useDefaults = s'.useDefaults
  directories : ∀ name, name ∈ s.directories ↔ name ∈ s'.directories
  extensions : ∀ extension, extension ∈ s.extensions ↔ extension ∈ s'.extensions
  patterns : ∀ pattern, pattern ∈ s.patterns ↔ pattern ∈ s'.patterns

theorem Alike.mem_sources_iff (h : s.Alike s') {source : String} :
    source ∈ s.sources ↔ source ∈ s'.sources := by
  simp only [sources, List.mem_append, List.mem_map, h.extensions, h.patterns]

/-- Settings alike can be built together. -/
theorem Alike.exists_build (h : s.Alike s') (hbuild : s.build = .ok rules) :
    ∃ rules', s'.build = .ok rules' := by
  rw [build_eq] at hbuild
  have hcompiles : ∀ source ∈ s.sources, Compiles source := Rules.exists_addPatterns_iff.1 ⟨rules, hbuild⟩
  rw [build_eq, Rules.exists_addPatterns_iff]
  intro source hsource
  exact hcompiles source (h.mem_sources_iff.2 hsource)

/-- A pattern of the rules is known by its text. -/
theorem mem_patterns_iff {p : Pattern} :
    p ∈ rules.patterns ↔ p.source ∈ rules.patterns.map (·.source) := by
  constructor
  · intro hp
    exact List.mem_map_of_mem hp
  · intro hp
    rcases List.mem_map.1 hp with ⟨q, hq, hsource⟩
    exact Pattern.ext_source hsource ▸ hq

/-- Rules built from settings alike answer alike. -/
theorem answers_of_alike (h : s.Alike s') (hbuild : s.build = .ok rules) (hbuild' : s'.build = .ok rules') :
    (∀ name, rules'.ignoresDirectory name = rules.ignoresDirectory name) ∧
      ∀ name, rules'.matchesName name = rules.matchesName name := by
  have hpatterns : ∀ p, p ∈ rules'.patterns ↔ p ∈ rules.patterns := by
    intro p
    rw [mem_patterns_iff, mem_patterns_iff, sources_of_build hbuild, sources_of_build hbuild', List.mem_append,
      List.mem_append, h.mem_sources_iff, h.useDefaults]
  constructor
  · intro name
    rw [Bool.eq_iff_iff, Rules.ignoresDirectory, Rules.ignoresDirectory, NameSet.contains_iff,
      NameSet.contains_iff, mem_directories_of_build hbuild, mem_directories_of_build hbuild', h.directories,
      h.useDefaults]
  · intro name
    rw [Bool.eq_iff_iff, Rules.matchesName, Rules.matchesName, List.any_eq_true, List.any_eq_true]
    simp only [hpatterns]

/-! ## Two layers -/

/-- The rules that settings and a command line come to. They can be built if the text of every extension and every
pattern of both is a pattern, and fail otherwise with the first that is none: the extensions of the settings, those
of the command line, then the patterns of either. Left out are the directories of both, and the default ones if both
layers let them be in force, and the patterns are the default ones, under the same condition, and those of both in the
order just given. Neither the order within the lists nor repetition in them makes a difference to an answer. -/
theorem build_override_layers (s : Settings) (o : Options) :
    let sources := s.extensions.map Rules.extensionPattern ++
      (o.excludedExtensions.map Rules.extensionPattern ++ (s.patterns ++ o.excludedPatterns))
    ((∃ rules, (o.override s).build = .ok rules) ↔ ∀ source ∈ sources, Compiles source) ∧
      (∀ failure, (o.override s).build = .error failure ↔
        ∃ source fault, FirstFault sources source fault ∧ failure = .badPattern source fault.message) ∧
      (∀ rules, (o.override s).build = .ok rules →
        (∀ name, name ∈ rules.directories ↔
          name ∈ s.directories ∨ name ∈ o.excludedDirectories ∨
            (s.useDefaults = true ∧ o.noDefaultIgnores = false ∧ name ∈ defaultDirectories)) ∧
        rules.patterns.map (·.source) =
          (if s.useDefaults = true ∧ o.noDefaultIgnores = false then defaultPatterns else []) ++ sources) ∧
      ∀ (s' : Settings) (o' : Options), (o.override s).Alike (o'.override s') →
        ∀ rules, (o.override s).build = .ok rules →
          ∃ rules', (o'.override s').build = .ok rules' ∧
            (∀ name, rules'.ignoresDirectory name = rules.ignoresDirectory name) ∧
            ∀ name, rules'.matchesName name = rules.matchesName name := by
  intro sources
  have hsources : (o.override s).sources = sources := by
    show (s.extensions ++ o.excludedExtensions).map Rules.extensionPattern ++ (s.patterns ++ o.excludedPatterns) = _
    rw [List.map_append, List.append_assoc]
  have hdefaults : (o.override s).useDefaults = true ↔ s.useDefaults = true ∧ o.noDefaultIgnores = false := by
    show (s.useDefaults && !o.noDefaultIgnores) = true ↔ _
    rw [Bool.and_eq_true, Bool.not_eq_true']
  have hdirectories : (o.override s).directories = s.directories ++ o.excludedDirectories := rfl
  refine ⟨?_, ?_, ?_, ?_⟩
  · rw [build_eq, hsources]
    exact Rules.exists_addPatterns_iff
  · intro failure
    rw [build_eq, hsources]
    exact Rules.addPatterns_eq_error_iff
  · intro rules hbuild
    constructor
    · intro name
      rw [mem_directories_of_build hbuild, hdirectories, List.mem_append, hdefaults, or_assoc, and_assoc]
    · rw [sources_of_build hbuild, hsources]
      simp only [hdefaults]
  · intro s' o' halike rules hbuild
    rcases halike.exists_build hbuild with ⟨rules', hbuild'⟩
    exact ⟨rules', hbuild', answers_of_alike halike hbuild hbuild'⟩

/-- Settings that leave out a directory, an extension and a pattern. -/
def written : Settings := { directories := ["tmp"], extensions := ["..md"], patterns := ["^a"] }

/-- The same with every name given twice. -/
def rewritten : Settings :=
  { directories := ["tmp", "tmp"], extensions := ["..md", "..md"], patterns := ["^a", "^a"] }

/-- A command line that leaves out more, and puts the default rules out of force. -/
def given : Options :=
  { excludedDirectories := ["old"], excludedExtensions := ["c++"], noDefaultIgnores := true }

/-- The extension of the command line goes before the pattern of the settings, and the default directory `target`
is not left out. Names given twice make no difference. A lone parenthesis is no pattern, and the failure names it. -/
theorem build_override_layers_written :
    (given.override written).Alike (given.override rewritten) ∧
      (∃ rules rules', (given.override written).build = .ok rules ∧
        (given.override rewritten).build = .ok rules' ∧
        "old" ∈ rules.directories ∧ ¬"target" ∈ rules.directories ∧
        rules.patterns.map (·.source) = ["\\.md$", "\\.c\\+\\+$", "^a"] ∧
        ∀ name, rules'.matchesName name = rules.matchesName name) ∧
      (({ excludedPatterns := ["("] } : Options).override written).build =
        .error (.badPattern "(" Pattern.Fault.unclosedGroup.message) := by
  have halike : (given.override written).Alike (given.override rewritten) := by
    refine ⟨rfl, ?_, ?_, ?_⟩ <;> intro name <;> simp [Options.override, given, written, rewritten]
  rcases build_override_layers written given with ⟨hok, -, hrules, hanswers⟩
  refine ⟨halike, ?_, ?_⟩
  · rcases hok.2 (by decide +kernel) with ⟨rules, hbuild⟩
    rcases hrules rules hbuild with ⟨hdirectories, hpatterns⟩
    rcases hanswers rewritten given halike rules hbuild with ⟨rules', hbuild', -, hnames⟩
    refine ⟨rules, rules', hbuild, hbuild', ?_, ?_, ?_, hnames⟩
    · rw [hdirectories]
      decide
    · rw [hdirectories]
      decide
    · rw [hpatterns]
      decide +kernel
  · have hbad : Pattern.compile "(" = .error .unclosedGroup := by rfl
    rcases build_override_layers written { excludedPatterns := ["("] } with ⟨-, herror, -, -⟩
    refine (herror _).2 ⟨"(", .unclosedGroup, ⟨["\\.md$", "^a"], [], ?_, ?_, hbad⟩, rfl⟩
    · decide +kernel
    · decide +kernel

end Settings

end LineCensus
