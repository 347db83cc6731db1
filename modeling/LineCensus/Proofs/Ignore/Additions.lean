import LineCensus.Ignore.Filter
import LineCensus.Proofs.Ignore.Layers

/-!
# LineCensus.Proofs.Ignore.Additions — rules that leave out more

1. `Rules.Grows`: everything that some rules leave out by name is left out by others. `enters_of_grows`,
   `includes_of_grows`: what the others still let through was let through before.
2. `Addition`, `Rules.apply`: one more rule; a text that is no pattern changes nothing. `grows_apply`,
   `grows_applyAll`: rules grow by every addition, and by any number of them.
3. `Settings.Within`: settings that name no more than others. `grows_of_within`: so it is with their rules.
   `within_override`, `within_withoutDefaults`: a command line names more, and settings without the defaults less.
-/

namespace LineCensus

namespace Rules

variable {r r' r'' : Rules}

/-! ## Growing rules -/

/-- All directories and patterns of some rules are among those of others. -/
structure Grows (r r' : Rules) : Prop where
  directories : ∀ name, name ∈ r.directories → name ∈ r'.directories
  patterns : ∀ p, p ∈ r.patterns → p ∈ r'.patterns

theorem Grows.refl (r : Rules) : r.Grows r := ⟨fun _ h => h, fun _ h => h⟩

theorem Grows.trans (h : r.Grows r') (h' : r'.Grows r'') : r.Grows r'' := by
  constructor
  · intro name hname
    exact h'.directories name (h.directories name hname)
  · intro p hp
    exact h'.patterns p (h.patterns p hp)

theorem Grows.ignoresDirectory (h : r.Grows r') {name : String} (hname : r.ignoresDirectory name = true) :
    r'.ignoresDirectory name = true := by
  rw [Rules.ignoresDirectory, NameSet.contains_iff] at hname ⊢
  exact h.directories name hname

theorem Grows.matchesName (h : r.Grows r') {name : List Char} (hname : r.matchesName name = true) :
    r'.matchesName name = true := by
  rw [Rules.matchesName, List.any_eq_true] at hname ⊢
  rcases hname with ⟨p, hp, hoccurs⟩
  exact ⟨p, h.patterns p hp, hoccurs⟩

/-- A directory that grown rules enter was entered before. -/
theorem Grows.enters (h : r.Grows r') {name : Name} (henters : r'.enters name = true) : r.enters name = true := by
  unfold Rules.enters at henters ⊢
  rw [Bool.not_eq_true'] at henters ⊢
  cases hignored : r.ignoresDirectory (String.ofList (Text.decodeLossy name)) with
  | false => rfl
  | true =>
    rw [h.ignoresDirectory hignored] at henters
    cases henters

/-- A file that grown rules count was counted before. -/
theorem Grows.includes (h : r.Grows r') {path : Bytes} (hincludes : r'.includes path = true) :
    r.includes path = true := by
  unfold Rules.includes at hincludes ⊢
  rw [Bool.and_eq_true] at hincludes ⊢
  refine ⟨hincludes.1, ?_⟩
  cases hname : Path.fileName? path with
  | none =>
    rw [hname] at hincludes
    exact hincludes.2
  | some name =>
    rw [hname] at hincludes
    have hnot : r'.matchesName (Text.decodeLossy name) = false := by simpa using hincludes.2
    show (!r.matchesName (Text.decodeLossy name)) = true
    rw [Bool.not_eq_true']
    cases hmatch : r.matchesName (Text.decodeLossy name) with
    | false => rfl
    | true =>
      rw [h.matchesName hmatch] at hnot
      cases hnot

/-! ## Additions -/

/-- One more rule. -/
inductive Addition where
  | directory (name : String)
  | pattern (source : String)
  | extension (extension : String)
deriving DecidableEq, Repr

/-- Tries to add a rule. -/
def add? (r : Rules) : Addition → Except Failure Rules
  | .directory name => .ok (r.addDirectory name)
  | .pattern source => r.addPattern source
  | .extension extension => r.addExtension extension

/-- The rules after an addition: they stay as they are if it fails. -/
def apply (r : Rules) (a : Addition) : Rules := (r.add? a).toOption.getD r

/-- The rules after some additions. -/
def applyAll (r : Rules) (additions : List Addition) : Rules := additions.foldl apply r

theorem grows_addDirectory (r : Rules) (name : String) : r.Grows (r.addDirectory name) := by
  constructor
  · intro x hx
    exact NameSet.mem_insert.2 (.inr hx)
  · intro p hp
    exact hp

theorem grows_addPattern {source : String} (h : r.addPattern source = .ok r') : r.Grows r' := by
  rcases addPattern_eq_ok_iff.1 h with ⟨p, -, rfl⟩
  constructor
  · intro name hname
    exact hname
  · intro q hq
    exact List.mem_append_left [p] hq

/-- Rules grow by an addition. -/
theorem grows_apply (r : Rules) (a : Addition) : r.Grows (r.apply a) := by
  unfold apply
  cases hadd : r.add? a with
  | error failure => exact .refl r
  | ok r' =>
    show r.Grows r'
    cases a with
    | directory name =>
      obtain rfl := Except.ok.inj hadd
      exact grows_addDirectory r name
    | pattern source =>
      have hpattern : r.addPattern source = .ok r' := hadd
      exact grows_addPattern hpattern
    | extension extension =>
      have hpattern : r.addPattern (extensionPattern extension) = .ok r' := hadd
      exact grows_addPattern hpattern

/-- Rules grow by any number of additions. -/
theorem grows_applyAll (r : Rules) (additions : List Addition) : r.Grows (r.applyAll additions) := by
  induction additions generalizing r with
  | nil => exact .refl r
  | cons a rest ih => exact (grows_apply r a).trans (ih (r.apply a))

end Rules

namespace Settings

variable {s s' : Settings} {rules rules' : Rules}

/-! ## Settings that name more -/

/-- Whatever settings name, others name too. -/
structure Within (s s' : Settings) : Prop where
  useDefaults : s.useDefaults = true → s'.useDefaults = true
  directories : ∀ name, name ∈ s.directories → name ∈ s'.directories
  extensions : ∀ extension, extension ∈ s.extensions → extension ∈ s'.extensions
  patterns : ∀ pattern, pattern ∈ s.patterns → pattern ∈ s'.patterns

theorem Within.mem_sources (h : s.Within s') {source : String} (hsource : source ∈ s.sources) :
    source ∈ s'.sources := by
  rcases List.mem_append.1 hsource with hmem | hmem
  · rcases List.mem_map.1 hmem with ⟨extension, hextension, rfl⟩
    exact List.mem_append_left _ (List.mem_map_of_mem (h.extensions extension hextension))
  · exact List.mem_append_right _ (h.patterns source hmem)

/-- The rules of settings grow with what the settings name. -/
theorem grows_of_within (h : s.Within s') (hbuild : s.build = .ok rules) (hbuild' : s'.build = .ok rules') :
    rules.Grows rules' := by
  constructor
  · intro name hname
    rw [mem_directories_of_build hbuild] at hname
    rw [mem_directories_of_build hbuild']
    exact hname.imp (h.directories name) (And.imp_left h.useDefaults)
  · intro p hp
    rw [mem_patterns_iff, sources_of_build hbuild, List.mem_append] at hp
    rw [mem_patterns_iff, sources_of_build hbuild', List.mem_append]
    refine hp.imp (fun hdefault => ?_) h.mem_sources
    split at hdefault
    · rename_i huse
      rw [if_pos (h.useDefaults huse)]
      exact hdefault
    · cases hdefault

/-- A command line that leaves the defaults in force names more than the settings alone. -/
theorem within_override {o : Options} (h : o.noDefaultIgnores = false) (s : Settings) : s.Within (o.override s) := by
  refine ⟨fun huse => ?_, fun _ => List.mem_append_left _, fun _ => List.mem_append_left _,
    fun _ => List.mem_append_left _⟩
  show (s.useDefaults && !o.noDefaultIgnores) = true
  rw [huse, h]
  rfl

/-- Settings with the defaults out of force. -/
def withoutDefaults (s : Settings) : Settings := { s with useDefaults := false }

theorem within_withoutDefaults (s : Settings) : s.withoutDefaults.Within s := by
  refine ⟨fun huse => ?_, fun _ h => h, fun _ h => h, fun _ h => h⟩
  cases huse

/-- Where settings can be built, they can be built without the defaults. -/
theorem exists_build_withoutDefaults (hbuild : s.build = .ok rules) :
    ∃ rules', s.withoutDefaults.build = .ok rules' := by
  rw [build_eq] at hbuild
  rw [build_eq, Rules.exists_addPatterns_iff]
  exact Rules.exists_addPatterns_iff.1 ⟨rules, hbuild⟩

/-- A command line that puts the defaults out of force does so with the settings it is laid over. -/
theorem override_noDefaultIgnores (o : Options) (s : Settings) :
    ({ o with noDefaultIgnores := true } : Options).override s = (o.override s).withoutDefaults := by
  rw [withoutDefaults, Options.override, Options.override, Bool.not_true, Bool.and_false]

end Settings

end LineCensus
