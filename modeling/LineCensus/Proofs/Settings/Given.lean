import LineCensus.Proofs.Toml.Local
import LineCensus.Settings

/-!
# LineCensus.Proofs.Settings.Given — which settings a document gives

1. `texts_eq_ok_iff`, `truth_eq_ok_iff`: the kinds of values that settings have.
2. `Gives`: a table gives settings, each with a value of its kind or its default. `ofValue_table_eq_ok_iff`: these are
   what is read of the table.
3. `load_eq_ok_iff`: so it is with what is loaded from a file. `load_of_get?_eq_none`, `load_of_fault`: what is loaded
   where there is no such table, and where there is no document.
-/

namespace LineCensus.Settings

open Toml

/-! ## What a table gives -/

theorem text_eq_ok_iff {key : String} {v : Value} {s : String} : text key v = .ok s ↔ v = .text s := by
  cases v <;> simp [text]

theorem mapM_text_eq_ok_iff {key : String} {values : List Value} {ss : List String} :
    values.mapM (text key) = .ok ss ↔ values = ss.map .text := by
  induction values generalizing ss with
  | nil =>
    cases ss with
    | nil => simp [pure, Except.pure]
    | cons s rest => simp [pure, Except.pure]
  | cons v rest ih =>
    rw [List.mapM_cons, bind_eq_ok_iff]
    constructor
    · rintro ⟨s, hs, hrest⟩
      rcases bind_eq_ok_iff.1 hrest with ⟨more, hmore, hss⟩
      cases hss
      rw [text_eq_ok_iff.1 hs, ih.1 hmore]
      rfl
    · intro heq
      cases ss with
      | nil => cases heq
      | cons s more =>
        rcases List.cons.inj heq with ⟨rfl, hrest⟩
        refine ⟨s, rfl, ?_⟩
        rw [ih.2 hrest]
        rfl

theorem texts_eq_ok_iff {key : String} {v : Value} {ss : List String} :
    texts key v = .ok ss ↔ v = .array (ss.map .text) := by
  cases v with
  | array values => simp [texts, mapM_text_eq_ok_iff]
  | _ => simp [texts]

theorem truth_eq_ok_iff {key : String} {v : Value} {b : Bool} : truth key v = .ok b ↔ v = .boolean b := by
  cases v <;> simp [truth]

/-- A value or a default: what is given has to be of the right kind. -/
theorem getD_eq_ok_iff {α : Type} {read : Value → Except Fault α} {write : α → Value}
    (hread : ∀ {v a}, read v = .ok a ↔ v = write a) {given : Option Value} {start a : α} :
    (given.map read).getD (pure start) = .ok a ↔ given = none ∧ a = start ∨ given = some (write a) := by
  cases given with
  | none => simp [pure, Except.pure, eq_comm]
  | some v => simp [hread]

theorem truth_getD_eq_ok_iff {key : String} {given : Option Value} {start b : Bool} :
    (given.map (truth key)).getD (pure start) = .ok b ↔ given = none ∧ b = start ∨ given = some (.boolean b) :=
  getD_eq_ok_iff truth_eq_ok_iff

theorem texts_getD_eq_ok_iff {key : String} {given : Option Value} {start ss : List String} :
    (given.map (texts key)).getD (pure start) = .ok ss ↔
      given = none ∧ ss = start ∨ given = some (.array (ss.map .text)) :=
  getD_eq_ok_iff texts_eq_ok_iff

/-- A table gives settings: each one is given, with a value of its kind, or has its default. -/
structure Gives (table : Fields) (s : Settings) : Prop where
  useDefaults : table.get? "use_defaults" = none ∧ s.useDefaults = true ∨
    table.get? "use_defaults" = some (.boolean s.useDefaults)
  directories : table.get? "directories" = none ∧ s.directories = [] ∨
    table.get? "directories" = some (.array (s.directories.map .text))
  extensions : table.get? "extensions" = none ∧ s.extensions = [] ∨
    table.get? "extensions" = some (.array (s.extensions.map .text))
  patterns : table.get? "patterns" = none ∧ s.patterns = [] ∨
    table.get? "patterns" = some (.array (s.patterns.map .text))

theorem ofValue_table_eq_ok_iff {table : Fields} {s : Settings} : ofValue (.table table) = .ok s ↔ Gives table s := by
  have hvalues : ofValue (.table table) =
      ((table.get? "use_defaults").map (truth "use_defaults")).getD (pure true) >>= fun useDefaults =>
        ((table.get? "directories").map (texts "directories")).getD (pure []) >>= fun directories =>
          ((table.get? "extensions").map (texts "extensions")).getD (pure []) >>= fun extensions =>
            ((table.get? "patterns").map (texts "patterns")).getD (pure []) >>= fun patterns =>
              .ok { useDefaults, directories, extensions, patterns } := rfl
  rw [hvalues]
  simp only [bind_eq_ok_iff, truth_getD_eq_ok_iff, texts_getD_eq_ok_iff]
  constructor
  · rintro ⟨useDefaults, h1, directories, h2, extensions, h3, patterns, h4, heq⟩
    cases heq
    exact ⟨h1, h2, h3, h4⟩
  · rintro ⟨h1, h2, h3, h4⟩
    exact ⟨_, h1, _, h2, _, h3, _, h4, rfl⟩

/-! ## What is loaded -/

variable {path bytes : Bytes} {text : List Char} {fields table : Fields} {s : Settings}

theorem load_of_decode? (hdecode : Text.decode? bytes = some text) :
    load path (.ok bytes) = (Settings.parse text).mapError fun fault => .badSettings fault.message := by
  unfold load
  simp only [hdecode]

theorem parse_of_document (hparse : Toml.parse text = .ok fields) : Settings.parse text = ofDocument fields := by
  unfold Settings.parse
  rw [hparse]
  rfl

/-- Text that is no document gives no settings. -/
theorem load_of_fault {fault : Fault} (hdecode : Text.decode? bytes = some text)
    (hparse : Toml.parse text = .error fault) : load path (.ok bytes) = .error (.badSettings fault.message) := by
  rw [load_of_decode? hdecode, Settings.parse, hparse]
  rfl

/-- A document with nothing under `ignore` gives the defaults. -/
theorem load_of_get?_eq_none (hdecode : Text.decode? bytes = some text) (hparse : Toml.parse text = .ok fields)
    (hnone : fields.get? "ignore" = none) : load path (.ok bytes) = .ok {} := by
  rw [load_of_decode? hdecode, parse_of_document hparse, ofDocument, hnone]
  rfl

/-- A document with a table under `ignore` gives what this table gives. -/
theorem load_eq_ok_iff (hdecode : Text.decode? bytes = some text) (hparse : Toml.parse text = .ok fields)
    (htable : fields.get? "ignore" = some (.table table)) : load path (.ok bytes) = .ok s ↔ Gives table s := by
  have hsettings : Settings.parse text = ofValue (.table table) := by
    rw [parse_of_document hparse, ofDocument, htable]
  rw [load_of_decode? hdecode, hsettings, ← ofValue_table_eq_ok_iff]
  cases ofValue (.table table) with
  | error fault => exact ⟨nofun, nofun⟩
  | ok s' => exact ⟨fun h => congrArg _ (Except.ok.inj h), fun h => congrArg _ (Except.ok.inj h)⟩

end LineCensus.Settings
