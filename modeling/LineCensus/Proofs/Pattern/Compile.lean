import LineCensus.Comment.Grammar

/-!
# LineCensus.Proofs.Pattern.Compile — texts that are patterns

1. `Pattern.Compiles`, `Pattern.FirstFault`: a text is a pattern; the first of several texts that is none, and why.
2. `require_eq_ok_iff`, `requireAll_eq_ok_iff`, `requireAll_eq_error_iff`: what reading one text comes to, and what reading
   several comes to, one after the other.
-/

namespace LineCensus

namespace Pattern

/-- A text is a pattern. -/
def Compiles (source : String) : Prop := ∃ p, compile source = .ok p

/-- A text is the first of several that is no pattern, because of a fault. -/
def FirstFault (sources : List String) (source : String) (fault : Fault) : Prop :=
  ∃ front rest, sources = front ++ source :: rest ∧ (∀ x ∈ front, Compiles x) ∧
    compile source = .error fault

theorem compiles_source (p : Pattern) : Compiles p.source := ⟨p, compile_source p⟩

theorem toBool_compile_iff {source : String} : (compile source).toBool = true ↔ Compiles source := by
  unfold Compiles
  cases compile source with
  | ok p => simp [Except.toBool]
  | error fault => simp [Except.toBool]

instance (source : String) : Decidable (Compiles source) := decidable_of_iff _ toBool_compile_iff

theorem not_compiles {source : String} {fault : Fault} (h : compile source = .error fault) :
    ¬Compiles source := by
  rintro ⟨p, hp⟩
  rw [h] at hp
  cases hp

/-! ## The first fault -/

theorem not_firstFault_nil {source : String} {fault : Fault} : ¬FirstFault [] source fault := by
  rintro ⟨front, rest, hsources, -, -⟩
  exact absurd hsources (by simp)

/-- In front of the first fault there may stand one more pattern. -/
theorem firstFault_cons_iff {first source : String} {rest : List String} {fault : Fault}
    (h : Compiles first) : FirstFault (first :: rest) source fault ↔ FirstFault rest source fault := by
  constructor
  · rintro ⟨front, behind, hsources, hfront, hfault⟩
    cases front with
    | nil =>
      rcases List.cons.inj hsources with ⟨rfl, -⟩
      exact absurd h (not_compiles hfault)
    | cons x front =>
      rcases List.cons.inj hsources with ⟨rfl, hrest⟩
      exact ⟨front, behind, hrest, fun y hy => hfront y (List.mem_cons_of_mem _ hy), hfault⟩
  · rintro ⟨front, behind, rfl, hfront, hfault⟩
    refine ⟨first :: front, behind, rfl, ?_, hfault⟩
    intro x hx
    rcases List.mem_cons.1 hx with rfl | hx
    · exact h
    · exact hfront x hx

/-- If the first text is no pattern, it is the first fault. -/
theorem firstFault_cons_of_error {first source : String} {rest : List String} {fault fault' : Fault}
    (h : compile first = .error fault) :
    FirstFault (first :: rest) source fault' ↔ source = first ∧ fault' = fault := by
  constructor
  · rintro ⟨front, behind, hsources, hfront, hfault⟩
    cases front with
    | nil =>
      rcases List.cons.inj hsources with ⟨rfl, -⟩
      rw [h] at hfault
      exact ⟨rfl, (Except.error.inj hfault).symm⟩
    | cons x front =>
      rcases List.cons.inj hsources with ⟨rfl, -⟩
      exact absurd (hfront _ List.mem_cons_self) (not_compiles h)
  · rintro ⟨rfl, rfl⟩
    exact ⟨[], rest, rfl, by simp, h⟩

/-! ## Reading texts -/

/-- A text is read as the pattern that has it. -/
theorem require_eq_ok_iff {source : String} {p : Pattern} : require source = .ok p ↔ p.source = source := by
  unfold require
  constructor
  · intro h
    cases hcompile : compile source with
    | error fault =>
      rw [hcompile] at h
      cases h
    | ok q =>
      rw [hcompile] at h
      obtain rfl : q = p := Except.ok.inj h
      exact source_of_compile hcompile
  · rintro rfl
    rw [compile_source]
    rfl

/-- A text that is no pattern is not read, and the failure names it. -/
theorem require_of_error {source : String} {fault : Fault} (h : compile source = .error fault) :
    require source = .error (.badPattern source fault.message) := by
  rw [require, h]
  rfl

variable {sources : List String} {failure : Failure}

/-- Texts are read as the patterns that have them. -/
theorem requireAll_eq_ok_iff {ps : List Pattern} :
    sources.mapM require = .ok ps ↔ ps.map (·.source) = sources := by
  induction sources generalizing ps with
  | nil =>
    rw [List.mapM_nil, List.map_eq_nil_iff]
    constructor
    · intro h
      exact (Except.ok.inj h).symm
    · rintro rfl
      rfl
  | cons source rest ih =>
    rw [List.mapM_cons]
    constructor
    · intro h
      cases hfirst : require source with
      | error failure =>
        rw [hfirst] at h
        cases h
      | ok p =>
        cases hrest : rest.mapM require with
        | error failure =>
          rw [hfirst, hrest] at h
          cases h
        | ok qs =>
          rw [hfirst, hrest] at h
          obtain rfl : p :: qs = ps := Except.ok.inj h
          rw [List.map_cons, require_eq_ok_iff.1 hfirst, ih.1 hrest]
    · intro h
      cases ps with
      | nil => cases h
      | cons p ps =>
        rcases List.cons.inj h with ⟨hfirst, hrest⟩
        rw [require_eq_ok_iff.2 hfirst, ih.2 hrest]
        rfl

/-- Texts are not read if one of them is no pattern, and the failure names the first such. -/
theorem requireAll_eq_error_iff :
    sources.mapM require = .error failure ↔
      ∃ source fault, FirstFault sources source fault ∧ failure = .badPattern source fault.message := by
  induction sources with
  | nil =>
    rw [List.mapM_nil]
    constructor
    · intro h
      cases h
    · rintro ⟨source, fault, hfault, -⟩
      exact absurd hfault not_firstFault_nil
  | cons first rest ih =>
    rw [List.mapM_cons]
    cases hfirst : compile first with
    | error fault =>
      -- the first text decides, whatever comes behind
      rw [require_of_error hfirst]
      simp only [firstFault_cons_of_error hfirst]
      constructor
      · intro h
        exact ⟨first, fault, ⟨rfl, rfl⟩, (Except.error.inj h).symm⟩
      · rintro ⟨source, fault', ⟨rfl, rfl⟩, rfl⟩
        rfl
    | ok p =>
      obtain rfl := source_of_compile hfirst
      simp only [firstFault_cons_iff (compiles_source p), ← ih]
      rw [require_eq_ok_iff.2 rfl]
      cases rest.mapM require with
      | error failure' => rfl
      | ok ps => simp [bind, Except.bind, pure, Except.pure]

/-- Texts are read if all of them are patterns. -/
theorem exists_requireAll_iff :
    (∃ ps, sources.mapM require = .ok ps) ↔ ∀ source ∈ sources, Compiles source := by
  constructor
  · rintro ⟨ps, h⟩ source hsource
    rw [← requireAll_eq_ok_iff.1 h] at hsource
    rcases List.mem_map.1 hsource with ⟨p, -, rfl⟩
    exact compiles_source p
  · intro h
    cases hread : sources.mapM require with
    | ok ps => exact ⟨ps, rfl⟩
    | error failure =>
      rcases requireAll_eq_error_iff.1 hread with ⟨source, fault, ⟨front, rest, rfl, -, hfault⟩, -⟩
      have hcompiles : Compiles source := h source (by simp)
      exact absurd hcompiles (not_compiles hfault)

end Pattern

namespace Grammar

variable {single blockStart blockEnd : List String} {failure : Failure} {g : Grammar}

/-! ## Grammars -/

/-- The patterns of a grammar that is read are those of the three lists. -/
theorem compile_eq_ok_iff :
    compile single blockStart blockEnd = .ok g ↔
      g.single.map (·.source) = single ∧ g.blockStart.map (·.source) = blockStart ∧
        g.blockEnd.map (·.source) = blockEnd := by
  simp only [← Pattern.requireAll_eq_ok_iff]
  rcases g with ⟨ss, bs, es⟩
  unfold compile
  cases single.mapM Pattern.require with
  | error failure => simp [bind, Except.bind]
  | ok ps =>
    cases blockStart.mapM Pattern.require with
    | error failure => simp [bind, Except.bind]
    | ok qs => cases blockEnd.mapM Pattern.require <;> simp [bind, Except.bind, pure, Except.pure]

/-- A grammar is read like one list of texts: one-line comments, then openings, then ends. -/
theorem compile_eq_error_iff_requireAll :
    compile single blockStart blockEnd = .error failure ↔
      (single ++ blockStart ++ blockEnd).mapM Pattern.require = .error failure := by
  rw [List.mapM_append, List.mapM_append]
  unfold compile
  cases single.mapM Pattern.require with
  | error failure => simp [bind, Except.bind]
  | ok ps =>
    cases blockStart.mapM Pattern.require with
    | error failure => simp [bind, Except.bind]
    | ok qs => cases blockEnd.mapM Pattern.require <;> simp [bind, Except.bind, pure, Except.pure]

/-- A grammar is not read if one of its texts is no pattern, and the failure names the first such. -/
theorem compile_eq_error_iff :
    compile single blockStart blockEnd = .error failure ↔
      ∃ source fault, Pattern.FirstFault (single ++ blockStart ++ blockEnd) source fault ∧
        failure = .badPattern source fault.message := by
  rw [compile_eq_error_iff_requireAll, Pattern.requireAll_eq_error_iff]

/-- A grammar is read if all its texts are patterns. -/
theorem exists_compile_iff :
    (∃ g, compile single blockStart blockEnd = .ok g) ↔
      ∀ source ∈ single ++ blockStart ++ blockEnd, Pattern.Compiles source := by
  rw [← Pattern.exists_requireAll_iff]
  -- both succeed unless they fail, and they fail together
  cases hcompile : compile single blockStart blockEnd with
  | error failure =>
    rw [compile_eq_error_iff_requireAll.1 hcompile]
    simp
  | ok g =>
    cases hread : (single ++ blockStart ++ blockEnd).mapM Pattern.require with
    | error failure =>
      rw [compile_eq_error_iff_requireAll.2 hread] at hcompile
      cases hcompile
    | ok ps => simp

end Grammar

end LineCensus
