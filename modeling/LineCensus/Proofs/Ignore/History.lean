import LineCensus.Proofs.Ignore.Additions

/-!
# LineCensus.Proofs.Ignore.History — rules over a run of additions

An addition either fails because its text is no pattern, and then the rules stay as they are, or it adds what it names.
Whether it fails does not depend on the rules, so a run is known from its additions.

1. `Addition.source?`, `Addition.accepted?`: the text that an addition is about, and the same if it is a pattern.
2. `add?_eq_error_iff`: when an addition fails, and how. `apply_of_error`, `mem_directories_apply`, `sources_apply`:
   what becomes of the rules.
3. `mem_directories_applyAll`, `sources_applyAll`: what a run comes to.
4. `Grows.enters_eq_false`, `Grows.includes_eq_false`, `grows_take`: what is left out after some additions of a run is
   left out after all later ones.
5. `applyAll_history`: all of it.
-/

namespace LineCensus

open Pattern (Compiles)

namespace Rules

variable {r r' : Rules} {a : Addition} {failure : Failure}

/-! ## One addition -/

/-- The text that an addition reads as a pattern. The name of a directory is not read. -/
def Addition.source? : Addition → Option String
  | .directory _ => none
  | .pattern text => some text
  | .extension ending => some (extensionPattern ending)

/-- The text of the pattern that an addition adds. -/
def Addition.accepted? (a : Addition) : Option String := a.source?.filter (Compiles ·)

theorem accepted?_of_compiles {source : String} (hsource : a.source? = some source) (h : Compiles source) :
    a.accepted? = some source := by
  rw [Addition.accepted?, Option.filter_eq_some_iff]
  exact ⟨hsource, decide_eq_true h⟩

theorem accepted?_of_not_compiles {source : String} (hsource : a.source? = some source) (h : ¬Compiles source) :
    a.accepted? = none := by
  rw [Addition.accepted?, hsource]
  exact if_neg (by simpa using h)

/-- An addition is that of a directory, or that of the pattern with its text. -/
theorem add?_cases (r : Rules) (a : Addition) :
    (∃ name, a = .directory name ∧ r.add? a = .ok (r.addDirectory name)) ∨
      ∃ source, a.source? = some source ∧ r.add? a = r.addPattern source := by
  cases a with
  | directory name => exact .inl ⟨name, rfl, rfl⟩
  | pattern source => exact .inr ⟨source, rfl, rfl⟩
  | extension extension => exact .inr ⟨extensionPattern extension, rfl, rfl⟩

theorem addPattern_eq_error_iff {source : String} :
    r.addPattern source = .error failure ↔
      ∃ fault, Pattern.compile source = .error fault ∧ failure = .badPattern source fault.message := by
  cases hcompile : Pattern.compile source with
  | ok p =>
    have hadd : r.addPattern source = .ok { r with patterns := r.patterns ++ [p] } :=
      addPattern_eq_ok_iff.2 ⟨p, Pattern.source_of_compile hcompile, rfl⟩
    simp [hadd]
  | error fault =>
    have hadd : r.addPattern source = .error (.badPattern source fault.message) := by
      rw [addPattern, Pattern.require_of_error hcompile]
      rfl
    simp [hadd, eq_comm]

/-- An addition fails if the text it is about is no pattern, and the failure names this text. -/
theorem add?_eq_error_iff :
    r.add? a = .error failure ↔
      ∃ source fault, a.source? = some source ∧ Pattern.compile source = .error fault ∧
        failure = .badPattern source fault.message := by
  rcases add?_cases r a with ⟨name, rfl, hadd⟩ | ⟨source, hsource, hadd⟩
  · simp [hadd, Addition.source?]
  · rw [hadd, addPattern_eq_error_iff]
    simp [hsource]

/-- An addition that fails leaves the rules as they are. -/
theorem apply_of_error (h : r.add? a = .error failure) : r.apply a = r := by
  rw [apply, h]
  rfl

theorem apply_of_ok (h : r.add? a = .ok r') : r.apply a = r' := by
  rw [apply, h]
  rfl

/-- Only the name of a directory is added to those of the rules. -/
theorem mem_directories_apply {name : String} :
    name ∈ (r.apply a).directories ↔ name ∈ r.directories ∨ a = .directory name := by
  rcases add?_cases r a with ⟨other, rfl, hadd⟩ | ⟨source, hsource, hadd⟩
  · rw [apply_of_ok hadd, addDirectory, NameSet.mem_insert, or_comm, Addition.directory.injEq, eq_comm]
  · have hnot : a ≠ .directory name := by
      rintro rfl
      cases hsource
    have hsame : (r.apply a).directories = r.directories := by
      cases hpattern : r.addPattern source with
      | error failure => rw [apply_of_error (hadd.trans hpattern)]
      | ok r' =>
        rcases addPattern_eq_ok_iff.1 hpattern with ⟨p, -, rfl⟩
        rw [apply_of_ok (hadd.trans hpattern)]
    simp [hsame, hnot]

/-- The text of a pattern that is added comes behind those of the rules. -/
theorem sources_apply (r : Rules) (a : Addition) :
    (r.apply a).patterns.map (·.source) = r.patterns.map (·.source) ++ a.accepted?.toList := by
  rcases add?_cases r a with ⟨name, rfl, hadd⟩ | ⟨source, hsource, hadd⟩
  · rw [apply_of_ok hadd]
    exact (List.append_nil _).symm
  · cases hpattern : r.addPattern source with
    | error failure =>
      rcases addPattern_eq_error_iff.1 hpattern with ⟨fault, hfault, -⟩
      have hnot : ¬Compiles source := Pattern.not_compiles hfault
      rw [apply_of_error (hadd.trans hpattern), accepted?_of_not_compiles hsource hnot]
      exact (List.append_nil _).symm
    | ok r' =>
      rcases addPattern_eq_ok_iff.1 hpattern with ⟨p, rfl, rfl⟩
      have hcompiles : Compiles p.source := Pattern.compiles_source p
      rw [apply_of_ok (hadd.trans hpattern), accepted?_of_compiles hsource hcompiles]
      exact List.map_append

/-! ## Runs -/

theorem applyAll_append (r : Rules) (front back : List Addition) :
    r.applyAll (front ++ back) = (r.applyAll front).applyAll back := List.foldl_append

/-- A run adds the directories that it names. -/
theorem mem_directories_applyAll {additions : List Addition} {name : String} :
    name ∈ (r.applyAll additions).directories ↔ name ∈ r.directories ∨ .directory name ∈ additions := by
  induction additions generalizing r with
  | nil => simp [applyAll]
  | cons a rest ih =>
    have hrest : name ∈ (r.applyAll (a :: rest)).directories ↔
        name ∈ (r.apply a).directories ∨ .directory name ∈ rest := ih
    rw [hrest, mem_directories_apply, List.mem_cons, or_assoc, eq_comm (a := a)]

/-- A run adds the texts that are patterns, in their order, behind those that were there. -/
theorem sources_applyAll (r : Rules) (additions : List Addition) :
    (r.applyAll additions).patterns.map (·.source) =
      r.patterns.map (·.source) ++ additions.filterMap (·.accepted?) := by
  induction additions generalizing r with
  | nil => exact (List.append_nil _).symm
  | cons a rest ih =>
    have hrest : (r.applyAll (a :: rest)).patterns.map (·.source) =
        (r.apply a).patterns.map (·.source) ++ rest.filterMap (·.accepted?) := ih (r.apply a)
    rw [hrest, sources_apply, List.append_assoc]
    cases haccepted : a.accepted? with
    | none => rw [List.filterMap_cons_none haccepted, Option.toList_none, List.nil_append]
    | some source => rw [List.filterMap_cons_some haccepted, Option.toList_some, List.singleton_append]

/-! ## What stays left out -/

theorem Grows.enters_eq_false (h : r.Grows r') {name : Name} (hname : r.enters name = false) :
    r'.enters name = false := by
  rw [← Bool.not_eq_true] at hname ⊢
  exact mt h.enters hname

theorem Grows.includes_eq_false (h : r.Grows r') {path : Bytes} (hpath : r.includes path = false) :
    r'.includes path = false := by
  rw [← Bool.not_eq_true] at hpath ⊢
  exact mt h.includes hpath

/-- After more additions of a run the rules have grown. -/
theorem grows_take (r : Rules) (additions : List Addition) {i j : Nat} (h : i ≤ j) :
    (r.applyAll (additions.take i)).Grows (r.applyAll (additions.take j)) := by
  have hfront : additions.take i = (additions.take j).take i := by rw [List.take_take, Nat.min_eq_left h]
  have hcut : additions.take j = additions.take i ++ (additions.take j).drop i := by
    rw [hfront, List.take_append_drop]
  rw [hcut, applyAll_append]
  exact grows_applyAll _ _

/-- A run of additions, some of which may fail. At every point of the run an addition fails exactly if it is about a
text that is no pattern; the failure names this text, and the rules stay as they are. At the end the directories are
those from the start and all that were named, and the patterns are those from the start and then the texts that are
patterns, in the order of their additions. A directory or a file that is left out at some point, by its name or as a
whole, is left out at every later point. -/
theorem applyAll_history (r : Rules) (additions : List Addition) :
    let after := fun count => r.applyAll (additions.take count)
    (∀ count a, additions[count]? = some a →
      (∀ failure, (after count).add? a = .error failure ↔
        ∃ source fault, a.source? = some source ∧ Pattern.compile source = .error fault ∧
          failure = .badPattern source fault.message) ∧
      ∀ failure, (after count).add? a = .error failure → after (count + 1) = after count) ∧
    (∀ name, name ∈ (r.applyAll additions).directories ↔ name ∈ r.directories ∨ .directory name ∈ additions) ∧
    (r.applyAll additions).patterns.map (·.source) =
      r.patterns.map (·.source) ++ additions.filterMap (·.accepted?) ∧
    ∀ i j, i ≤ j →
      (∀ name, (after i).ignoresDirectory name = true → (after j).ignoresDirectory name = true) ∧
      (∀ name, (after i).matchesName name = true → (after j).matchesName name = true) ∧
      (∀ path, (after i).includes path = false → (after j).includes path = false) ∧
      ∀ name, (after i).enters name = false → (after j).enters name = false := by
  intro after
  refine ⟨?_, ?_, sources_applyAll r additions, ?_⟩
  · intro count a ha
    refine ⟨fun failure => add?_eq_error_iff, ?_⟩
    intro failure hfailure
    have hnext : additions.take (count + 1) = additions.take count ++ [a] := by
      rw [List.take_add_one, ha]
      rfl
    show r.applyAll (additions.take (count + 1)) = after count
    rw [hnext, applyAll_append]
    exact apply_of_error hfailure
  · intro name
    exact mem_directories_applyAll
  · intro i j hij
    have hgrows : (after i).Grows (after j) := grows_take r additions hij
    refine ⟨?_, ?_, ?_, ?_⟩
    · intro name hname
      exact hgrows.ignoresDirectory hname
    · intro name hname
      exact hgrows.matchesName hname
    · intro path hpath
      exact hgrows.includes_eq_false hpath
    · intro name hname
      exact hgrows.enters_eq_false hname

/-- Additions of which the second and the fourth fail. -/
def mixedAdditions : List Addition :=
  [.directory "tmp", .pattern "(", .extension "..c++", .pattern "[", .pattern "^a", .directory "old"]

/-- The second failure names its own text. The directory and the extension in front of it are left out at the end. -/
theorem applyAll_history_mixed :
    let after := fun count => default.applyAll (mixedAdditions.take count)
    (after 3).add? (.pattern "[") = .error (.badPattern "[" Pattern.Fault.unclosedSet.message) ∧
      after 4 = after 3 ∧
      "old" ∈ (default.applyAll mixedAdditions).directories ∧
      (default.applyAll mixedAdditions).patterns.map (·.source) = defaultPatterns ++ ["\\.c\\+\\+$", "^a"] ∧
      (after 1).enters [0x74, 0x6d, 0x70] = false ∧ (after 6).enters [0x74, 0x6d, 0x70] = false := by
  intro after
  rcases applyAll_history default mixedAdditions with ⟨hcalls, hdirectories, hpatterns, hstays⟩
  rcases hcalls 3 (.pattern "[") rfl with ⟨hfails, hkeeps⟩
  have hfault : Pattern.compile "[" = .error .unclosedSet := by rfl
  have herror : (after 3).add? (.pattern "[") = .error (.badPattern "[" Pattern.Fault.unclosedSet.message) :=
    (hfails _).2 ⟨"[", .unclosedSet, rfl, hfault, rfl⟩
  have hnot : (after 1).enters [0x74, 0x6d, 0x70] = false := by decide +kernel
  refine ⟨herror, hkeeps _ herror, ?_, ?_, hnot, ?_⟩
  · exact (hdirectories "old").2 (.inr (by decide))
  · have haccepted : mixedAdditions.filterMap (·.accepted?) = ["\\.c\\+\\+$", "^a"] := by decide +kernel
    rw [hpatterns, sources_default, haccepted]
  · exact (hstays 1 6 (by decide)).2.2.2 _ hnot

end Rules

end LineCensus
