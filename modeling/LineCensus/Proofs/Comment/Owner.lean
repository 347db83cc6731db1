import Mathlib.Data.List.Induction
import LineCensus.Census.Breakdown
import LineCensus.Proofs.Pattern.Compile

/-!
# LineCensus.Proofs.Comment.Owner — the owner of an extension

A registry holds places into its list of languages, and each language that is registered moves some of them. All that
they say is read off the list of languages here:

1. `Registry.attempt`, `attemptAll`: a run of registrations, where a language that cannot be read is passed over.
2. `LastListing`: the last language of a list that lists an extension. `lastListing_concat_iff`: what one more language
   changes.
3. `Indexed`: the owners of a registry are the last languages that list an extension. `Indexed.register`: registering a
   language keeps this, and so `indexed_attemptAll` holds of every run.
4. `language?_eq_some_iff`, `language?_eq_none_iff`: look-up in a registry that is indexed.
5. `attemptAll_owners`: all of it, down to the comments that are counted.
-/

namespace LineCensus

open Pattern (Compiles FirstFault)

/-- The language of a row, unless one of its texts is no pattern. -/
def LanguageRow.language? (row : LanguageRow) : Option Language :=
  (Grammar.compile row.single row.blockStart row.blockEnd).toOption.map fun g => ⟨row.name, row.extensions, g⟩

namespace Registry

/-! ## Runs of registrations -/

/-- Registers the language of a row; if it cannot be read, the registry stays as it is. -/
def attempt (r : Registry) (row : LanguageRow) : Registry :=
  (r.registerSource row.name row.extensions row.single row.blockStart row.blockEnd).toOption.getD r

/-- Registers the languages of rows one after the other, as far as they can be read. -/
def attemptAll (r : Registry) (rows : List LanguageRow) : Registry := rows.foldl attempt r

variable {r : Registry}

/-- An attempt registers the language of the row, if there is one. -/
theorem attempt_eq (r : Registry) (row : LanguageRow) :
    r.attempt row = (row.language?.map r.register).getD r := by
  unfold attempt registerSource LanguageRow.language?
  cases Grammar.compile row.single row.blockStart row.blockEnd with
  | error failure => rfl
  | ok g => rfl

theorem registerSource_of_error {row : LanguageRow} {failure : Failure}
    (h : Grammar.compile row.single row.blockStart row.blockEnd = .error failure) :
    r.registerSource row.name row.extensions row.single row.blockStart row.blockEnd = .error failure := by
  unfold registerSource
  rw [h]
  rfl

/-- What every registration keeps, a run of attempts keeps. -/
theorem attemptAll_induction {P : Registry → Prop} (hstep : ∀ s language, P s → P (s.register language)) (h : P r)
    (rows : List LanguageRow) : P (r.attemptAll rows) := by
  induction rows generalizing r with
  | nil => exact h
  | cons row rest ih =>
    refine ih ?_
    rw [attempt_eq]
    cases row.language? with
    | none => exact h
    | some language => exact hstep r language h

/-- The languages of a run are those that could be read, in the order of their rows. -/
theorem languages_attemptAll (r : Registry) (rows : List LanguageRow) :
    (r.attemptAll rows).languages = r.languages ++ rows.filterMap (·.language?) := by
  induction rows generalizing r with
  | nil => exact (List.append_nil _).symm
  | cons row rest ih =>
    show ((r.attempt row).attemptAll rest).languages = _
    rw [ih, attempt_eq]
    cases hrow : row.language? with
    | none => rw [List.filterMap_cons_none hrow]; rfl
    | some language =>
      rw [List.filterMap_cons_some hrow]
      exact List.append_assoc r.languages [language] _

/-! ## The last language that lists an extension -/

/-- The language at a place lists an extension, and none behind it does. -/
structure LastListing (languages : List Language) (extension : String) (place : Nat) (language : Language) :
    Prop where
  at_place : languages[place]? = some language
  lists : extension ∈ language.extensions
  none_behind : ∀ later other, place < later → languages[later]? = some other → extension ∉ other.extensions

variable {languages : List Language} {extension : String} {place : Nat} {language other : Language}

theorem LastListing.lt_length (h : LastListing languages extension place language) : place < languages.length :=
  (List.getElem?_eq_some_iff.1 h.at_place).1

/-- One more language is the last if it lists the extension, and otherwise changes nothing. -/
theorem lastListing_concat_iff :
    LastListing (languages ++ [other]) extension place language ↔
      (extension ∈ other.extensions ∧ place = languages.length ∧ language = other) ∨
        (extension ∉ other.extensions ∧ LastListing languages extension place language) := by
  have hlast : (languages ++ [other])[languages.length]? = some other := by simp
  have hfront : ∀ p, p < languages.length → (languages ++ [other])[p]? = languages[p]? := by
    intro p hp
    exact List.getElem?_append_left hp
  have hbound : ∀ p another, (languages ++ [other])[p]? = some another → p ≤ languages.length := by
    intro p another hp
    have hlt := (List.getElem?_eq_some_iff.1 hp).1
    rw [List.length_append, List.length_singleton] at hlt
    exact Nat.le_of_lt_succ hlt
  constructor
  · rintro ⟨hat, hlists, hbehind⟩
    by_cases hplace : place = languages.length
    · rw [hplace, hlast] at hat
      obtain rfl := Option.some.inj hat
      exact .inl ⟨hlists, hplace, rfl⟩
    · have hlt : place < languages.length := Nat.lt_of_le_of_ne (hbound place language hat) hplace
      refine .inr ⟨hbehind _ other hlt hlast, ?_, hlists, ?_⟩
      · rw [← hfront place hlt]
        exact hat
      · intro later another hlater hanother
        have hlaterlt : later < languages.length := (List.getElem?_eq_some_iff.1 hanother).1
        exact hbehind later another hlater ((hfront later hlaterlt).trans hanother)
  · rintro (⟨hlists, rfl, rfl⟩ | ⟨hnot, h⟩)
    · refine ⟨hlast, hlists, ?_⟩
      intro later another hlater hanother
      exact absurd (hbound later another hanother) (Nat.not_le.2 hlater)
    · refine ⟨(hfront place h.lt_length).trans h.at_place, h.lists, ?_⟩
      intro later another hlater hanother
      -- behind the language stands one of the others, or the new one
      by_cases hnew : later = languages.length
      · rw [hnew, hlast] at hanother
        obtain rfl := Option.some.inj hanother
        exact hnot
      · have hlt : later < languages.length := Nat.lt_of_le_of_ne (hbound later another hanother) hnew
        rw [hfront later hlt] at hanother
        exact h.none_behind later another hlater hanother

/-- No more than one language is the last that lists an extension. -/
theorem LastListing.unique {place' : Nat} (h : LastListing languages extension place language)
    (h' : LastListing languages extension place' other) : place = place' ∧ language = other := by
  have hplace : place = place' := by
    rcases Nat.lt_trichotomy place place' with hlt | heq | hlt
    · exact absurd h'.lists (h.none_behind place' other hlt h'.at_place)
    · exact heq
    · exact absurd h.lists (h'.none_behind place language hlt h.at_place)
  subst hplace
  exact ⟨rfl, Option.some.inj (h.at_place.symm.trans h'.at_place)⟩

/-- There is a last language that lists an extension if any does. -/
theorem exists_lastListing_iff :
    (∃ place language, LastListing languages extension place language) ↔
      ∃ language ∈ languages, extension ∈ language.extensions := by
  constructor
  · rintro ⟨place, language, h⟩
    exact ⟨language, List.mem_of_getElem? h.at_place, h.lists⟩
  · -- by the last language: it is the one, or the search goes on in front of it
    induction languages using List.reverseRecOn with
    | nil =>
      rintro ⟨language, hmem, -⟩
      cases hmem
    | append_singleton front last ih =>
      rintro ⟨language, hmem, hlists⟩
      by_cases hlast : extension ∈ last.extensions
      · exact ⟨front.length, last, lastListing_concat_iff.2 (.inl ⟨hlast, rfl, rfl⟩)⟩
      · have hfront : language ∈ front := by
          rcases List.mem_append.1 hmem with hmem | hmem
          · exact hmem
          · obtain rfl := List.mem_singleton.1 hmem
            exact absurd hlists hlast
        rcases ih ⟨language, hfront, hlists⟩ with ⟨place, found, hfound⟩
        exact ⟨place, found, lastListing_concat_iff.2 (.inr ⟨hlast, hfound⟩)⟩

/-! ## Places -/

theorem mem_assign_iff {owners : List (String × Nat)} {new : Nat} {claimed : String} :
    (extension, place) ∈ assign owners new claimed ↔
      (extension = claimed ∧ place = new) ∨ (extension ≠ claimed ∧ (extension, place) ∈ owners) := by
  rw [assign, List.mem_cons, List.mem_filter, Prod.mk.injEq, bne_iff_ne, and_comm (b := extension ≠ claimed)]

/-- Extensions that are claimed have the new place, and all others keep theirs. -/
theorem mem_assignAll_iff {owners : List (String × Nat)} {new : Nat} {claimed : List String} :
    (extension, place) ∈ assignAll owners new claimed ↔
      (extension ∈ claimed ∧ place = new) ∨ (extension ∉ claimed ∧ (extension, place) ∈ owners) := by
  induction claimed generalizing owners with
  | nil => simp [assignAll]
  | cons first rest ih =>
    have hrest : (extension, place) ∈ assignAll owners new (first :: rest) ↔
        (extension ∈ rest ∧ place = new) ∨
          (extension ∉ rest ∧ (extension, place) ∈ assign owners new first) := ih
    rw [hrest, mem_assign_iff, List.mem_cons]
    by_cases hmem : extension ∈ rest
    · simp [hmem]
    · by_cases hfirst : extension = first
      · subst hfirst
        simp [hmem]
      · simp [hmem, hfirst]

/-- The owner of every extension is the last language that lists it, and there are no other owners. -/
def Indexed (r : Registry) : Prop :=
  ∀ extension place, (extension, place) ∈ r.owners ↔ ∃ language, LastListing r.languages extension place language

theorem indexed_empty : empty.Indexed := by
  intro extension place
  constructor
  · intro h
    cases h
  · rintro ⟨language, h⟩
    cases h.at_place

/-- Registering a language keeps the index: the place it takes is the one at which it is then found. -/
theorem Indexed.register (h : r.Indexed) (language : Language) : (r.register language).Indexed := by
  intro extension place
  show (extension, place) ∈ assignAll r.owners r.languages.length language.extensions ↔
    ∃ found, LastListing (r.languages ++ [language]) extension place found
  simp only [mem_assignAll_iff, lastListing_concat_iff, h extension place]
  by_cases hlists : extension ∈ language.extensions <;> simp [hlists]

/-- The registry of a run is indexed. -/
theorem indexed_attemptAll (rows : List LanguageRow) : (empty.attemptAll rows).Indexed :=
  attemptAll_induction (fun _ language h => h.register language) indexed_empty rows

/-! ## Look-up -/

/-- Whatever place is found first for an extension, it is that of the last language that lists it. -/
theorem lastListing_of_find? (h : r.Indexed) {entry : String × Nat}
    (hfind : r.owners.find? (·.1 == extension) = some entry) :
    ∃ language, LastListing r.languages extension entry.2 language := by
  rcases entry with ⟨key, place⟩
  have hkey : key = extension := by simpa using List.find?_some hfind
  have hmem : (key, place) ∈ r.owners := List.mem_of_find?_eq_some hfind
  rw [← hkey]
  exact (h key place).1 hmem

/-- The language of an extension is the last one that lists it. -/
theorem language?_eq_some_iff (h : r.Indexed) :
    r.language? extension = some language ↔ ∃ place, LastListing r.languages extension place language := by
  constructor
  · intro hfound
    rcases Option.bind_eq_some_iff.1 hfound with ⟨entry, hfind, hplace⟩
    rcases lastListing_of_find? h hfind with ⟨last, hlast⟩
    have hat : r.languages[entry.2]? = some language := hplace
    rw [hlast.at_place] at hat
    obtain rfl := Option.some.inj hat
    exact ⟨entry.2, hlast⟩
  · rintro ⟨place, hlast⟩
    have hmem : (extension, place) ∈ r.owners := (h extension place).2 ⟨language, hlast⟩
    have hsome : (r.owners.find? (·.1 == extension)).isSome = true :=
      List.find?_isSome.2 ⟨_, hmem, beq_self_eq_true extension⟩
    rcases Option.isSome_iff_exists.1 hsome with ⟨entry, hfind⟩
    rcases lastListing_of_find? h hfind with ⟨last, hlast'⟩
    rcases hlast.unique hlast' with ⟨hplace, rfl⟩
    rw [language?, hfind]
    exact hlast'.at_place

/-- An extension has no language if none lists it. -/
theorem language?_eq_none_iff (h : r.Indexed) :
    r.language? extension = none ↔ ∀ language ∈ r.languages, extension ∉ language.extensions := by
  have hnone : r.language? extension = none ↔ ¬∃ place language, LastListing r.languages extension place language := by
    rw [Option.eq_none_iff_forall_ne_some]
    simp only [ne_eq, language?_eq_some_iff h]
    rw [exists_comm, not_exists]
  rw [hnone, exists_lastListing_iff]
  simp

end Registry

namespace Breakdown

variable {r : Registry} {extension : String} (source : List Char)

/-- Comments are counted by the grammar of the language of the extension. -/
theorem measure_of_language? {language : Language} (h : r.language? extension = some language) :
    measure source extension r = .ofLines (Text.lines source) (language.grammar.countComments (Text.lines source)) := by
  rw [measure, Registry.grammar?, h]
  rfl

theorem measure_of_language?_eq_none (h : r.language? extension = none) :
    measure source extension r = .ofLines (Text.lines source) 0 := by
  rw [measure, Registry.grammar?, h]
  rfl

end Breakdown

namespace Registry

/-- A run of registrations into an empty registry. A grammar is read if all its texts are patterns, and the failure
names the first that is none, one-line comments before openings and openings before ends; a registration that fails
leaves any registry as it is. The languages are those that were read, in the order of their registration, and an
extension belongs to the last of them that lists it, at a place that exists, or to none if none lists it. Files are
measured by the grammar of that language, and without comments if there is none. -/
theorem attemptAll_owners (rows : List LanguageRow) :
    let r := empty.attemptAll rows
    let registered := rows.filterMap (·.language?)
    (∀ single blockStart blockEnd,
        ((∃ g, Grammar.compile single blockStart blockEnd = .ok g) ↔
          ∀ source ∈ single ++ blockStart ++ blockEnd, Compiles source) ∧
        (∀ g, Grammar.compile single blockStart blockEnd = .ok g ↔
          g.single.map (·.source) = single ∧ g.blockStart.map (·.source) = blockStart ∧
            g.blockEnd.map (·.source) = blockEnd) ∧
        ∀ failure, Grammar.compile single blockStart blockEnd = .error failure ↔
          ∃ source fault, FirstFault (single ++ blockStart ++ blockEnd) source fault ∧
            failure = .badPattern source fault.message) ∧
      (∀ (s : Registry) (row : LanguageRow) (failure : Failure),
        Grammar.compile row.single row.blockStart row.blockEnd = .error failure →
          s.registerSource row.name row.extensions row.single row.blockStart row.blockEnd = .error failure ∧
            s.attempt row = s) ∧
      r.languages = registered ∧
      (∀ extension place, (extension, place) ∈ r.owners ↔
        ∃ language, LastListing registered extension place language) ∧
      (∀ owner ∈ r.owners, owner.2 < r.languages.length) ∧
      (∀ extension language, r.language? extension = some language ↔
        ∃ place, LastListing registered extension place language) ∧
      (∀ extension, r.language? extension = none ↔ ∀ language ∈ registered, extension ∉ language.extensions) ∧
      (∀ extension place language, LastListing registered extension place language →
        ∀ source, Breakdown.measure source extension r =
          .ofLines (Text.lines source) (language.grammar.countComments (Text.lines source))) ∧
      ∀ extension, (∀ language ∈ registered, extension ∉ language.extensions) →
        ∀ source, Breakdown.measure source extension r = .ofLines (Text.lines source) 0 := by
  intro r registered
  have hindexed : r.Indexed := indexed_attemptAll rows
  have hlanguages : r.languages = registered := languages_attemptAll empty rows
  have hsome : ∀ extension language, r.language? extension = some language ↔
      ∃ place, LastListing registered extension place language := by
    intro extension language
    rw [← hlanguages]
    exact language?_eq_some_iff hindexed
  have hnone : ∀ extension, r.language? extension = none ↔
      ∀ language ∈ registered, extension ∉ language.extensions := by
    intro extension
    rw [← hlanguages]
    exact language?_eq_none_iff hindexed
  refine ⟨?_, ?_, hlanguages, ?_, ?_, hsome, hnone, ?_, ?_⟩
  · intro single blockStart blockEnd
    exact ⟨Grammar.exists_compile_iff, fun g => Grammar.compile_eq_ok_iff, fun failure => Grammar.compile_eq_error_iff⟩
  · intro s row failure hfailure
    have herror := registerSource_of_error (r := s) hfailure
    refine ⟨herror, ?_⟩
    rw [attempt, herror]
    rfl
  · intro extension place
    rw [← hlanguages]
    exact hindexed extension place
  · rintro ⟨extension, place⟩ howner
    rcases (hindexed extension place).1 howner with ⟨language, hlast⟩
    exact hlast.lt_length
  · intro extension place language hlast source
    exact Breakdown.measure_of_language? source ((hsome extension language).2 ⟨place, hlast⟩)
  · intro extension hnot source
    exact Breakdown.measure_of_language?_eq_none source ((hnone extension).2 hnot)

/-- A row whose second and third text are no patterns. -/
def faulty : LanguageRow := ⟨"B", [".y"], ["^b"], ["["], ["("]⟩

/-- A row that cannot be read, between one that lists two extensions, one that lists the second of them twice, and one
that lists none. -/
def overlapping : List LanguageRow :=
  [⟨"A", [".x", ".y"], ["^a"], [], []⟩, faulty, ⟨"C", [".y", ".y"], [], ["^c"], ["$"]⟩, ⟨"E", [], [], [], []⟩]

/-- The fault that is named is the one of the opening, and nothing is changed by it. Of three registered languages,
`.x` stays with the first, and the second counts the comments under `.y`. -/
theorem attemptAll_owners_overlapping :
    let r := empty.attemptAll overlapping
    faulty ∈ overlapping ∧
      r.registerSource faulty.name faulty.extensions faulty.single faulty.blockStart faulty.blockEnd =
        .error (.badPattern "[" Pattern.Fault.unclosedSet.message) ∧
      r.attempt faulty = r ∧
      ∃ a c e, r.languages = [a, c, e] ∧ a.name = "A" ∧ c.name = "C" ∧
        r.language? ".x" = some a ∧ r.language? ".y" = some c ∧ r.language? ".z" = none ∧
        Breakdown.measure "c1\nx".toList ".y" r =
          .ofLines ["c1".toList, "x".toList] (c.grammar.countComments ["c1".toList, "x".toList]) := by
  intro r
  rcases attemptAll_owners overlapping with ⟨hcompile, hfailed, hlanguages, -, -, hsome, hnone, hmeasure, -⟩
  have hfault : FirstFault (faulty.single ++ faulty.blockStart ++ faulty.blockEnd) "[" .unclosedSet :=
    ⟨["^b"], ["("], rfl, by decide +kernel, rfl⟩
  have herror := ((hcompile faulty.single faulty.blockStart faulty.blockEnd).2.2 _).2 ⟨_, _, hfault, rfl⟩
  rcases hfailed r faulty _ herror with ⟨hregister, hattempt⟩
  -- the languages of the rows that can be read, by what decides over their extensions
  have hregistered : (overlapping.filterMap (·.language?)).map (fun l => (l.name, l.extensions)) =
      [("A", [".x", ".y"]), ("C", [".y", ".y"]), ("E", [])] := by decide +kernel
  refine ⟨by simp [overlapping], hregister, hattempt, ?_⟩
  generalize overlapping.filterMap (·.language?) = registered at *
  obtain ⟨a, c, e, rfl, ha, hc, he⟩ : ∃ a c e, registered = [a, c, e] ∧ (a.name, a.extensions) = ("A", [".x", ".y"]) ∧
      (c.name, c.extensions) = ("C", [".y", ".y"]) ∧ (e.name, e.extensions) = ("E", []) := by
    simpa [List.map_eq_cons_iff, and_assoc] using hregistered
  simp only [Prod.mk.injEq] at ha hc he
  -- each language on the way from the end is passed over, or is the one
  have hx : LastListing ([] ++ [a] ++ [c] ++ [e]) ".x" 0 a := by
    refine lastListing_concat_iff.2 (.inr ⟨by simp [he.2], ?_⟩)
    refine lastListing_concat_iff.2 (.inr ⟨by simp [hc.2], ?_⟩)
    exact lastListing_concat_iff.2 (.inl ⟨by simp [ha.2], rfl, rfl⟩)
  have hy : LastListing ([a] ++ [c] ++ [e]) ".y" 1 c := by
    refine lastListing_concat_iff.2 (.inr ⟨by simp [he.2], ?_⟩)
    exact lastListing_concat_iff.2 (.inl ⟨by simp [hc.2], rfl, rfl⟩)
  refine ⟨a, c, e, hlanguages, ha.1, hc.1, (hsome _ _).2 ⟨0, hx⟩, (hsome _ _).2 ⟨1, hy⟩, (hnone _).2 ?_, ?_⟩
  · simp [ha.2, hc.2, he.2]
  · exact hmeasure ".y" 1 c hy "c1\nx".toList

end Registry

end LineCensus
