import LineCensus.Comment.Grammar

/-!
# LineCensus.Comment.Registry — languages by file extension

1. `Registry`: the languages in the order of their registration, and for each extension the place of the
   language that owns it. A place is always one of an existing language.
2. `register`: the new language takes over every extension it lists.
3. `language?`, `grammar?`: look-up by an extension with its dot, by exact spelling.
-/

namespace LineCensus

/-- The languages, and the owner of each extension. -/
structure Registry where
  languages : List Language
  owners : List (String × Nat)
  owner_lt : ∀ o ∈ owners, o.2 < languages.length

namespace Registry

/-- No language. -/
def empty : Registry := ⟨[], [], by simp⟩

/-- Makes `place` the owner of an extension. -/
def assign (owners : List (String × Nat)) (place : Nat) (extension : String) :
    List (String × Nat) :=
  (extension, place) :: owners.filter (·.1 != extension)

theorem assign_lt {owners : List (String × Nat)} {place bound : Nat} {extension : String}
    (h : ∀ o ∈ owners, o.2 < bound) (hp : place < bound) :
    ∀ o ∈ assign owners place extension, o.2 < bound := by
  intro o ho
  simp only [assign, List.mem_cons, List.mem_filter] at ho
  rcases ho with rfl | ⟨ho, _⟩
  · exact hp
  · exact h o ho

/-- Makes `place` the owner of several extensions. -/
def assignAll (owners : List (String × Nat)) (place : Nat) (extensions : List String) :
    List (String × Nat) :=
  extensions.foldl (assign · place ·) owners

theorem assignAll_lt {place bound : Nat} {extensions : List String} (hp : place < bound) :
    ∀ {owners : List (String × Nat)}, (∀ o ∈ owners, o.2 < bound) →
      ∀ o ∈ assignAll owners place extensions, o.2 < bound := by
  induction extensions with
  | nil => intro owners h; exact h
  | cons e rest ih => intro owners h; exact ih (assign_lt h hp)

/-- Adds a language, which takes over the extensions it lists. -/
def register (r : Registry) (language : Language) : Registry where
  languages := r.languages ++ [language]
  owners := assignAll r.owners r.languages.length language.extensions
  owner_lt := assignAll_lt (by simp) fun o ho => by
    have := r.owner_lt o ho
    simp
    omega

/-- The language that owns an extension. -/
def language? (r : Registry) (extension : String) : Option Language :=
  (r.owners.find? (·.1 == extension)).bind fun o => r.languages[o.2]?

/-- The grammar of the language that owns an extension. -/
def grammar? (r : Registry) (extension : String) : Option Grammar :=
  (r.language? extension).map (·.grammar)

/-- Adds a language given by the texts of its patterns; if one of them is no pattern, nothing is added. -/
def registerSource (r : Registry) (name : String) (extensions single blockStart blockEnd : List String) :
    Except Failure Registry := do
  let grammar ← Grammar.compile single blockStart blockEnd
  pure (r.register ⟨name, extensions, grammar⟩)

end Registry

end LineCensus
