import LineCensus.Ignore.Rules
import LineCensus.Proofs.Pattern.Compile
import LineCensus.Proofs.Pattern.Literal

/-!
# LineCensus.Proofs.Ignore.Suffix — names left out because of how they end

1. `Rules.addPattern_eq_ok_iff`: what it takes for a pattern to be added, and what becomes of the rules.
2. `toList_extensionPattern`, `matchesName_addExtension`: an extension that is added is looked for at the end of
   a name, character by character.
3. `defaultEndings`, `matchesName_default`: the rules in force from the start, without patterns.
4. `matchesName_iff_ending`: both.
-/

namespace LineCensus

open Pattern (escapeChar ending exactly)

namespace Rules

variable {r r' : Rules}

/-! ## One pattern -/

/-- A pattern can be added if its text is one, and is asked last. -/
theorem addPattern_eq_ok_iff {source : String} :
    r.addPattern source = .ok r' ↔
      ∃ p : Pattern, p.source = source ∧ r' = { r with patterns := r.patterns ++ [p] } := by
  simp only [← Pattern.require_eq_ok_iff]
  rw [addPattern]
  cases Pattern.require source with
  | error failure => simp [Except.map]
  | ok p => simp [Except.map, eq_comm]

/-- One more pattern is one more way to match. -/
theorem matchesName_add (r : Rules) (p : Pattern) (name : List Char) :
    matchesName { r with patterns := r.patterns ++ [p] } name = (r.matchesName name || p.occursIn name) := by
  simp [matchesName]

/-! ## Extensions -/

/-- The dot and the extension behind it, without dots in front. -/
def dotted (extension : String) : List Char := '.' :: extension.toList.dropWhile (· == '.')

theorem toList_extensionPattern (extension : String) :
    (extensionPattern extension).toList = (dotted extension).flatMap escapeChar ++ ['$'] := by
  unfold extensionPattern dotted
  simp only [String.toList_append, Pattern.toList_literal, String.toList_ofList, List.flatMap_cons]
  rfl

/-- The pattern of an extension is that of the names that end with it. -/
theorem node_eq_ending {p : Pattern} {extension : String} (h : p.source = extensionPattern extension) :
    p.node = ending (dotted extension) := by
  have hne : dotted extension ≠ [] := List.cons_ne_nil _ _
  have hread := p.node_eq
  rw [h, toList_extensionPattern, Pattern.readNode_escaped_dollar hne] at hread
  split at hread
  · cases hread
  · exact (Except.ok.inj hread).symm

/-- An extension that is added is looked for at the end of a name. -/
theorem matchesName_addExtension {extension : String} (h : r.addExtension extension = .ok r')
    (name : List Char) :
    r'.matchesName name = true ↔ r.matchesName name = true ∨ dotted extension <:+ name := by
  rcases addPattern_eq_ok_iff.1 h with ⟨p, hsource, rfl⟩
  have hoccurs : p.occursIn name = (ending (dotted extension)).occursIn name := by
    rw [Pattern.occursIn, node_eq_ending hsource]
  rw [matchesName_add, hoccurs, Bool.or_eq_true, Pattern.occursIn_ending]

/-! ## The default -/

/-- The ends of the names of generated files and lock files. -/
def defaultEndings : List String :=
  ["package-lock.json", "npm-shrinkwrap.json", "pnpm-lock.yaml", ".lock", ".min.js", ".min.css",
    ".bundle.js", ".map"]

/-- The one name that is left out as a whole. -/
def defaultName : String := ".DS_Store"

theorem nodes_default :
    default.patterns.map (·.node) =
      defaultEndings.map (fun d => ending d.toList) ++ [exactly defaultName.toList] := by
  decide +kernel

theorem matchesName_default (name : List Char) :
    default.matchesName name = true ↔
      (∃ d ∈ defaultEndings, d.toList <:+ name) ∨ name = defaultName.toList := by
  have hnodes : default.matchesName name = (default.patterns.map (·.node)).any (·.occursIn name) := by
    rw [List.any_map]
    rfl
  rw [hnodes, nodes_default, List.any_append, Bool.or_eq_true, List.any_map, List.any_eq_true]
  simp only [Function.comp_apply, Pattern.occursIn_ending, List.any_cons, List.any_nil, Bool.or_false,
    Pattern.occursIn_exactly]

/-- Names are left out because of an extension that was added exactly if they end with it, whatever its
characters mean in patterns, and because of the default rules if they end as generated files and lock files
do, or are the one name that is left out as a whole. -/
theorem matchesName_iff_ending :
    (∀ (r r' : Rules) (extension : String), r.addExtension extension = .ok r' →
      ∀ name, r'.matchesName name = true ↔ r.matchesName name = true ∨ dotted extension <:+ name) ∧
      ∀ name, default.matchesName name = true ↔
        (∃ d ∈ defaultEndings, d.toList <:+ name) ∨ name = defaultName.toList := by
  refine ⟨?_, matchesName_default⟩
  intro r r' extension h name
  exact matchesName_addExtension h name

/-- The plus signs of `..c++` are no repetitions, its dots are one, and a line feed behind it is no end. -/
theorem matchesName_iff_ending_plus :
    ∃ r', empty.addExtension "..c++" = .ok r' ∧
      r'.matchesName "a.c++".toList = true ∧
      ¬r'.matchesName "a.c++\n".toList = true ∧
      ¬r'.matchesName "a.cc".toList = true ∧
      default.matchesName "x.lock".toList = true := by
  have hadd : ∃ r', empty.addExtension "..c++" = .ok r' := by
    have hok : (empty.addExtension "..c++").toBool = true := by decide +kernel
    cases hresult : empty.addExtension "..c++" with
    | ok r' => exact ⟨r', rfl⟩
    | error failure => simp [hresult, Except.toBool] at hok
  rcases hadd with ⟨r', hadd⟩
  have hname := matchesName_iff_ending.1 empty r' "..c++" hadd
  refine ⟨r', hadd, ?_, ?_, ?_, ?_⟩
  · exact (hname _).2 (.inr (by decide))
  · rw [hname]
    decide
  · rw [hname]
    decide
  · exact (matchesName_iff_ending.2 _).2 (.inl (by decide))

end Rules

end LineCensus
