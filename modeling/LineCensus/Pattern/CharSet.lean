import LineCensus.Unicode.Blank
import LineCensus.Unicode.CaseFold
import LineCensus.Unicode.Script
import LineCensus.Unicode.Word

/-!
# LineCensus.Pattern.CharSet — sets of characters, as patterns write them

1. `CharSet`: ranges, named sets and the operations on sets, kept as written, so that two sets
   compare quickly however many characters they hold.
2. `CharSet.contains`: membership.
3. `CharSet.ranges`: the same set as a list of ranges of code points, in rising order.
-/

namespace LineCensus.Pattern

/-- A set of characters. -/
inductive CharSet where
  /-- No character. -/
  | none
  /-- The characters from `lo` to `hi`. -/
  | range (lo hi : Char)
  /-- White space. -/
  | blank
  /-- Decimal digits of every script. -/
  | digit
  /-- The characters of words. -/
  | word
  /-- The characters of some general categories. -/
  | category (codes : List String)
  /-- The characters of a script. -/
  | script (code : String)
  /-- The characters with a property, by its folded name. -/
  | property (name : String)
  /-- The members of either set. -/
  | union (a b : CharSet)
  /-- The members of both sets. -/
  | inter (a b : CharSet)
  /-- The members of the first set that are not in the second. -/
  | diff (a b : CharSet)
  /-- The members of exactly one of the sets. -/
  | symmDiff (a b : CharSet)
  /-- The characters outside the set. -/
  | compl (a : CharSet)
  /-- The variants in case of the members. -/
  | anyCase (a : CharSet)
  /-- The variants in ASCII case of the members. -/
  | anyAsciiCase (a : CharSet)
deriving DecidableEq, Repr

namespace CharSet

/-- The set of one character. -/
def single (c : Char) : CharSet := .range c c

/-- The set of the listed characters. -/
def ofList (cs : List Char) : CharSet :=
  match cs with
  | [] => .none
  | [c] => single c
  | c :: rest => .union (single c) (ofList rest)

/-- Every character. -/
def all : CharSet := .compl .none

/-! ## Membership -/

/-- Whether a character is in the set. -/
def contains : CharSet → Char → Bool
  | .none, _ => false
  | .range lo hi, c => lo ≤ c && c ≤ hi
  | .blank, c => Unicode.isBlank c
  | .digit, c => Unicode.isDigit c
  | .word, c => Unicode.isWord c
  | .category codes, c => codes.contains (Unicode.category c)
  | .script code, c => Unicode.script c == code
  | .property name, c =>
    match Unicode.property? name with
    | some table => (table.lookup? c.toNat).getD false
    | Option.none => false
  | .union a b, c => a.contains c || b.contains c
  | .inter a b, c => a.contains c && b.contains c
  | .diff a b, c => a.contains c && !b.contains c
  | .symmDiff a b, c => a.contains c != b.contains c
  | .compl a, c => !a.contains c
  | .anyCase a, c => (Unicode.variants c).any fun d => a.contains d
  | .anyAsciiCase a, c => (Unicode.asciiVariants c).any fun d => a.contains d

@[simp] theorem contains_single (c d : Char) : (single c).contains d = decide (c = d) := by
  simp only [single, contains]
  by_cases h : c = d
  · subst h; simp
  · have : ¬(c ≤ d ∧ d ≤ c) := fun hle => h (Char.le_antisymm hle.1 hle.2)
    simp only [h, decide_false, ← Bool.not_eq_true, Bool.and_eq_true, decide_eq_true_eq]
    exact this

/-! ## Ranges of code points -/

/-- Merges two rising lists into one. -/
def mergeCuts (as bs : List Nat) : List Nat := go (as.length + bs.length) as bs
where
  go : (fuel : Nat) → List Nat → List Nat → List Nat
    | fuel + 1, a :: as, b :: bs =>
      if a ≤ b then a :: go fuel as (b :: bs) else b :: go fuel (a :: as) bs
    | _, as, bs => as ++ bs

/-- Code points at which membership may change, in rising order. -/
def cuts : CharSet → List Nat
  | .none => []
  | .range lo hi => [lo.toNat, hi.toNat + 1]
  | .blank => Unicode.blanks.flatMap fun c => [c.toNat, c.toNat + 1]
  | .digit | .category _ => Unicode.categoryRuns.boundaries
  | .word =>
    mergeCuts (List.range 128 ++ [0x200c, 0x200e])
      (mergeCuts Unicode.categoryRuns.boundaries Unicode.alphabeticRuns.boundaries)
  | .script _ => Unicode.scriptRuns.boundaries
  | .property name => ((Unicode.property? name).map (·.boundaries)).getD []
  | .union a b | .inter a b | .diff a b | .symmDiff a b => mergeCuts a.cuts b.cuts
  | .compl a => a.cuts
  | .anyCase a => mergeCuts a.cuts Unicode.variantCuts
  | .anyAsciiCase a => mergeCuts a.cuts (List.range 128)

/-- The least code point beyond the last one. -/
def codeEnd : Nat := 0x110000

/-- Where the code points without a character begin and end. -/
def gap : Nat × Nat := (0xd800, 0xe000)

/-- The members as ranges of code points: joins the pieces between neighbouring cuts. -/
def ranges (s : CharSet) : List (Nat × Nat) :=
  let cuts := mergeCuts [0, gap.1, gap.2, codeEnd] s.cuts
  let pieces := (cuts.zip cuts.tail).filter fun (lo, next) =>
    lo < next && next ≤ codeEnd && !(gap.1 ≤ lo && lo < gap.2) && s.contains (Char.ofNat lo)
  pieces.foldr join []
where
  join (piece : Nat × Nat) : List (Nat × Nat) → List (Nat × Nat)
    | (lo, hi) :: rest =>
      if piece.2 = lo then (piece.1, hi) :: rest else (piece.1, piece.2 - 1) :: (lo, hi) :: rest
    | [] => [(piece.1, piece.2 - 1)]

end CharSet

end LineCensus.Pattern
