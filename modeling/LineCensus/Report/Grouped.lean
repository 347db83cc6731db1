/-!
# LineCensus.Report.Grouped — numbers with a comma before every third digit

1. `groupDigits`: puts a comma wherever the number of digits to the right is a multiple of three, except in
   front.
2. `grouped`: the decimal digits of a number with commas.
-/

namespace LineCensus

/-- Digits with commas: one goes before each digit that has a multiple of three digits from itself on,
unless it is the first. -/
def groupDigits (first : Bool) : List Char → List Char
  | [] => []
  | d :: rest =>
    if !first && (rest.length + 1) % 3 == 0 then ',' :: d :: groupDigits false rest
    else d :: groupDigits false rest

/-- A number in decimal digits with commas. -/
def grouped (n : Nat) : List Char := groupDigits true (Nat.toDigits 10 n)

end LineCensus
