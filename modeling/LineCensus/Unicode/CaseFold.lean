import LineCensus.Unicode.RunTable
import Std.Data.HashMap

/-!
# LineCensus.Unicode.CaseFold — letters that differ only in case

Two characters are variants of one another when their simple case foldings agree. Nearly every such
group is a pair; a few have a third or fourth member, such as `K`, `k` and the kelvin sign.

1. `variants`: the whole group of a character, itself included.
2. `asciiVariants`: the same within ASCII.
3. `variantCuts`: where the characters with variants begin and end.
-/

namespace LineCensus.Unicode

/-- The groups in the order of their first members. Of each, the first number is the distance from the
previous group's first member, and the others are the distances from one member to the next. -/
def variantGaps : String :=
  "65,32 1,32 1,32 1,32 1,32 1,32 1,32 1,32 1,32 1,32 1,32,8383 1,32 1,32 1,32 1,32 1,32 1,32
   1,32 1,32,268 1,32 1,32 1,32 1,32 1,32 1,32 1,32 91,743,32 11,32 1,32 1,32 1,32 1,32 1,32,8262
   1,32 1,32 1,32 1,32 1,32 1,32 1,32 1,32 1,32 1,32 1,32 1,32 1,32 1,32 1,32 1,32 1,32 2,32 1,32
   1,32 1,32 1,32 1,32 1,32 1,7615 32,121 1,1 2,1 2,1 2,1 2,1 2,1 2,1 2,1 2,1 2,1 2,1 2,1 2,1 2,1
   2,1 2,1 2,1 2,1 2,1 2,1 2,1 2,1 2,1 2,1 4,1 2,1 2,1 3,1 2,1 2,1 2,1 2,1 2,1 2,1 2,1 3,1 2,1
   2,1 2,1 2,1 2,1 2,1 2,1 2,1 2,1 2,1 2,1 2,1 2,1 2,1 2,1 2,1 2,1 2,1 2,1 2,1 2,1 2,1 3,1 2,1
   2,1 3,195 1,210 1,1 2,1 2,206 1,1 2,205 1,205 1,1 3,79 1,202 1,203 1,1 2,205 1,207 1,97 1,211
   1,209 1,1 2,163 1,42561 1,211 1,213 1,130 1,214 1,1 2,1 2,1 2,218 1,1 2,218 3,1 2,218 1,1
   2,217 1,217 1,1 2,1 2,219 1,1 4,1 3,56 5,1,1 3,1,1 3,1,1 3,1 2,1 2,1 2,1 2,1 2,1 2,1 2,1 3,1
   2,1 2,1 2,1 2,1 2,1 2,1 2,1 2,1 3,1,1 3,1 4,1 2,1 2,1 2,1 2,1 2,1 2,1 2,1 2,1 2,1 2,1 2,1 2,1
   2,1 2,1 2,1 2,1 2,1 2,1 2,1 4,1 2,1 2,1 2,1 2,1 2,1 2,1 2,1 2,1 8,10795 1,1 3,10792 1,10815
   1,10815 1,1 3,69 1,71 1,1 2,1 2,1 2,1 2,1 2,10783 1,10780 1,10782 10,42319 5,42315 3,42343
   1,42280 1,42308 4,42308 1,10743 1,42305 5,10749 12,10727 5,42307 5,42282 22,42261 1,42258
   167,84,32,7173 43,1 2,1 4,1 5,130 1,130 1,130 2,116 7,38 2,37 1,37 1,37 2,64 2,63 1,63 1,7235
   1,32 1,32,30 1,32 1,32 1,32,64 1,32 1,32 1,32,25,35 2,32,54 1,32 2,32 1,32 1,32 1,32,22
   1,32,48 2,31,1 1,32 1,32 1,32,15 1,32 1,32 1,32,7517 1,32 1,32 5,7219 31,8 9,1 2,1 2,1 2,1 2,1
   2,1 2,1 2,1 2,1 2,1 2,1 2,1 4,7 5,1 3,1 6,80 1,80 1,80 1,80 1,80 1,80 1,80 1,80 1,80 1,80 1,80
   1,80 1,80 1,80 1,80 1,80 1,32 1,32 1,32,6222 1,32 1,32,6221 1,32 1,32 1,32 1,32 1,32 1,32 1,32
   1,32 1,32 1,32,6212 1,32 1,32 1,32,6210 1,32,6210,1 1,32 1,32 1,32 1,32 1,32 1,32 1,32
   1,32,6204 1,32 1,32 1,32 1,32 1,32 49,1 2,1,6180 2,1 2,1 2,1 2,1 2,1 2,1 2,1 2,1 2,1 2,1 2,1
   2,1 2,1 2,1 2,1 10,1 2,1 2,1 2,1 2,1 2,1 2,1 2,1 2,1 2,1 2,1 2,1 2,1 2,1 2,1 2,1 2,1 2,1 2,1
   2,1 2,1 2,1 2,1 2,1 2,1 2,1 2,1 2,15 1,1 2,1 2,1 2,1 2,1 2,1 2,1 3,1 2,1 2,1 2,1 2,1 2,1 2,1
   2,1 2,1 2,1 2,1 2,1 2,1 2,1 2,1 2,1 2,1 2,1 2,1 2,1 2,1 2,1 2,1 2,1 2,1 2,1 2,1 2,1 2,1 2,1
   2,1 2,1 2,1 2,1 2,1 2,1 2,1 2,1 2,1 2,1 2,1 2,1 2,1 2,1 2,1 2,1 2,1 2,1 3,48 1,48 1,48 1,48
   1,48 1,48 1,48 1,48 1,48 1,48 1,48 1,48 1,48 1,48 1,48 1,48 1,48 1,48 1,48 1,48 1,48 1,48 1,48
   1,48 1,48 1,48 1,48 1,48 1,48 1,48 1,48 1,48 1,48 1,48 1,48 1,48 1,48 1,48 2890,7264 1,7264
   1,7264 1,7264 1,7264 1,7264 1,7264 1,7264 1,7264 1,7264 1,7264 1,7264 1,7264 1,7264 1,7264
   1,7264 1,7264 1,7264 1,7264 1,7264 1,7264 1,7264 1,7264 1,7264 1,7264 1,7264 1,7264 1,7264
   1,7264 1,7264 1,7264 1,7264 1,7264 1,7264 1,7264 1,7264 1,7264 1,7264 2,7264 6,7264 3,3008
   1,3008 1,3008 1,3008 1,3008 1,3008 1,3008 1,3008 1,3008 1,3008 1,3008 1,3008 1,3008 1,3008
   1,3008 1,3008 1,3008 1,3008 1,3008 1,3008 1,3008 1,3008 1,3008 1,3008 1,3008 1,3008 1,3008
   1,3008 1,3008 1,3008 1,3008 1,3008 1,3008 1,3008 1,3008 1,3008 1,3008 1,3008 1,3008 1,3008
   1,3008 1,3008 1,3008 3,3008 1,3008 1,3008 673,38864 1,38864 1,38864 1,38864 1,38864 1,38864
   1,38864 1,38864 1,38864 1,38864 1,38864 1,38864 1,38864 1,38864 1,38864 1,38864 1,38864
   1,38864 1,38864 1,38864 1,38864 1,38864 1,38864 1,38864 1,38864 1,38864 1,38864 1,38864
   1,38864 1,38864 1,38864 1,38864 1,38864 1,38864 1,38864 1,38864 1,38864 1,38864 1,38864
   1,38864 1,38864 1,38864 1,38864 1,38864 1,38864 1,38864 1,38864 1,38864 1,38864 1,38864
   1,38864 1,38864 1,38864 1,38864 1,38864 1,38864 1,38864 1,38864 1,38864 1,38864 1,38864
   1,38864 1,38864 1,38864 1,38864 1,38864 1,38864 1,38864 1,38864 1,38864 1,38864 1,38864
   1,38864 1,38864 1,38864 1,38864 1,38864 1,38864 1,38864 1,38864 1,8 1,8 1,8 1,8 1,8 1,8
   2195,35266,1 1,1 240,35332 4,3814 17,35384 114,1 2,1 2,1 2,1 2,1 2,1 2,1 2,1 2,1 2,1 2,1 2,1
   2,1 2,1 2,1 2,1 2,1 2,1 2,1 2,1 2,1 2,1 2,1 2,1 2,1 2,1 2,1 2,1 2,1 2,1 2,1 2,1 2,1 2,1 2,1
   2,1 2,1 2,1 2,1 2,1 2,1 2,1 2,1 2,1 2,1 2,1 2,1 2,1 2,1,58 2,1 2,1 2,1 2,1 2,1 2,1 2,1 2,1 2,1
   2,1 2,1 2,1 2,1 2,1 2,1 2,1 2,1 2,1 2,1 2,1 2,1 2,1 2,1 2,1 2,1 2,1 12,1 2,1 2,1 2,1 2,1 2,1
   2,1 2,1 2,1 2,1 2,1 2,1 2,1 2,1 2,1 2,1 2,1 2,1 2,1 2,1 2,1 2,1 2,1 2,1 2,1 2,1 2,1 2,1 2,1
   2,1 2,1 2,1 2,1 2,1 2,1 2,1 2,1 2,1 2,1 2,1 2,1 2,1 2,1 2,1 2,1 2,1 2,1 2,1 2,8 1,8 1,8 1,8
   1,8 1,8 1,8 1,8 9,8 1,8 1,8 1,8 1,8 1,8 11,8 1,8 1,8 1,8 1,8 1,8 1,8 1,8 9,8 1,8 1,8 1,8 1,8
   1,8 1,8 1,8 9,8 1,8 1,8 1,8 1,8 1,8 12,8 2,8 2,8 2,8 9,8 1,8 1,8 1,8 1,8 1,8 1,8 1,8 9,74 1,74
   1,86 1,86 1,86 1,86 1,100 1,100 1,128 1,128 1,112 1,112 1,126 1,126 3,8 1,8 1,8 1,8 1,8 1,8
   1,8 1,8 9,8 1,8 1,8 1,8 1,8 1,8 1,8 1,8 9,8 1,8 1,8 1,8 1,8 1,8 1,8 1,8 9,8 1,8 2,9 16,9 13,8
   1,8 15,8 1,8 4,7 14,9 319,28 46,16 1,16 1,16 1,16 1,16 1,16 1,16 1,16 1,16 1,16 1,16 1,16 1,16
   1,16 1,16 1,16 20,1 819,26 1,26 1,26 1,26 1,26 1,26 1,26 1,26 1,26 1,26 1,26 1,26 1,26 1,26
   1,26 1,26 1,26 1,26 1,26 1,26 1,26 1,26 1,26 1,26 1,26 1,26 1841,48 1,48 1,48 1,48 1,48 1,48
   1,48 1,48 1,48 1,48 1,48 1,48 1,48 1,48 1,48 1,48 1,48 1,48 1,48 1,48 1,48 1,48 1,48 1,48 1,48
   1,48 1,48 1,48 1,48 1,48 1,48 1,48 1,48 1,48 1,48 1,48 1,48 1,48 1,48 1,48 1,48 1,48 1,48 1,48
   1,48 1,48 1,48 1,48 49,1 7,1 2,1 2,1 7,1 3,1 11,1 2,1 2,1 2,1 2,1 2,1 2,1 2,1 2,1 2,1 2,1 2,1
   2,1 2,1 2,1 2,1 2,1 2,1 2,1 2,1 2,1 2,1 2,1 2,1 2,1 2,1 2,1 2,1 2,1 2,1 2,1 2,1 2,1 2,1 2,1
   2,1 2,1 2,1 2,1 2,1 2,1 2,1 2,1 2,1 2,1 2,1 2,1 2,1 2,1 2,1 9,1 2,1 5,1 31054,1 2,1 2,1 2,1
   2,1 4,1 2,1 2,1 2,1 2,1 2,1 2,1 2,1 2,1 2,1 2,1 2,1 2,1 2,1 2,1 2,1 2,1 20,1 2,1 2,1 2,1 2,1
   2,1 2,1 2,1 2,1 2,1 2,1 2,1 2,1 2,1 136,1 2,1 2,1 2,1 2,1 2,1 2,1 4,1 2,1 2,1 2,1 2,1 2,1 2,1
   2,1 2,1 2,1 2,1 2,1 2,1 2,1 2,1 2,1 2,1 2,1 2,1 2,1 2,1 2,1 2,1 2,1 2,1 2,1 2,1 2,1 2,1 2,1
   2,1 11,1 2,1 3,1 2,1 2,1 2,1 2,1 5,1 5,1 2,1 2,48 2,1 2,1 2,1 2,1 2,1 2,1 2,1 2,1 2,1 2,1
   11,928 1,1 2,1 2,1 2,1 2,1 2,1 2,1 2,1 5,1 2,1 3,1 2,1 2,1 2,1 2,1 2,1 2,1 2,1 27,1 21264,1
   1052,32 1,32 1,32 1,32 1,32 1,32 1,32 1,32 1,32 1,32 1,32 1,32 1,32 1,32 1,32 1,32 1,32 1,32
   1,32 1,32 1,32 1,32 1,32 1,32 1,32 1,32 1222,40 1,40 1,40 1,40 1,40 1,40 1,40 1,40 1,40 1,40
   1,40 1,40 1,40 1,40 1,40 1,40 1,40 1,40 1,40 1,40 1,40 1,40 1,40 1,40 1,40 1,40 1,40 1,40 1,40
   1,40 1,40 1,40 1,40 1,40 1,40 1,40 1,40 1,40 1,40 1,40 137,40 1,40 1,40 1,40 1,40 1,40 1,40
   1,40 1,40 1,40 1,40 1,40 1,40 1,40 1,40 1,40 1,40 1,40 1,40 1,40 1,40 1,40 1,40 1,40 1,40 1,40
   1,40 1,40 1,40 1,40 1,40 1,40 1,40 1,40 1,40 1,40 157,39 1,39 1,39 1,39 1,39 1,39 1,39 1,39
   1,39 1,39 1,39 2,39 1,39 1,39 1,39 1,39 1,39 1,39 1,39 1,39 1,39 1,39 1,39 1,39 1,39 1,39 2,39
   1,39 1,39 1,39 1,39 1,39 1,39 2,39 1,39 1771,64 1,64 1,64 1,64 1,64 1,64 1,64 1,64 1,64 1,64
   1,64 1,64 1,64 1,64 1,64 1,64 1,64 1,64 1,64 1,64 1,64 1,64 1,64 1,64 1,64 1,64 1,64 1,64 1,64
   1,64 1,64 1,64 1,64 1,64 1,64 1,64 1,64 1,64 1,64 1,64 1,64 1,64 1,64 1,64 1,64 1,64 1,64 1,64
   1,64 1,64 1,64 158,32 1,32 1,32 1,32 1,32 1,32 1,32 1,32 1,32 1,32 1,32 1,32 1,32 1,32 1,32
   1,32 1,32 1,32 1,32 1,32 1,32 1,32 2875,32 1,32 1,32 1,32 1,32 1,32 1,32 1,32 1,32 1,32 1,32
   1,32 1,32 1,32 1,32 1,32 1,32 1,32 1,32 1,32 1,32 1,32 1,32 1,32 1,32 1,32 1,32 1,32 1,32 1,32
   1,32 1,32 21889,32 1,32 1,32 1,32 1,32 1,32 1,32 1,32 1,32 1,32 1,32 1,32 1,32 1,32 1,32 1,32
   1,32 1,32 1,32 1,32 1,32 1,32 1,32 1,32 1,32 1,32 1,32 1,32 1,32 1,32 1,32 1,32 65,27 1,27
   1,27 1,27 1,27 1,27 1,27 1,27 1,27 1,27 1,27 1,27 1,27 1,27 1,27 1,27 1,27 1,27 1,27 1,27 1,27
   1,27 1,27 1,27 1,27 31304,34 1,34 1,34 1,34 1,34 1,34 1,34 1,34 1,34 1,34 1,34 1,34 1,34 1,34
   1,34 1,34 1,34 1,34 1,34 1,34 1,34 1,34 1,34 1,34 1,34 1,34 1,34 1,34 1,34 1,34 1,34 1,34 1,34
   1,34"

/-- The members of one group, from the first on. -/
def variantGroup (first : Nat) : List Nat → List Char
  | [] => [Char.ofNat first]
  | gap :: gaps => Char.ofNat first :: variantGroup (first + gap) gaps

/-- Every character that has variants, with its group. -/
def variantTable : Std.HashMap Nat (List Char) :=
  go 0 ∅ ((words variantGaps).map fun group => (group.splitOn ",").filterMap String.toNat?)
where
  go (last : Nat) (table : Std.HashMap Nat (List Char)) :
      List (List Nat) → Std.HashMap Nat (List Char)
    | (skip :: gaps) :: groups =>
      let group := variantGroup (last + skip) gaps
      go (last + skip) (group.foldl (fun t c => t.insert c.toNat group) table) groups
    | _ => table

/-- The code points with variants and those right behind them, in rising order. -/
def variantCuts : List Nat :=
  (variantTable.keys.mergeSort (· ≤ ·)).flatMap fun code => [code, code + 1]

/-- The characters that differ from `c` at most in case. -/
def variants (c : Char) : List Char := variantTable.getD c.toNat [c]

/-- The ASCII characters that differ from `c` at most in case; outside ASCII only `c` itself. -/
def asciiVariants (c : Char) : List Char :=
  if c.isUpper then [c, c.toLower] else if c.isLower then [c.toUpper, c] else [c]

end LineCensus.Unicode
