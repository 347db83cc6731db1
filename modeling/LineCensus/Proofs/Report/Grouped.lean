import LineCensus.Proofs.Report.Spelling
import LineCensus.Report.Grouped

/-!
# LineCensus.Proofs.Report.Grouped — numbers fall into groups of three digits

A comma is put by the number of digits that are still to come, going from left to right, while the groups are counted
from the right. What holds on the way is that fewer than three digits stand in front of whole groups.

1. `of_mem_groupDigits`, `filter_groupDigits`, `getLast?_groupDigits`: commas are put between digits, and nothing else
   is changed.
2. `groupDigits_append`: digits in front of whole groups have no comma. `exists_groups`: whole groups have one each.
3. `Groups`: a first group of one to three digits and whole groups behind it. `exists_groups_groupDigits`: so it is with
   all digits. `Groups.length_text`: hence the number of commas.
4. `filter_grouped`, `grouped_injective`: the digits of a number, and so the number, are known from its text.
   `grouped_spells`: all of it, for numbers.
-/

namespace LineCensus

variable {first : Bool} {digits front rest : List Char} {groups : List (List Char)}

/-! ## Digits with commas between them -/

/-- Grouped digits are the digits and commas. -/
theorem of_mem_groupDigits {c : Char} (h : c ∈ groupDigits first digits) : c = ',' ∨ c ∈ digits := by
  induction digits generalizing first with
  | nil => cases h
  | cons d rest ih =>
    rw [groupDigits] at h
    split at h
    · rcases List.mem_cons.1 h with rfl | h
      · exact .inl rfl
      · rcases List.mem_cons.1 h with rfl | h
        · exact .inr List.mem_cons_self
        · exact (ih h).imp_right (List.mem_cons_of_mem d)
    · rcases List.mem_cons.1 h with rfl | h
      · exact .inr List.mem_cons_self
      · exact (ih h).imp_right (List.mem_cons_of_mem d)

/-- Without the commas the digits are left. -/
theorem filter_groupDigits (h : ',' ∉ digits) : (groupDigits first digits).filter (· != ',') = digits := by
  induction digits generalizing first with
  | nil => rfl
  | cons d rest ih =>
    rcases not_or.1 (mt List.mem_cons.2 h) with ⟨hd, hrest⟩
    have hkept : d ≠ ',' := Ne.symm hd
    rw [groupDigits]
    split
    · simp [hkept, ih hrest]
    · simp [hkept, ih hrest]

theorem groupDigits_ne_nil (h : digits ≠ []) : groupDigits first digits ≠ [] := by
  cases digits with
  | nil => exact absurd rfl h
  | cons d rest =>
    rw [groupDigits]
    split <;> exact List.cons_ne_nil _ _

/-- The last digit has no comma behind it. -/
theorem getLast?_groupDigits : (groupDigits first digits).getLast? = digits.getLast? := by
  induction digits generalizing first with
  | nil => rfl
  | cons d rest ih =>
    cases rest with
    | nil => simp [groupDigits]
    | cons e more =>
      have hne : groupDigits false (e :: more) ≠ [] := groupDigits_ne_nil (List.cons_ne_nil e more)
      have hlast : ∀ c, (c :: groupDigits false (e :: more)).getLast? = (d :: e :: more).getLast? := by
        intro c
        rw [List.getLast?_cons_of_ne_nil hne, ih, List.getLast?_cons_cons]
      rw [groupDigits]
      split
      · rw [List.getLast?_cons_cons, hlast]
      · exact hlast d

/-! ## Groups -/

/-- Fewer than three digits in front of whole groups have no comma. -/
theorem groupDigits_append (hfront : front.length < 3) (hrest : 3 ∣ rest.length) :
    groupDigits false (front ++ rest) = front ++ groupDigits false rest := by
  induction front with
  | nil => rfl
  | cons d front ih =>
    rw [List.length_cons] at hfront
    have hnot : ((front ++ rest).length + 1) % 3 ≠ 0 := by
      rw [List.length_append]
      omega
    rw [List.cons_append, groupDigits, if_neg (by simpa using hnot), ih (by omega), List.cons_append]

/-- Whole groups have a comma in front of each. -/
theorem exists_groups {k : Nat} (h : digits.length = 3 * k) :
    ∃ groups : List (List Char), digits = groups.flatten ∧ (∀ group ∈ groups, group.length = 3) ∧
      groupDigits false digits = groups.flatMap (',' :: ·) := by
  induction k generalizing digits with
  | zero =>
    obtain rfl : digits = [] := List.eq_nil_of_length_eq_zero h
    exact ⟨[], rfl, by simp, rfl⟩
  | succ k ih =>
    cases digits with
    | nil => simp at h
    | cons d tail =>
      rw [List.length_cons] at h
      have hpair : (tail.take 2).length = 2 := by
        rw [List.length_take]
        omega
      have hbehind : (tail.drop 2).length = 3 * k := by
        rw [List.length_drop]
        omega
      rcases ih hbehind with ⟨groups, hflatten, hlength, hgroups⟩
      have htail : tail = tail.take 2 ++ tail.drop 2 := (List.take_append_drop 2 tail).symm
      -- the first digit has its comma, the other two of its group have none
      have hcomma : (tail.length + 1) % 3 = 0 := by omega
      have hgrouped : groupDigits false (d :: tail) = ',' :: d :: groupDigits false tail := by
        rw [groupDigits, if_pos (by simpa using hcomma)]
      refine ⟨(d :: tail.take 2) :: groups, ?_, ?_, ?_⟩
      · rw [List.flatten_cons, ← hflatten, List.cons_append, ← htail]
      · intro group hgroup
        rcases List.mem_cons.1 hgroup with rfl | hgroup
        · rw [List.length_cons, hpair]
        · exact hlength group hgroup
      · have hrest : groupDigits false tail = tail.take 2 ++ groups.flatMap (',' :: ·) := by
          rw [← hgroups, ← groupDigits_append (by omega) (by omega), ← htail]
        rw [hgrouped, hrest, List.flatMap_cons]
        rfl

/-- Digits fall into a first group of one to three and whole groups of three, and each of these has a comma in front of
it. -/
structure Groups (digits text first : List Char) (groups : List (List Char)) : Prop where
  digits_eq : digits = first ++ groups.flatten
  text_eq : text = first ++ groups.flatMap (',' :: ·)
  first_pos : 1 ≤ first.length
  first_le : first.length ≤ 3
  length_group : ∀ group ∈ groups, group.length = 3

/-- All digits fall into groups. What is left over by whole groups stands in front of them. -/
theorem exists_groups_groupDigits (h : digits ≠ []) :
    ∃ first groups, Groups digits (groupDigits true digits) first groups := by
  cases digits with
  | nil => exact absurd rfl h
  | cons d tail =>
    have hover : (tail.take (tail.length % 3)).length = tail.length % 3 := by
      rw [List.length_take]
      omega
    have hwhole : (tail.drop (tail.length % 3)).length = 3 * (tail.length / 3) := by
      rw [List.length_drop]
      omega
    rcases exists_groups hwhole with ⟨groups, hflatten, hlength, hgroups⟩
    have htail : tail = tail.take (tail.length % 3) ++ tail.drop (tail.length % 3) :=
      (List.take_append_drop _ tail).symm
    have hgrouped : groupDigits true (d :: tail) = d :: groupDigits false tail := if_neg (by simp)
    refine ⟨d :: tail.take (tail.length % 3), groups, ?_, ?_, ?_, ?_, hlength⟩
    · rw [← hflatten, List.cons_append, ← htail]
    · rw [hgrouped, List.cons_append, ← hgroups, ← groupDigits_append (by omega) (by omega), ← htail]
    · rw [List.length_cons]
      omega
    · rw [List.length_cons]
      omega

theorem length_flatten_groups (h : ∀ group ∈ groups, group.length = 3) : groups.flatten.length = 3 * groups.length := by
  induction groups with
  | nil => rfl
  | cons group rest ih =>
    have hgroup : group.length = 3 := h group List.mem_cons_self
    have hrest := ih (fun g hg => h g (List.mem_cons_of_mem group hg))
    rw [List.flatten_cons, List.length_append, List.length_cons]
    omega

theorem length_flatMap_comma (groups : List (List Char)) :
    (groups.flatMap (',' :: ·)).length = groups.flatten.length + groups.length := by
  induction groups with
  | nil => rfl
  | cons group rest ih =>
    rw [List.flatMap_cons, List.flatten_cons, List.length_append, List.length_append, List.length_cons,
      List.length_cons]
    omega

namespace Groups

variable {text lead : List Char} (h : Groups digits text lead groups)
include h

/-- There is a comma for every three digits behind the first one. -/
theorem length_text : text.length = digits.length + (digits.length - 1) / 3 := by
  have hflatten := length_flatten_groups h.length_group
  have hpos := h.first_pos
  have hle := h.first_le
  rw [h.text_eq, h.digits_eq, List.length_append, List.length_append, length_flatMap_comma]
  omega

theorem head?_text : text.head? = digits.head? := by
  obtain ⟨d, more, hlead⟩ := List.exists_cons_of_length_pos h.first_pos
  rw [h.text_eq, h.digits_eq, hlead]
  rfl

theorem mem_of_mem_lead {c : Char} (hc : c ∈ lead) : c ∈ digits := by
  rw [h.digits_eq]
  exact List.mem_append_left _ hc

theorem mem_of_mem_group {group : List Char} (hgroup : group ∈ groups) {c : Char} (hc : c ∈ group) : c ∈ digits := by
  rw [h.digits_eq]
  exact List.mem_append_right _ (List.mem_flatten.2 ⟨group, hgroup, hc⟩)

end Groups

/-! ## Numbers -/

theorem isDigit_of_mem_toDigits {n : Nat} {c : Char} (h : c ∈ Nat.toDigits 10 n) : c.isDigit = true :=
  Nat.isDigit_of_mem_toDigits (by decide) (by decide) h

theorem comma_not_mem_toDigits (n : Nat) : ',' ∉ Nat.toDigits 10 n := by
  intro hmem
  exact absurd (isDigit_of_mem_toDigits hmem) (by decide)

/-- No number but zero begins with a zero. -/
theorem head?_toDigits_iff (n : Nat) : (Nat.toDigits 10 n).head? = some '0' ↔ n = 0 := by
  constructor
  · intro hzero
    by_cases hn : 0 < n
    · exact absurd hzero (Json.head?_toDigits hn)
    · omega
  · rintro rfl
    rfl

/-- Without the commas the digits of a number are left. -/
theorem filter_grouped (n : Nat) : (grouped n).filter (· != ',') = Nat.toDigits 10 n :=
  filter_groupDigits (comma_not_mem_toDigits n)

/-- Numbers that are shown alike have the same digits, and so are the same. -/
theorem grouped_injective {m n : Nat} (h : grouped m = grouped n) : m = n := by
  have hdigits : Nat.toDigits 10 m = Nat.toDigits 10 n := by rw [← filter_grouped m, h, filter_grouped n]
  have hvalue : ∀ k, Nat.ofDigitChars 10 (Nat.toDigits 10 k) 0 = k := by
    intro k
    exact Nat.ofDigitChars_toDigits (by decide) (by decide)
  rw [← hvalue m, hdigits, hvalue n]

/-- A number is shown by its digits, without a needless zero in front, and commas. The digits are left if the commas are
taken away. Behind a first group of one to three digits stand groups of three, each with a comma in front of it, so
there is a comma for every three digits behind the first one, and neither end of the text is a comma. Different numbers
are shown differently. -/
theorem grouped_spells (n : Nat) :
    (∀ c ∈ grouped n, c = ',' ∨ c.isDigit = true) ∧
      (grouped n).filter (· != ',') = Nat.toDigits 10 n ∧
      Nat.ofDigitChars 10 (Nat.toDigits 10 n) 0 = n ∧
      ((Nat.toDigits 10 n).head? = some '0' ↔ n = 0) ∧
      (∃ (first : List Char) (groups : List (List Char)),
        grouped n = first ++ groups.flatMap (',' :: ·) ∧ 1 ≤ first.length ∧ first.length ≤ 3 ∧
        (∀ c ∈ first, c.isDigit = true) ∧
        ∀ group ∈ groups, group.length = 3 ∧ ∀ c ∈ group, c.isDigit = true) ∧
      (grouped n).length = (Nat.toDigits 10 n).length + ((Nat.toDigits 10 n).length - 1) / 3 ∧
      (grouped n).head? ≠ some ',' ∧ (grouped n).getLast? ≠ some ',' ∧
      ∀ m, grouped m = grouped n ↔ m = n := by
  rcases exists_groups_groupDigits (Nat.toDigits_ne_nil (b := 10) (n := n)) with ⟨first, groups, hgroups⟩
  refine ⟨?_, filter_grouped n, Nat.ofDigitChars_toDigits (by decide) (by decide), head?_toDigits_iff n,
    ⟨first, groups, hgroups.text_eq, hgroups.first_pos, hgroups.first_le, ?_, ?_⟩, hgroups.length_text, ?_, ?_, ?_⟩
  · intro c hc
    exact (of_mem_groupDigits hc).imp_right isDigit_of_mem_toDigits
  · intro c hc
    exact isDigit_of_mem_toDigits (hgroups.mem_of_mem_lead hc)
  · intro group hgroup
    refine ⟨hgroups.length_group group hgroup, ?_⟩
    intro c hc
    exact isDigit_of_mem_toDigits (hgroups.mem_of_mem_group hgroup hc)
  · intro hhead
    have hfirst : (Nat.toDigits 10 n).head? = some ',' := hgroups.head?_text.symm.trans hhead
    exact comma_not_mem_toDigits n (List.mem_of_mem_head? hfirst)
  · intro hlast
    have hdigits : (Nat.toDigits 10 n).getLast? = some ',' := getLast?_groupDigits.symm.trans hlast
    exact comma_not_mem_toDigits n (List.mem_of_mem_getLast? hdigits)
  · intro m
    constructor
    · exact grouped_injective
    · intro hsame
      rw [hsame]

/-- Seven digits fall into three groups, and no other number is shown like this. -/
theorem grouped_spells_millions :
    grouped 1234567 = "1,234,567".toList ∧ (grouped 1234567).length = 7 + (7 - 1) / 3 ∧
      ∀ m, grouped m = "1,234,567".toList ↔ m = 1234567 := by
  have hgrouped : grouped 1234567 = "1,234,567".toList := by decide
  rcases grouped_spells 1234567 with ⟨-, -, -, -, -, hlength, -, -, honly⟩
  rw [hgrouped] at honly
  exact ⟨hgrouped, hlength, honly⟩

end LineCensus
