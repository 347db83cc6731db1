import Mathlib.Data.List.Induction
import LineCensus.Program

/-!
# LineCensus.Proofs.Program.LogFilter — the most specific directive decides

A filter is gone through from left to right with the directive that decides so far. One more directive at the end
decides if it names no less of the target.

1. `Decides`: of the directives for a target, none in front names more of it and none behind names as much.
   `directive?_eq_some_iff`, `directive?_eq_none_iff`: this is the directive that is found.
2. `rank_of_decides`, `rank_of_not_covered`: its rank is in force. `rank_concat_all`: a directive for all targets at the
   end decides unless one for a part of the program does.
3. `logs_ofRun_request`, `logs_ofRun_default`: what is logged on request, and what without request and filter.
   `logged_request`, `debugLines_default`: hence all of a run, or nothing but warnings.
-/

namespace LineCensus

namespace LogFilter

variable {f : LogFilter} {d : Directive} {target : List Char}

/-! ## The directive that decides -/

/-- A directive decides over a target: none in front of it names more of the target, and none behind it as much. -/
def Decides (f : LogFilter) (target : List Char) (d : Directive) : Prop :=
  ∃ front back, f = front ++ d :: back ∧ d.covers target = true ∧
    (∀ e ∈ front, e.covers target = true → e.target.length ≤ d.target.length) ∧
    ∀ e ∈ back, e.covers target = true → e.target.length < d.target.length

theorem Decides.mem (h : f.Decides target d) : d ∈ f := by
  rcases h with ⟨front, back, rfl, -⟩
  exact List.mem_append_right front List.mem_cons_self

/-- One more directive is the one that decides, or is passed over. -/
theorem decides_concat_iff {e : Directive} :
    (f ++ [e]).Decides target d ↔
      (d = e ∧ e.covers target = true ∧
          ∀ other ∈ f, other.covers target = true → other.target.length ≤ e.target.length) ∨
        (f.Decides target d ∧ (e.covers target = true → e.target.length < d.target.length)) := by
  constructor
  · rintro ⟨front, back, hsplit, hcovers, hfront, hback⟩
    cases back using List.reverseRecOn with
    | nil =>
      rcases List.append_inj' hsplit rfl with ⟨rfl, hlast⟩
      obtain rfl : e = d := List.singleton_inj.1 hlast
      exact .inl ⟨rfl, hcovers, hfront⟩
    | append_singleton back last =>
      rw [← List.cons_append, ← List.append_assoc] at hsplit
      rcases List.append_inj' hsplit rfl with ⟨rfl, hlast⟩
      obtain rfl : e = last := List.singleton_inj.1 hlast
      have hbefore : ∀ x ∈ back, x.covers target = true → x.target.length < d.target.length := by
        intro x hx
        exact hback x (List.mem_append_left _ hx)
      exact .inr ⟨⟨front, back, rfl, hcovers, hfront, hbefore⟩, hback e (List.mem_append_right _ List.mem_cons_self)⟩
  · rintro (⟨rfl, hcovers, hall⟩ | ⟨⟨front, back, rfl, hcovers, hfront, hback⟩, hless⟩)
    · exact ⟨f, [], rfl, hcovers, hall, nofun⟩
    · refine ⟨front, back ++ [e], by simp, hcovers, hfront, ?_⟩
      intro x hx
      rcases List.mem_append.1 hx with hx | hx
      · exact hback x hx
      · obtain rfl := List.mem_singleton.1 hx
        exact hless

theorem directive?_concat (f : LogFilter) (e : Directive) (target : List Char) :
    (f ++ [e]).directive? target =
      if e.covers target && (f.directive? target).all (·.target.length ≤ e.target.length) then some e
      else f.directive? target := by
  rw [directive?, List.foldl_append]
  rfl

/-- A directive for the target is found if there is one. -/
theorem directive?_eq_none_iff : directive? f target = none ↔ ∀ d ∈ f, d.covers target = false := by
  induction f using List.reverseRecOn with
  | nil => exact ⟨fun _ => nofun, fun _ => rfl⟩
  | append_singleton f e ih =>
    rw [directive?_concat, List.forall_mem_append, ← ih]
    cases hfound : directive? f target with
    | none => simp
    | some d => split <;> simp

/-- What is found names at least as much of the target as every directive for it. -/
theorem all_directive?_iff {bound : Nat} :
    (directive? f target).all (·.target.length ≤ bound) = true ↔
      ∀ e ∈ f, e.covers target = true → e.target.length ≤ bound := by
  induction f using List.reverseRecOn generalizing bound with
  | nil => exact ⟨fun _ => nofun, fun _ => rfl⟩
  | append_singleton f e ih =>
    rw [directive?_concat, List.forall_mem_append, ← ih, List.forall_mem_singleton]
    split
    · next hwins =>
      rw [Bool.and_eq_true] at hwins
      rcases hwins with ⟨hcovers, hmost⟩
      simp only [Option.all_some, decide_eq_true_iff, hcovers, true_implies]
      constructor
      · intro hbound
        refine ⟨ih.2 ?_, hbound⟩
        intro x hx hx'
        exact Nat.le_trans (ih.1 hmost x hx hx') hbound
      · exact And.right
    · next hloses =>
      constructor
      · intro hbound
        refine ⟨hbound, ?_⟩
        intro hcovers
        -- what was found before names more than the new directive
        cases hfound : directive? f target with
        | none => simp [hfound, hcovers] at hloses
        | some d =>
          simp only [hfound, hcovers, Option.all_some, Bool.true_and, decide_eq_true_iff] at hloses hbound
          omega
      · exact And.left

/-- The directive that decides is found. -/
theorem directive?_eq_some_iff : directive? f target = some d ↔ Decides f target d := by
  induction f using List.reverseRecOn generalizing d with
  | nil =>
    constructor
    · intro h
      cases h
    · intro h
      cases h.mem
  | append_singleton f e ih =>
    rw [directive?_concat, decides_concat_iff, ← all_directive?_iff, ← ih]
    split
    · next hwins =>
      rw [Bool.and_eq_true] at hwins
      rcases hwins with ⟨hcovers, hmost⟩
      constructor
      · intro h
        exact .inl ⟨(Option.some.inj h).symm, hcovers, hmost⟩
      · rintro (⟨rfl, -⟩ | ⟨hfound, hless⟩)
        · rfl
        · rw [hfound] at hmost
          have hle : d.target.length ≤ e.target.length := by simpa using hmost
          exact absurd (hless hcovers) (Nat.not_lt.2 hle)
    · next hloses =>
      constructor
      · intro hfound
        refine .inr ⟨hfound, ?_⟩
        intro hcovers
        simpa [hfound, hcovers] using hloses
      · rintro (⟨-, hcovers, hmost⟩ | ⟨hfound, -⟩)
        · exact absurd (Bool.and_eq_true_iff.2 ⟨hcovers, hmost⟩) hloses
        · exact hfound

/-! ## Ranks -/

theorem rank_of_decides (h : Decides f target d) : rank f target = d.rank := by
  rw [rank, directive?_eq_some_iff.2 h]
  rfl

theorem rank_of_not_covered (h : ∀ d ∈ f, d.covers target = false) : rank f target = 0 := by
  rw [rank, directive?_eq_none_iff.2 h]
  rfl

/-- A directive for all targets at the end decides, unless one for a part of the program does. -/
theorem rank_concat_all (f : LogFilter) (target : List Char) (bound : Nat) :
    rank (f ++ [⟨[], bound⟩]) target =
      if (directive? f target).all (·.target.isEmpty) then bound else rank f target := by
  have hcovers : Directive.covers ⟨[], bound⟩ target = true := rfl
  have hempty : ∀ d : Directive, decide (d.target.length ≤ 0) = d.target.isEmpty := by
    intro d
    cases d.target with
    | nil => rfl
    | cons c rest => rfl
  rw [rank, directive?_concat, hcovers, Bool.true_and]
  simp only [List.length_nil, hempty]
  split
  · rfl
  · rfl

/-! ## Runs -/

/-- On request an event is logged, unless a directive for a part of the program decides over it: then it is logged if it
is without request. -/
theorem logs_ofRun_request (text : Option String) (e : Event) :
    (ofRun true text).logs e =
      ((directive? (ofRun false text) e.target.toList).all (·.target.isEmpty) || (ofRun false text).logs e) := by
  have hrequest : ofRun true text = ofRun false text ++ [⟨[], 4⟩] := rfl
  have hrank : e.level.rank ≤ 4 := by
    cases e.level with
    | debug => exact Nat.le_refl 4
    | warn => decide
  rw [logs, hrequest, rank_concat_all]
  split
  · next hall => rw [hall, Bool.true_or, decide_eq_true hrank]
  · next hsome => rw [Bool.eq_false_iff.2 hsome, Bool.false_or, logs]

/-- Without request and filter, warnings are logged and nothing else. -/
theorem logs_ofRun_default (e : Event) : (ofRun false none).logs e = (e.level == .warn) := by
  have hrank : rank (ofRun false none) e.target.toList = 2 := rfl
  rw [logs, hrank]
  cases e.level with
  | debug => rfl
  | warn => rfl

/-- A filter for one part of the program, with a request that it does not stand against elsewhere. -/
example : ([.settingsLoaded [], .ignoredDirectory [], .complete [] 0 0] : List Event).map
    (ofRun true (some "linecount::scanner=warn,linecount::counter=off,linecount::counter::line=debug")).logs =
      [true, false, true] := by
  decide +kernel

end LogFilter

namespace Outcome

variable {arguments : List String} {o : Options}

/-- On request, and without a filter that stands against it, everything is logged. -/
theorem logged_request (outcome : Outcome) (hparse : Options.parse arguments = .ok o) (hverbose : o.verbose = true) :
    outcome.logged (debugWanted none arguments) = outcome.events := by
  have hwanted : ∀ e, debugWanted none arguments e = true := by
    intro e
    have hdirective : LogFilter.directive? (LogFilter.ofRun false none) e.target.toList = some ⟨[], 2⟩ := rfl
    simp only [debugWanted, hparse, hverbose]
    rw [LogFilter.logs_ofRun_request, hdirective]
    rfl
  exact List.filter_eq_self.2 fun e _ => hwanted e

/-- Without request and filter no debug line is logged. -/
theorem debugLines_default (outcome : Outcome) (hparse : Options.parse arguments = .ok o)
    (hverbose : o.verbose = false) : outcome.debugLines (debugWanted none arguments) = 0 := by
  rw [debugLines, List.countP_eq_zero]
  intro e he
  have hwanted : debugWanted none arguments e = true := (List.mem_filter.1 he).2
  simp only [debugWanted, hparse, hverbose] at hwanted
  rw [LogFilter.logs_ofRun_default, beq_iff_eq] at hwanted
  rw [hwanted]
  decide

end Outcome

end LineCensus
