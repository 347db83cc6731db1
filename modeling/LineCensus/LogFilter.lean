import LineCensus.Event
import LineCensus.Options.CommandLine

/-!
# LineCensus.LogFilter — which events are logged

A log filter is a list of directives, each for the events of some parts of the program. Of several directives for one
event the most specific decides.

1. `logRank?`: levels of logging, ranked from silence to everything.
2. `Directive`: what the targets of events begin with, and the rank up to which they are logged.
3. `LogFilter.directive?`: the directive that decides. `LogFilter.logs`: whether an event is logged.
4. `LogFilter.ofText?`: reads a filter. Directives for spans or fields of events, which stand in brackets, are left out:
   here a text with brackets cannot be read.
5. `LogFilter.ofRun`: the filter of a run.
-/

namespace LineCensus

/-! ## Ranks -/

/-- The rank of a level of logging, by its name in any case or by its digit. -/
def logRank? (name : List Char) : Option Nat :=
  match String.ofList (name.map Char.toLower) with
  | "off" | "0" => some 0
  | "error" | "1" => some 1
  | "warn" | "2" => some 2
  | "info" | "3" => some 3
  | "debug" | "4" => some 4
  | "trace" | "5" => some 5
  | _ => none

/-- The rank of an event. -/
def Level.rank : Level → Nat
  | .warn => 2
  | .debug => 4

/-! ## Directives -/

/-- Up to which rank the events of some targets are logged. -/
structure Directive where
  /-- What the targets begin with. Nothing is what all targets begin with. -/
  target : List Char
  rank : Nat
deriving DecidableEq, Repr

namespace Directive

/-- Whether the directive is for a target. -/
def covers (d : Directive) (target : List Char) : Bool := d.target.isPrefixOf target

/-- Whether a text is the name of a target: a letter, a digit, or one of `_`, `:` and `-`, and more of these. -/
def isTarget (text : List Char) : Bool :=
  !text.isEmpty && text.all fun c => c.isAlphanum || c == '_' || c == ':' || c == '-'

/-- Reads a directive: a level for all targets, a target, or a target with a level behind an equals sign. Without a
level everything is logged. -/
def ofText? (text : List Char) : Option Directive :=
  match logRank? text with
  | some rank => some ⟨[], rank⟩
  | none =>
    let target := text.takeWhile (· != '=')
    if !isTarget target then none
    else
      match text.dropWhile (· != '=') with
      | [] | ['='] => some ⟨target, 5⟩
      | _ :: level => (logRank? level).map fun rank => ⟨target, rank⟩

end Directive

/-! ## Filters -/

/-- Directives, in the order in which they were given. -/
abbrev LogFilter := List Directive

namespace LogFilter

/-- The directive that decides over a target: the one that names most of it, and of two that name the same the later
one. -/
def directive? (f : LogFilter) (target : List Char) : Option Directive :=
  f.foldl
    (fun found d =>
      if d.covers target && found.all (·.target.length ≤ d.target.length) then some d else found)
    none

/-- The rank up to which the events of a target are logged; none are without a directive. -/
def rank (f : LogFilter) (target : List Char) : Nat := ((f.directive? target).map (·.rank)).getD 0

/-- Whether an event is logged. -/
def logs (f : LogFilter) (e : Event) : Bool := e.level.rank ≤ f.rank e.target.toList

/-- Reads a filter, whose directives are separated by commas. -/
def ofText? (text : String) : Option LogFilter :=
  ((Line.splitCommas text).filter (!·.isEmpty)).mapM (Directive.ofText? ·.toList)

/-- The filter that is in force if none can be read: warnings. -/
def warnings : LogFilter := [⟨[], 2⟩]

/-- The directive of debug events for all targets. -/
def allDebug : Directive := ⟨[], 4⟩

/-- The filter of a run. On request debug events are logged besides; directives for parts of the program still go
before. -/
def ofRun (verbose : Bool) (text : Option String) : LogFilter :=
  let given := (text.bind ofText?).getD warnings
  if verbose then given ++ [allDebug] else given

end LogFilter

end LineCensus
