import LineCensus.Pattern.Node

/-!
# LineCensus.Pattern.Search — the leftmost match, by preference

A search holds, at one position of the text, a list of *states*. A state is what remains to be matched,
as a list of nodes to match one after the other, and earlier states are preferred.

1. `Front`: the states met at one position, the states that remain behind the next character, and
   whether some state had nothing left to match.
2. `close`: follows a state through everything that reads no character. A state that was met before at
   this position is dropped, since the earlier meeting is preferred; this also ends the empty rounds of
   a loop, because the loop's own state has been met by then. Once a match is found, all later states
   are dropped.
3. `searchFrom`, `after?`: moves along the text, lets a new attempt begin at each position until
   something has matched, and gives the text after the leftmost, most preferred match.

Each position meets a state at most once, so the number of steps is bounded by the length of the text
times the number of states, whatever the pattern.
-/

namespace LineCensus.Pattern

/-- What remains to be matched, one node after the other. -/
abbrev State := List Node

/-- The search at one position. -/
structure Front where
  /-- The states met at this position. -/
  seen : List State
  /-- The states behind the next character, most preferred last. -/
  ready : List State
  /-- Whether a match ends at this position. -/
  found : Bool
deriving Repr

namespace Front

/-- Before any state is met. -/
def empty : Front := ⟨[], [], false⟩

/-- A state is met. -/
def meet (f : Front) (s : State) : Front := { f with seen := s :: f.seen }

/-- A state reads the next character. -/
def push (f : Front) (s : State) : Front := { f with ready := s :: f.ready }

end Front

namespace Node

/-- A bound on the steps that following a node without reading can take. -/
def breadth : Node → Nat
  | .empty | .set _ | .look _ => 1
  | .cat a b | .alt a b => 1 + a.breadth + b.breadth
  | .times body count | .upTo body count _ => 1 + count * (body.breadth + 1)
  | .loop body _ => 1 + body.breadth

end Node

/-- The steps that following a list of nodes can take. -/
def breadth : List Node → Nat
  | [] => 0
  | n :: rest => n.breadth + breadth rest

/-! ## Following a state without reading -/

/-- Follows the state `todo ++ kept` through `todo`. Inside a loop `kept` is the loop and what comes
after it: that state has been met already, so nothing is left to do when `todo` runs out. -/
def close (before after : Option Char) (todo kept : List Node) (f : Front) : Front :=
  if f.found || f.seen.contains (todo ++ kept) then f
  else
    match todo with
    | [] => if kept.isEmpty then { f with found := true } else f
    | .empty :: rest => close before after rest kept (f.meet (.empty :: rest ++ kept))
    | .set s :: rest =>
      let f := f.meet (.set s :: rest ++ kept)
      if after.any s.contains then f.push (rest ++ kept) else f
    | .look a :: rest =>
      let f := f.meet (.look a :: rest ++ kept)
      if a.holds before after then close before after rest kept f else f
    | .cat a b :: rest =>
      close before after (a :: b :: rest) kept (f.meet (.cat a b :: rest ++ kept))
    | .alt a b :: rest =>
      let f := f.meet (.alt a b :: rest ++ kept)
      close before after (b :: rest) kept (close before after (a :: rest) kept f)
    | .times body 0 :: rest =>
      close before after rest kept (f.meet (.times body 0 :: rest ++ kept))
    | .times body (n + 1) :: rest =>
      close before after (body :: .times body n :: rest) kept
        (f.meet (.times body (n + 1) :: rest ++ kept))
    | .upTo body 0 greedy :: rest =>
      close before after rest kept (f.meet (.upTo body 0 greedy :: rest ++ kept))
    | .upTo body (n + 1) greedy :: rest =>
      let f := f.meet (.upTo body (n + 1) greedy :: rest ++ kept)
      if greedy then
        close before after rest kept
          (close before after (body :: .upTo body n greedy :: rest) kept f)
      else
        close before after (body :: .upTo body n greedy :: rest) kept
          (close before after rest kept f)
    | .loop body greedy :: rest =>
      let f := f.meet (.loop body greedy :: rest ++ kept)
      if greedy then
        close before after rest kept
          (close before after [body] (.loop body greedy :: rest ++ kept) f)
      else
        close before after [body] (.loop body greedy :: rest ++ kept)
          (close before after rest kept f)
termination_by breadth todo
decreasing_by
  all_goals simp only [breadth, Node.breadth, Nat.succ_mul]; omega

/-- Follows all states at one position, most preferred first. -/
def sweep (before after : Option Char) (states : List State) : Front :=
  states.foldl (fun f s => close before after s [] f) .empty

/-! ## Moving along the text -/

/-- The text after the leftmost, most preferred match in `text`, where `before` is the character in
front of it, `threads` are the states under way and `best` is the text after the match found so far. -/
def searchFrom (node : Node) (threads : List State) (before : Option Char)
    (best : Option (List Char)) : List Char → Option (List Char)
  | [] =>
    let states := if best.isNone then threads ++ [[node]] else threads
    if (sweep before none states).found then some [] else best
  | c :: rest =>
    let states := if best.isNone then threads ++ [[node]] else threads
    let front := sweep before (some c) states
    let best := if front.found then some (c :: rest) else best
    if best.isSome && front.ready.isEmpty then best
    else searchFrom node front.ready.reverse (some c) best rest

namespace Node

/-- The text after the leftmost, most preferred match, if there is a match. -/
def after? (node : Node) (text : List Char) : Option (List Char) :=
  searchFrom node [] none none text

/-- Whether the pattern matches somewhere in the text. -/
def occursIn (node : Node) (text : List Char) : Bool := (node.after? text).isSome

end Node

end LineCensus.Pattern
