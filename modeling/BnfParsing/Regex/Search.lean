import BnfParsing.Regex.Program

/-!
Contract: the preferred match of a program in a text.

Owns:
- the run of a program, which tries preferred ways first and enters no
  instruction twice at one position, so that it takes at most a fixed number of
  steps per instruction and position;
- the search from left to right for the first position with a match;
- the positions of the groups on the way that matched.

Does not own: the written form of expressions.
-/

set_option autoImplicit false

namespace BnfParsing.Regex

/-- A match, in character positions, with the groups from the first on. -/
structure Match where
  start : Nat
  stop : Nat
  groups : List (Option (Nat × Nat))
deriving DecidableEq, Repr

namespace Search

/-- One way through the program that has not failed yet. The marks are those
set so far, the latest first. -/
structure Thread where
  address : Nat
  position : Nat
  marks : List (Nat × Nat)

/-- The threads that continue one after a single instruction. -/
def successors (input : Array Char) (thread : Thread) : Instruction → List Thread
  | .oneOf set next =>
      match input[thread.position]? with
      | some character =>
          if set.containsChar character then
            [⟨next, thread.position + 1, thread.marks⟩]
          else []
      | none => []
  | .assertion condition next =>
      let before := if thread.position = 0 then none else input[thread.position - 1]?
      if condition.holds before input[thread.position]? then
        [{ thread with address := next }]
      else []
  | .fork preferred other =>
      [{ thread with address := preferred }, { thread with address := other }]
  | .mark slot next =>
      [⟨next, thread.position, (slot, thread.position) :: thread.marks⟩]
  | .accept => []

/-- Runs the threads in order until one accepts. `entered` tells which
instruction has been entered at which position. -/
def run (program : Program) (input : Array Char) :
    (fuel : Nat) → (entered : Array Bool) → List Thread → Option Thread × Array Bool
  | 0, entered, _ => (none, entered)
  | _, entered, [] => (none, entered)
  | fuel + 1, entered, thread :: waiting =>
      let place := thread.address * (input.size + 1) + thread.position
      if entered.getD place true then run program input fuel entered waiting
      else
        let entered := entered.setIfInBounds place true
        match program[thread.address]? with
        | none => run program input fuel entered waiting
        | some .accept => (some thread, entered)
        | some instruction =>
            run program input fuel entered
              (successors input thread instruction ++ waiting)

/-- The number of places a thread can enter. -/
private def placeCount (program : Program) (input : Array Char) : Nat :=
  program.size * (input.size + 1)

/-- The first match that starts at `position` or one of the `remaining`
positions after it. -/
def scan (entry : Program.Entry) (input : Array Char) :
    (remaining position : Nat) → (entered : Array Bool) → Option (Nat × Thread)
  | remaining, position, entered =>
      let fuel := 2 * placeCount entry.program input + 2
      match run entry.program input fuel entered [⟨entry.address, position, []⟩] with
      | (some thread, _) => some (position, thread)
      | (none, entered) =>
          match remaining with
          | 0 => none
          | remaining + 1 => scan entry input remaining (position + 1) entered

private def groupOf (marks : List (Nat × Nat)) (index : Nat) : Option (Nat × Nat) := do
  let start ← marks.lookup (2 * index)
  let stop ← marks.lookup (2 * index + 1)
  return (start, stop)

/-- The preferred match of a program with `groupCount` groups. -/
def find? (entry : Program.Entry) (groupCount : Nat) (text : Text) : Option Match :=
  let input := text.toArray
  let entered := Array.replicate (placeCount entry.program input) false
  (scan entry input input.size 0 entered).map fun (start, thread) =>
    { start := start
      stop := thread.position
      groups := (List.range groupCount).map fun index => groupOf thread.marks (index + 1) }

end Search

end BnfParsing.Regex
