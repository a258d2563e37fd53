import BnfParsing.Regex.Expression

/-!
Contract: expressions as programs of a machine that advances over a text.

Owns:
- the instructions and their layout for each kind of expression;
- the rule that a repeated part which may be empty is entered at most once more
  at the same position, because leaving a copy and entering the first one are
  different instructions.

Does not own: how a program is run.
-/

set_option autoImplicit false

namespace BnfParsing.Regex

/-- One instruction; the numbers are addresses of other instructions. -/
inductive Instruction where
  /-- Consume one character of the set. -/
  | oneOf (set : CodePointSet) (next : Nat)
  /-- Go on where a condition holds. -/
  | assertion (condition : Assertion) (next : Nat)
  /-- Try two ways, the first preferred. -/
  | fork (preferred other : Nat)
  /-- Note the position under a slot: two for each group, start before end. -/
  | mark (slot next : Nat)
  /-- The whole expression has matched. -/
  | accept
deriving DecidableEq, Repr, Inhabited

/-- Instructions under their addresses. -/
abbrev Program := Array Instruction

namespace Program

/-- A fork between going on inside a repetition and leaving it. -/
def fork (greedy : Bool) (inside outside : Nat) : Instruction :=
  if greedy then .fork inside outside else .fork outside inside

/-- A program with the address at which it is entered. -/
structure Entry where
  address : Nat
  program : Program

private def Entry.append (program : Program) (instruction : Instruction) : Entry :=
  ⟨program.size, program.push instruction⟩

/-- Puts the instructions for an expression in front of those at `next`. -/
def precede : Expression → Entry → Entry
  | .empty, next => next
  | .oneOf set, next => .append next.program (.oneOf set next.address)
  | .assertion condition, next => .append next.program (.assertion condition next.address)
  | .group index inner, next =>
      let closed := Entry.append next.program (.mark (2 * index + 1) next.address)
      let body := precede inner closed
      .append body.program (.mark (2 * index) body.address)
  | .sequence first second, next => precede first (precede second next)
  | .choice first second, next =>
      let other := precede second next
      let preferred := precede first ⟨next.address, other.program⟩
      .append preferred.program (.fork preferred.address other.address)
  | .repetition inner least most greedy, next =>
      match most with
      | none =>
          let again := next.program.size
          let copy := precede inner ⟨again, next.program.push .accept⟩
          let looped : Entry :=
            ⟨copy.address,
              copy.program.setIfInBounds again (fork greedy copy.address next.address)⟩
          if least = 0 then .append looped.program (fork greedy looped.address next.address)
          else Nat.repeat (fun entry => precede inner entry) (least - 1) looped
      | some most =>
          let optional := Nat.repeat
            (fun entry =>
              let copy := precede inner entry
              Entry.append copy.program (fork greedy copy.address next.address))
            (most - least) next
          Nat.repeat (fun entry => precede inner entry) least optional

/-- The program of a whole expression. -/
def ofExpression (expression : Expression) : Entry :=
  precede expression ⟨0, #[.accept]⟩

end Program

end BnfParsing.Regex
