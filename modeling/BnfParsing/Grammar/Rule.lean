import BnfParsing.Symbol

/-!
Contract: alternatives and rules, with the order in which a rule is tried.

Owns:
- alternatives, whose try-last flag takes no part in sameness;
- rules, the tried order of their alternatives, and edits of that list;
- the written form of both.

Does not own: how text is compiled into rules, or how rules find each other.
-/

set_option autoImplicit false

namespace BnfParsing

/-- One case of a rule. A try-last alternative waits until every other
alternative of its rule has failed. -/
structure Alternative where
  symbols : List Symbol
  tryLast : Bool := false
deriving DecidableEq

namespace Alternative

/-- Whether two alternatives have the same symbols. -/
def same (left right : Alternative) : Bool :=
  left.symbols.length == right.symbols.length
    && (left.symbols.zip right.symbols).all fun pair => pair.1.same pair.2

/-- The names of the symbols with a space between neighbours. -/
def display (alternative : Alternative) : Text :=
  Text.join [' '] (alternative.symbols.map Symbol.name)

/-- The symbols that are matched directly against a text. -/
def terminals (alternative : Alternative) : List Symbol :=
  alternative.symbols.filter Symbol.isTerminal

/-- The names of the rules it refers to, in order. -/
def references (alternative : Alternative) : List Text :=
  alternative.symbols.filterMap fun symbol =>
    match symbol with
    | .nonTerminal name => some name
    | _ => none

end Alternative

/-- A named list of alternatives, in the order in which they were added. -/
structure Rule where
  name : Text
  alternatives : List Alternative
deriving DecidableEq

namespace Rule

/-- The alternatives in the order in which they are tried: ordinary ones before
try-last ones, each group in the order of addition. -/
def tried (rule : Rule) : List Alternative :=
  rule.alternatives.filter (fun alternative => !alternative.tryLast)
    ++ rule.alternatives.filter Alternative.tryLast

theorem mem_tried {rule : Rule} {alternative : Alternative} :
    alternative ∈ rule.tried ↔ alternative ∈ rule.alternatives := by
  simp only [Rule.tried, List.mem_append, List.mem_filter]
  cases alternative.tryLast <;> simp

/-- Puts `added` into a list at `position`, or at its end if it is shorter. -/
def insertAt (position : Nat) (added existing : List Alternative) : List Alternative :=
  existing.take position ++ added ++ existing.drop position

/-- The rule with more alternatives at its end. -/
def append (rule : Rule) (added : List Alternative) : Rule :=
  { rule with alternatives := rule.alternatives ++ added }

/-- The rule with more alternatives at a position. -/
def insert (rule : Rule) (position : Nat) (added : List Alternative) : Rule :=
  { rule with alternatives := insertAt position added rule.alternatives }

/-- Whether two rules have the same name and the same alternatives in the order
of addition. -/
def same (left right : Rule) : Bool :=
  left.name == right.name && left.alternatives.length == right.alternatives.length
    && (left.alternatives.zip right.alternatives).all fun pair => pair.1.same pair.2

/-- The alternatives behind the first one, each with its bar in front. -/
def displayCases (inLastGroup : Bool) : List Alternative → Text
  | [] => []
  | alternative :: rest =>
      let separator :=
        if alternative.tryLast && !inLastGroup then " || ".toList else " | ".toList
      separator ++ alternative.display
        ++ displayCases (inLastGroup || alternative.tryLast) rest

/-- The alternatives in tried order, with a double bar in front of the first
try-last one unless it comes first. -/
def displayRightSide (rule : Rule) : Text :=
  match rule.tried with
  | [] => []
  | first :: rest => first.display ++ displayCases first.tryLast rest

/-- The rule as a line of a grammar. -/
def display (rule : Rule) : Text :=
  rule.name ++ " := ".toList ++ rule.displayRightSide

/-- The symbols that are matched directly against a text. -/
def terminals (rule : Rule) : List Symbol :=
  rule.alternatives.flatMap Alternative.terminals

/-- The names it refers to, each once, in the order of first appearance. -/
def references (rule : Rule) : List Text :=
  (rule.alternatives.flatMap Alternative.references).foldl
    (fun seen name => if seen.contains name then seen else seen ++ [name]) []

end Rule

end BnfParsing
