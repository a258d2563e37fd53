import BnfParsing.Regex.Reading
import BnfParsing.Regex.Search

/-!
Contract: a pattern together with the machine that searches for it.

Owns: compiled patterns, which are equal exactly when their written forms are;
the search for a match and the texts of its groups.

Does not own: how a grammar uses a match.
-/

set_option autoImplicit false

namespace BnfParsing

/-- A pattern with its expression and its program, both determined by the
written form. -/
structure Regex where
  pattern : Text
  expression : Regex.Expression
  entry : Regex.Program.Entry
  expression_eq : Regex.Expression.ofPattern? pattern = some expression
  entry_eq : Regex.Program.ofExpression expression = entry

namespace Regex

/-- The compiled form of a well-formed pattern. -/
def ofPattern? (pattern : Text) : Option Regex :=
  match compiled : Expression.ofPattern? pattern with
  | none => none
  | some expression =>
      some ⟨pattern, expression, Program.ofExpression expression, compiled, rfl⟩

theorem ext_pattern {left right : Regex} (samePattern : left.pattern = right.pattern) :
    left = right := by
  cases left with
  | mk pattern expression entry expressionEq entryEq =>
      cases right with
      | mk otherPattern otherExpression otherEntry otherExpressionEq otherEntryEq =>
          simp only at samePattern
          subst samePattern
          have sameExpression : expression = otherExpression :=
            Option.some.inj (expressionEq.symm.trans otherExpressionEq)
          subst sameExpression
          subst entryEq
          subst otherEntryEq
          rfl

instance : DecidableEq Regex := fun left right =>
  if samePattern : left.pattern = right.pattern then isTrue (ext_pattern samePattern)
  else isFalse fun same => samePattern (congrArg Regex.pattern same)

/-- The number of groups a match reports. -/
def groupCount (regex : Regex) : Nat :=
  regex.expression.groupCount

/-- The leftmost match, and among those that start there the preferred one. -/
def find? (regex : Regex) (text : Text) : Option Match :=
  Search.find? regex.entry regex.groupCount text

/-- The characters between two positions of a text. -/
private def between (text : Text) (start stop : Nat) : Text :=
  (text.drop start).take (stop - start)

/-- The text of every group of the match, empty for a group that took no part;
nothing if there is no match. -/
def groupTexts (regex : Regex) (text : Text) : List Text :=
  match regex.find? text with
  | none => []
  | some found =>
      found.groups.map fun group =>
        match group with
        | none => []
        | some (start, stop) => between text start stop

end Regex

end BnfParsing
