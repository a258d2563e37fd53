import BnfParsing.Text.Basic

/-!
Contract: what is wrong with a rule that does not compile, and where.

Owns: spans, the faults with their wording, and the error message.

Does not own: finding faults, or drawing them under the rule.
-/

set_option autoImplicit false

namespace BnfParsing

/-- A range of offsets into the UTF-8 bytes of a text. -/
structure Span where
  start : Nat
  stop : Nat
deriving DecidableEq, Repr

namespace Span

/-- The span moved to the right. -/
def shift (offset : Nat) (span : Span) : Span :=
  ⟨offset + span.start, offset + span.stop⟩

end Span

/-- Why a rule does not compile. -/
inductive Fault where
  | missingSeparator
  | multipleSeparators
  | emptyLeftHandSide
  | emptyRightHandSide
  | emptyAlternative
  | emptyTerminal
  | unseparatedSymbols (word : Text)
  | invalidPattern
  | malformedEscape (shown : Text)
deriving DecidableEq, Repr

namespace Fault

/-- What the fault is. -/
def message : Fault → Text
  | .missingSeparator => "cannot find left- and right-hand side of BNF rule".toList
  | .multipleSeparators => "rule contains more than one `:=` separator".toList
  | .emptyLeftHandSide => "left-hand side of BNF rule is empty".toList
  | .emptyRightHandSide => "right-hand side of BNF rule is empty".toList
  | .emptyAlternative => "alternative of BNF rule is empty".toList
  | .emptyTerminal => "trying to create an empty terminal token".toList
  | .unseparatedSymbols word =>
      "the expression '".toList ++ word
        ++ "' contains tokens that are not separated by spaces".toList
  | .invalidPattern => "invalid regular expression: REGEX".toList
  | .malformedEscape shown =>
      "malformed \\uxxxx escape in '".toList ++ shown ++ "'".toList

/-- What to do about the fault. -/
def hint : Fault → Text
  | .missingSeparator => "expected `<name> := ...`".toList
  | .multipleSeparators => "second `:=` here".toList
  | .emptyLeftHandSide => "no rule name before `:=`".toList
  | .emptyRightHandSide => "nothing after `:=`".toList
  | .emptyAlternative => "empty case".toList
  | .emptyTerminal => "doubled space".toList
  | .unseparatedSymbols _ => "separate tokens with a space".toList
  | .invalidPattern => "pattern does not compile".toList
  | .malformedEscape _ => "expected four hex digits".toList

end Fault

/-- A rule that does not compile, with the line of the grammar it stands on, if
it comes from one, and the span that is to blame. -/
structure InvalidRule where
  line : Option Nat := none
  rule : Text
  span : Span
  fault : Fault
deriving DecidableEq, Repr

namespace InvalidRule

/-- The error placed on a line, counted from one. -/
def atLine (invalid : InvalidRule) (line : Nat) : InvalidRule :=
  { invalid with line := some line }

/-- The error in one line. -/
def message (invalid : InvalidRule) : Text :=
  match invalid.line with
  | some line =>
      "On line ".toList ++ Text.ofNat line ++ ", with rule '".toList ++ invalid.rule
        ++ "', encountered error: ".toList ++ invalid.fault.message
  | none =>
      "With rule '".toList ++ invalid.rule ++ "', encountered error: ".toList
        ++ invalid.fault.message

end InvalidRule

end BnfParsing
