import BnfParsing.Grammar.InvalidRule
import BnfParsing.Unicode.Width

/-!
Contract: the drawing that points at the fault inside a rule.

Owns: the characters that a span covers, the frame, the columns of the rule line,
and the two rows of marks under it.

Does not own: the wording of faults. The rule is drawn as a single line.
-/

set_option autoImplicit false

namespace BnfParsing.Report

/-- A range of characters of a rule, counted from zero. -/
structure CharacterRange where
  start : Nat
  stop : Nat
deriving DecidableEq, Repr

/-- The number of characters in front of a byte offset. An offset behind the rule
counts as its end, and one inside a character as its start. -/
def characterAt (rule : Text) (offset : Nat) : Nat :=
  match Text.cutBytes (min offset (Text.byteLength rule)) rule with
  | .after front => front.length
  | _ => 0

/-- The characters of a rule that a span covers. -/
def characters (rule : Text) (span : Span) : CharacterRange :=
  ⟨characterAt rule span.start, characterAt rule span.stop⟩

/-- The distance between tab stops, in characters of the rule. -/
def tabStop : Nat := 4

/-- The columns that the character at an index takes. -/
def columns (index : Nat) (character : Char) : Nat :=
  if character = '\t' then (index / tabStop + 1) * tabStop - index
  else if Text.isBlank character then 1
  else Unicode.width character

/-- What is drawn for the character at an index. -/
def drawn (index : Nat) (character : Char) : Text :=
  if Text.isBlank character then Text.spaces (columns index character) else [character]

/-- The rule as it is drawn, without blanks at its end. -/
def ruleLine (rule : Text) : Text :=
  ((Text.trimEnd rule).zipIdx.map fun (character, index) => drawn index character).flatten

/-- A mark followed by its tail up to the width of the character above. Past the
end of the rule every column is one wide. -/
private def mark (rule : Text) (index : Nat) (first tail : Char) : Text :=
  match ((Text.trimEnd rule)[index]?.map (columns index)).getD 1 with
  | 0 => []
  | width + 1 => first :: List.replicate width tail

/-- The column from which the hint is drawn, the middle of the range. -/
def anchor (range : CharacterRange) : Nat :=
  (range.start + range.stop) / 2

/-- The row that underlines the range. -/
def underline (rule : Text) (range : CharacterRange) : Text :=
  let inside (index : Nat) : Bool := range.start ≤ index && index < range.stop
  ((List.range (range.stop + 2)).map fun index =>
    if index = anchor range then
      if inside index then mark rule index '┬' '─' else mark rule index '│' ' '
    else if inside index then mark rule index '─' '─'
    else mark rule index ' ' ' ').flatten

/-- The row that leads from the middle of the range to the hint. -/
def pointer (rule : Text) (range : CharacterRange) : Text :=
  ((List.range (range.stop + 2)).map fun index =>
    if index < anchor range then mark rule index ' ' ' '
    else if index = anchor range then mark rule index '╰' '─'
    else mark rule index '─' '─').flatten

/-- What the frame calls the place of the rule. -/
private def place (invalid : InvalidRule) : Text :=
  match invalid.line with
  | some line => "line ".toList ++ Text.ofNat line
  | none => "rule".toList

/-- The drawing, one line after the other, each with a newline. -/
def render (invalid : InvalidRule) : Text :=
  let range := characters invalid.rule invalid.span
  let rows : List Text := [
    "Error: ".toList ++ invalid.fault.message,
    "   ╭─[ ".toList ++ place invalid ++ ":1:".toList ++ Text.ofNat (range.start + 1)
      ++ " ]".toList,
    "   │".toList,
    " 1 │ ".toList ++ ruleLine invalid.rule,
    "   │ ".toList ++ underline invalid.rule range,
    "   │ ".toList ++ pointer invalid.rule range ++ " ".toList ++ invalid.fault.hint,
    "───╯".toList]
  rows.flatMap (· ++ ['\n'])

end BnfParsing.Report
