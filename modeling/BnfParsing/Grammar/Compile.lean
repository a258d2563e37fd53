import BnfParsing.Grammar.Escape
import BnfParsing.Grammar.RightSide
import BnfParsing.Grammar.Rule

/-!
Contract: rules and alternatives from their text.

A rule is `<name> := right side`. A right side that starts with `^` is one
regular expression; any other is a list of alternatives. Inside an alternative,
a word in angle brackets refers to a rule, a lone epsilon is the empty
production, and every other word is a literal.

Owns: the separator, the two forms of a right side, the meaning of one word,
and the faults of a rule.

Does not own: comments and lines.
-/

set_option autoImplicit false

namespace BnfParsing

/-- Settings for turning text into rules. -/
structure CompileOptions where
  /-- Whether a double bar starts the try-last alternatives. -/
  stickyRules : Bool := false
  /-- Whether literals are compared with attention to case. -/
  caseSensitive : Bool := true
deriving DecidableEq, Repr

namespace Compile

open RightSide

/-- What stands between a name and its right side. -/
def separator : Text := [':', '=']

/-- The two characters that have been written for the empty production. -/
def epsilonSpellings : List Text := [['\u03B5'], ['\uCEB5']]

/-- The symbol that a word stands for. -/
def symbol (options : CompileOptions) (word : Text) : Except Fault Symbol :=
  if ['<'].isPrefixOf word then .ok (.nonTerminal word)
  else if word.contains '<' then .error (.unseparatedSymbols word)
  else if epsilonSpellings.contains word then .ok .epsilon
  else if word.isEmpty then .error .emptyTerminal
  else
    match Escape.resolve word with
    | .ok literal => .ok (.terminal literal options.caseSensitive)
    | .error shown => .error (.malformedEscape shown)

/-- The symbols of an alternative. Without words, every symbol was optional and
has been left out. -/
def symbols (options : CompileOptions) (words : List Word) : Except Located (List Symbol) :=
  if words.isEmpty then .ok [.epsilon]
  else words.mapM fun word => (symbol options word.text).mapError (·, word.span)

/-- The alternatives for one raw alternative. -/
def variants (options : CompileOptions) (raw : RawAlternative) :
    Except Located (List Alternative) :=
  (expand raw.words).mapM fun words => do
    let symbols ← symbols options words
    return ⟨symbols, raw.tryLast⟩

/-- The alternatives of a right side that is not a regular expression. -/
def alternatives (options : CompileOptions) (rightSide : Text) :
    Except Located (List Alternative) := do
  let raw ← split rightSide options.stickyRules
  let groups ← raw.mapM (variants options)
  return groups.flatten

/-- The single alternative of a right side that is a regular expression. -/
def pattern (rightSide : Text) : Except Fault Alternative :=
  match Escape.resolve rightSide with
  | .error shown => .error (.malformedEscape shown)
  | .ok resolved =>
      match Regex.ofPattern? resolved with
      | none => .error .invalidPattern
      | some regex => .ok { symbols := [.pattern regex] }

/-- Compiles the text of one rule without a comment. -/
def rule (options : CompileOptions) (line : Text) : Except InvalidRule Rule :=
  let fail {α : Type} (span : Span) (fault : Fault) : Except InvalidRule α :=
    .error { rule := line, span := span, fault := fault }
  match Text.occurrences separator line with
  | [] => fail ⟨0, Text.byteLength line⟩ .missingSeparator
  | _ :: second :: _ =>
      let start := Text.byteLength (line.take second)
      fail ⟨start, start + Text.byteLength separator⟩ .multipleSeparators
  | [position] =>
      let beforeSeparator := line.take position
      let name := Text.trim beforeSeparator
      let afterSeparator := line.drop (position + separator.length)
      let separatorEnd := Text.byteLength beforeSeparator + Text.byteLength separator
      let offset :=
        separatorEnd
          + (Text.byteLength afterSeparator - Text.byteLength (Text.trimStart afterSeparator))
      let rightSide := Text.trim afterSeparator
      if name.isEmpty then fail ⟨0, Text.byteLength beforeSeparator⟩ .emptyLeftHandSide
      else if ['^'].isPrefixOf rightSide then
        match pattern rightSide with
        | .ok alternative => .ok ⟨name, [alternative]⟩
        | .error fault => fail ⟨offset, offset + Text.byteLength rightSide⟩ fault
      else if rightSide.isEmpty then
        let stop := Text.byteLength line
        fail ⟨min separatorEnd stop, stop⟩ .emptyRightHandSide
      else
        match alternatives options rightSide with
        | .ok alternatives => .ok ⟨name, alternatives⟩
        | .error (fault, span) => fail (span.shift offset) fault

/-- The parts of a text between its spaces, empty ones included, counted from a
byte offset. -/
def partsFrom (offset : Nat) : List Text → List Word
  | [] => []
  | part :: rest => ⟨part, offset⟩ :: partsFrom (offset + Text.byteLength part + 1) rest

/-- Compiles the text of one alternative, in which bars and question marks are
taken literally. -/
def alternative (options : CompileOptions) (text : Text) : Except InvalidRule Alternative :=
  let trimmed := Text.trim text
  let words := partsFrom 0 (Text.splitOn ' ' trimmed)
  if words.all fun word => word.text.isEmpty then
    .error { rule := text, span := ⟨0, Text.byteLength text⟩, fault := .emptyAlternative }
  else
    match symbols options words with
    | .ok symbols => .ok { symbols := symbols }
    | .error (fault, span) => .error { rule := trimmed, span := span, fault := fault }

end Compile

end BnfParsing
