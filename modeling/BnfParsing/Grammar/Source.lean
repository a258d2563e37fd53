import BnfParsing.Grammar.Basic
import BnfParsing.Grammar.Compile

/-!
Contract: grammars from text and from bytes.

Owns: lines, comments and line numbers; the order in which reading, compiling
and merging happen, so that a source with a fault adds no rule at all.

Does not own: where the text comes from.
-/

set_option autoImplicit false

namespace BnfParsing.Source

/-- The line up to its first number sign. -/
def stripComment (line : Text) : Text :=
  line.takeWhile (· ≠ '#')

/-- Compiles the lines from a line number on. Blank lines hold no rule. -/
def compileFrom (options : CompileOptions) : (number : Nat) → List Text →
    Except InvalidRule (List Rule)
  | _, [] => .ok []
  | number, line :: rest =>
      let content := Text.trim (stripComment line)
      if content.isEmpty then compileFrom options (number + 1) rest
      else do
        let rule ← (Compile.rule options content).mapError (·.atLine number)
        let rules ← compileFrom options (number + 1) rest
        return rule :: rules

/-- The rules of a text, one a line. -/
def rules (options : CompileOptions) (text : Text) : Except InvalidRule (List Rule) :=
  compileFrom options 1 (Text.lines text)

/-- The grammar of a text. -/
def grammar (options : CompileOptions) (text : Text) : Except InvalidRule Grammar :=
  (rules options text).map Grammar.ofList

/-- The text that bytes encode in UTF-8. -/
def decode? (bytes : ByteArray) : Option Text :=
  (String.fromUTF8? bytes).map String.toList

end BnfParsing.Source
