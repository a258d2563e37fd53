import BnfParsing.Failure
import BnfParsing.Grammar.Source

/-!
Contract: the assembly of a parser, step by step.

Compile options apply to the sources that are added after them; the other
settings apply to the parser that is built in the end.

Owns: the settings with their defaults, the steps that change them, the notes
of a step, and the choice of the start rule.

Does not own: reading files.
-/

set_option autoImplicit false

namespace BnfParsing

/-- A grammar in the making with the settings of its future parser. -/
structure Setup where
  grammar : Grammar := .empty
  start : Option Text := none
  limit : Nat := 50
  partialInput : Bool := false
  options : CompileOptions := {}
  level : LogLevel := .off
deriving DecidableEq

namespace Setup

/-- One change of a setup. -/
inductive Step where
  /-- Adds the rules of a text. -/
  | addText (text : Text)
  /-- Adds the rules of a text in UTF-8. -/
  | addBytes (bytes : ByteArray)
  /-- Adds the rule of one line. -/
  | addLine (line : Text)
  /-- Adds a rule. -/
  | addRule (rule : Rule)
  /-- Adds rules. -/
  | addRules (rules : List Rule)
  /-- Adds a rule, whose alternatives go to a position of the rule of its name. -/
  | insertRule (position : Nat) (rule : Rule)
  /-- Puts a case in front of the alternatives of a rule. -/
  | addCase (name case : Text)
  /-- Puts a case at a position among the alternatives of a rule. -/
  | insertCase (position : Nat) (name case : Text)
  /-- Chooses the rule to start from. -/
  | start (name : Text)
  /-- Sets the limit on nesting, unless it is zero. -/
  | limit (levels : Nat)
  | partialInput (allowed : Bool)
  | stickyRules (honoured : Bool)
  | caseSensitive (sensitive : Bool)
  | level (level : LogLevel)

/-- Chooses the rule that a symbol names. -/
def Step.startSymbol (symbol : Symbol) : Step :=
  .start symbol.name

/-- Merges the rules of a text. All of them are compiled before one is added. -/
def addText (setup : Setup) (text : Text) : Except Failure Setup :=
  match Source.rules setup.options text with
  | .ok rules => .ok { setup with grammar := setup.grammar.extend rules }
  | .error invalid => .error (.invalidRule invalid)

/-- Merges the rules of a text in UTF-8. -/
def addBytes (setup : Setup) (bytes : ByteArray) : Except Failure Setup :=
  match Source.decode? bytes with
  | some text => setup.addText text
  | none => .error (.unreadable Failure.notUtf8)

/-- Merges the rule of one line, which may have blanks around it. -/
def addLine (setup : Setup) (line : Text) : Except Failure Setup :=
  match Compile.rule setup.options (Text.trim line) with
  | .ok rule => .ok { setup with grammar := setup.grammar.add rule }
  | .error invalid => .error (.invalidRule invalid)

/-- The note that a case has no rule to go to. -/
def caseWithoutRule (name case : Text) : LogRecord :=
  { level := .warn
    target := "bnf_interp::builder".toList
    message := "cannot add case '".toList ++ case ++ "': no rule named ".toList ++ name }

/-- Puts a case among the alternatives of a rule. Without such a rule, nothing
changes except that a note is taken. -/
def insertCase (setup : Setup) (position : Nat) (name case : Text) :
    Except Failure (Setup × List LogRecord) :=
  match Compile.alternative setup.options case with
  | .error invalid => .error (.invalidRule invalid)
  | .ok alternative =>
      match setup.grammar.addCase position name alternative with
      | (grammar, true) => .ok ({ setup with grammar := grammar }, [])
      | (_, false) => .ok (setup, [caseWithoutRule name case])

/-- The setup after a step, with the notes of the step. -/
def perform (setup : Setup) : Step → Except Failure (Setup × List LogRecord)
  | .addText text => (setup.addText text).map (·, [])
  | .addBytes bytes => (setup.addBytes bytes).map (·, [])
  | .addLine line => (setup.addLine line).map (·, [])
  | .addRule rule => .ok ({ setup with grammar := setup.grammar.add rule }, [])
  | .addRules rules => .ok ({ setup with grammar := setup.grammar.extend rules }, [])
  | .insertRule position rule =>
      .ok ({ setup with grammar := setup.grammar.insert position rule }, [])
  | .addCase name case => setup.insertCase 0 name case
  | .insertCase position name case => setup.insertCase position name case
  | .start name => .ok ({ setup with start := some name }, [])
  | .limit levels =>
      .ok (if levels = 0 then setup else { setup with limit := levels }, [])
  | .partialInput allowed => .ok ({ setup with partialInput := allowed }, [])
  | .stickyRules honoured =>
      .ok ({ setup with options := { setup.options with stickyRules := honoured } }, [])
  | .caseSensitive sensitive =>
      .ok ({ setup with options := { setup.options with caseSensitive := sensitive } }, [])
  | .level level => .ok ({ setup with level := level }, [])

/-- The setup after a step, which is the same one if the step fails. -/
def after (setup : Setup) (step : Step) : Setup :=
  match setup.perform step with
  | .ok (changed, _) => changed
  | .error _ => setup

/-- The setup after steps, one after the other, unless one of them fails. -/
def performAll (setup : Setup) : List Step → Except Failure Setup
  | [] => .ok setup
  | step :: steps => do
      let (changed, _) ← setup.perform step
      changed.performAll steps

private def parserFrom (setup : Setup) (start : Rule) (startMem : start ∈ setup.grammar.rules) :
    Parser :=
  { grammar := setup.grammar
    start := start
    start_mem := startMem
    limit := setup.limit
    partialInput := setup.partialInput
    level := setup.level }

/-- The parser of the setup. It starts from the chosen rule, or else from the
first one. -/
def build (setup : Setup) : Except Failure Parser :=
  match setup.start with
  | some name =>
      match found : setup.grammar.rule? name with
      | some rule => .ok (setup.parserFrom rule (List.mem_of_find?_eq_some found))
      | none => .error (.unknownStartRule name)
  | none =>
      match first : setup.grammar.rules.head? with
      | some rule => .ok (setup.parserFrom rule (List.mem_of_head? first))
      | none => .error .noStartRule

end Setup

end BnfParsing
