import BnfParsing.CommandLine.Options
import BnfParsing.CommandLine.World
import BnfParsing.Grammar.Report
import BnfParsing.Setup
import BnfParsing.Tree.Format

/-!
Contract: the command that parses a text against a grammar file.

The stages are: the name of the format, the grammar file, the start rule, the
text, the search. The first stage that fails decides the exit code, and only a
complete result is written.

Owns: the options, the stages, the exit codes and the form of log lines.

Does not own: the real file system.
-/

set_option autoImplicit false

namespace BnfParsing.Interpret

/-- What the command is asked to do. -/
structure Request where
  grammar : Text
  inputFile : Option Text := none
  format : Text := "xml".toList
  startRule : Option Text := none
  partialInput : Bool := false
  stickyRules : Bool := false
  limit : Option Nat := none
  verbosity : Nat := 0
deriving DecidableEq, Repr

private def isPath (text : Text) : Bool :=
  !text.isEmpty

/-- The options of the command. -/
def known : Options.Known := [
    ⟨"grammar".toList, some 'g', .text isPath⟩,
    ⟨"input-file".toList, some 'i', .text isPath⟩,
    ⟨"format".toList, some 'f', .text fun _ => true⟩,
    ⟨"start-rule".toList, some 's', .text fun _ => true⟩,
    ⟨"set-partial".toList, none, .none⟩,
    ⟨"sticky".toList, none, .none⟩,
    ⟨"max-recursion".toList, none, .text fun text => (Options.natural? text).isSome⟩,
    ⟨"verbose".toList, some 'v', .repeated⟩]

/-- The request that arguments stand for. A grammar has to be given. -/
def Request.ofArguments (arguments : List Text) : Except Options.Stop Request := do
  let given ← Options.read known [] arguments
  match Options.valueOf? given "grammar" with
  | none => throw .mistake
  | some grammar =>
      return {
        grammar := grammar
        inputFile := Options.valueOf? given "input-file"
        format := (Options.valueOf? given "format").getD "xml".toList
        startRule := Options.valueOf? given "start-rule"
        partialInput := Options.count given "set-partial" != 0
        stickyRules := Options.count given "sticky" != 0
        limit := (Options.valueOf? given "max-recursion").bind Options.natural?
        verbosity := Options.count given "verbose" }

/-- The log level for a number of requests to say more. -/
def level : Nat → LogLevel
  | 0 => .warn
  | 1 => .info
  | 2 => .debug
  | _ => .trace

/-- Why the command fails. -/
inductive Problem where
  | failure (failure : Failure)
  | unknownFormat (name : Text)
  /-- The input file could not be read. -/
  | unreadableFile (path cause : Text)
  /-- Standard input could not be read. -/
  | unreadableInput (cause : Text)
deriving DecidableEq, Repr

namespace Problem

/-- The exit code of a failure of the library. -/
def codeOfFailure : Failure → Nat
  | .notDerived => 2
  | .unreadable _ => 3
  | .defect (.missingRule _) => 6
  | .invalidRule _ => 7
  | .defect (.limitReached _) => 8
  | .noStartRule => 9
  | .unknownStartRule _ => 9

/-- The exit code of a problem. -/
def code : Problem → Nat
  | .failure cause => codeOfFailure cause
  | .unknownFormat _ => 5
  | .unreadableFile _ _ => 3
  | .unreadableInput _ => 3

/-- The wording of a problem. -/
def message : Problem → Text
  | .failure cause => cause.message
  | .unknownFormat name =>
      "unknown output format '".toList ++ name ++ "', expected one of: ".toList
        ++ Text.join ", ".toList (Format.all.map Format.name)
  | .unreadableFile path cause =>
      "cannot read ".toList ++ path ++ ": ".toList ++ cause
  | .unreadableInput cause => cause

/-- What the user is told: a drawing of an invalid rule, or one line. -/
def told : Problem → Text
  | .failure (.invalidRule invalid) => Report.render invalid
  | problem => "error: ".toList ++ problem.message ++ ['\n']

end Problem

/-- The setup before the grammar file is added, and what is asked of it later. -/
private def settle (request : Request) (setup : Setup) : Setup :=
  { setup with
    partialInput := request.partialInput
    level := level request.verbosity
    limit :=
      match request.limit with
      | none => setup.limit
      | some levels => if levels = 0 then setup.limit else levels
    start := request.startRule }

/-- The parser for the grammar file of a request. -/
def parser (world : World) (request : Request) : Except Problem Parser := do
  let setup : Setup :=
    { options := { stickyRules := request.stickyRules } }
  let bytes ← (world.read request.grammar).mapError fun cause =>
    .failure (.unreadable cause)
  let setup ← (setup.addBytes bytes).mapError .failure
  (settle request setup).build.mapError .failure

/-- The text to be parsed. -/
def input (world : World) (request : Request) : Except Problem Text :=
  match request.inputFile with
  | some path =>
      match world.read path with
      | .error cause => .error (.unreadableFile path cause)
      | .ok bytes =>
          match Source.decode? bytes with
          | some text => .ok text
          | none => .error (.unreadableFile path Failure.notUtf8)
  | none =>
      match Source.decode? world.input with
      | some text => .ok text
      | none => .error (.unreadableInput Failure.notUtf8)

/-- The note on the grammar that was read. -/
def grammarNote (request : Request) (parser : Parser) : LogRecord :=
  { level := .info
    target := "bnf_interp".toList
    message := "grammar ".toList ++ request.grammar ++ " has ".toList
      ++ Text.ofNat parser.grammar.rules.length ++ " rules".toList }

/-- The result of a request, with the records taken on the way. -/
def perform (world : World) (request : Request) : List LogRecord × Except Problem Text :=
  match Format.ofName? request.format with
  | none => ([], .error (.unknownFormat request.format))
  | some format =>
      match parser world request with
      | .error problem => ([], .error problem)
      | .ok parser =>
          let note := grammarNote request parser
          let noted := if parser.level.takes note.level then [note] else []
          match input world request with
          | .error problem => (noted, .error problem)
          | .ok text =>
              match parser.parse text with
              | (events, .error failure) =>
                  (noted ++ events.map Event.record, .error (.failure failure))
              | (events, .ok tree) =>
                  (noted ++ events.map Event.record, .ok (format.render tree))

/-- Log lines, in which targets are padded to the widest one so far. -/
def logLines : (widest : Nat) → List LogRecord → Text
  | _, [] => []
  | widest, record :: rest =>
      let widest := max widest record.target.length
      [' '] ++ Text.padRight 5 record.level.name ++ [' ']
        ++ Text.padRight widest record.target ++ " > ".toList ++ record.message ++ ['\n']
        ++ logLines widest rest

/-- What is written for a request for the version. -/
def version : Text := "bnf-interp 0.1.0\n".toList

/-- What is written for a request for help. -/
def help : Text :=
  ("Parse text against a BNF grammar\n\n"
    ++ "Usage: bnf-interp [OPTIONS] --grammar <GRAMMAR>\n").toList

/-- The outcome of the command. -/
def run (world : World) (arguments : List Text) : Outcome :=
  match Request.ofArguments arguments with
  | .error .help => { code := 0, output := help }
  | .error .version => { code := 0, output := version }
  | .error .mistake => { code := 4, errors := "error: invalid arguments\n\n".toList ++ help }
  | .ok request =>
      match perform world request with
      | (records, .ok text) => { code := 0, output := text, errors := logLines 0 records }
      | (records, .error problem) =>
          { code := problem.code, errors := logLines 0 records ++ problem.told }

end BnfParsing.Interpret
