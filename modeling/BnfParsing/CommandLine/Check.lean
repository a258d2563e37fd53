import BnfParsing.CommandLine.Options
import BnfParsing.CommandLine.World
import BnfParsing.Failure
import BnfParsing.Grammar.Source

/-!
Contract: the command that checks every grammar below a directory.

Owns: its options and subcommands, the choice and order of files, and what is
said of each grammar.

Does not own: other developer tasks; of these only the arguments are read.
-/

set_option autoImplicit false

namespace BnfParsing.Check

/-- What the command is asked to do. -/
inductive Request where
  | grammars (stickyRules : Bool)
  /-- A task that needs programs which are not part of this library. -/
  | unavailable
deriving DecidableEq, Repr

/-- Why no task is done; a version names the subcommand it was asked of. -/
inductive Stop where
  | help
  | version (subcommand : Option Text)
  | mistake
deriving DecidableEq, Repr

private def grammarsOptions : Options.Known := [⟨"sticky".toList, some 's', .none⟩]

private def coverageOptions : Options.Known := [
    ⟨"readable".toList, some 'r', .none⟩,
    ⟨"open-report".toList, some 'o', .none⟩]

private def readSubcommand (name : Text) (known : Options.Known) (arguments : List Text) :
    Except Stop (List Options.Given) :=
  (Options.read known [] arguments).mapError fun stop =>
    match stop with
    | .help => .help
    | .version => .version (some name)
    | .mistake => .mistake

/-- What is asked for by arguments before any subcommand. -/
private def readGlobal (argument : Text) : Stop :=
  match Options.read [] [] [argument] with
  | .error .help => .help
  | .error .version => .version none
  | _ => .mistake

/-- The subcommands. -/
def subcommands : List Text := ["coverage".toList, "grammars".toList, "help".toList]

/-- The task that arguments stand for. -/
def Request.ofArguments : List Text → Except Stop Request
  | [] => .error .mistake
  | argument :: rest =>
      if argument = "grammars".toList then do
        let given ← readSubcommand argument grammarsOptions rest
        return .grammars (Options.count given "sticky" != 0)
      else if argument = "coverage".toList then do
        let _ ← readSubcommand argument coverageOptions rest
        return .unavailable
      else if argument = "help".toList then
        match rest with
        | [] => .error .help
        | [name] => .error (if subcommands.contains name then .help else .mistake)
        | _ => .error .mistake
      else .error (readGlobal argument)

/-- What is said of one grammar on standard output and on standard error, and
whether it is sound. -/
structure Verdict where
  said : Text
  complaint : Text
  sound : Bool
deriving DecidableEq, Repr

/-- A word in a colour, if colours are wanted. -/
private def coloured (color : Bool) (code word : String) : Text :=
  if color then ("\x1b[" ++ code ++ "m" ++ word ++ "\x1b[0m").toList else word.toList

private def rules (options : CompileOptions) (bytes : ByteArray) : Except Failure (List Rule) :=
  match Source.decode? bytes with
  | none => .error (.unreadable Failure.notUtf8)
  | some text => (Source.rules options text).mapError .invalidRule

/-- The verdict on a grammar: whether it compiles, and whether every rule it
refers to exists. -/
def verdict (color : Bool) (options : CompileOptions) (bytes : ByteArray) : Verdict :=
  match rules options bytes with
  | .error failure =>
      ⟨coloured color "31" "failed" ++ ['\n'], failure.message ++ ['\n'], false⟩
  | .ok rules =>
      let grammar := Grammar.ofList rules
      match grammar.danglingReference? with
      | none =>
          ⟨coloured color "32" "ok" ++ " (".toList ++ Text.ofNat grammar.rules.length
            ++ " rules, ".toList ++ Text.ofNat (Symbol.distinct grammar.terminals).length
            ++ " terminals)\n".toList, [], true⟩
      | some (rule, missing) =>
          ⟨coloured color "33" "dangling" ++ ['\n'],
            rule ++ " refers to ".toList ++ missing ++ ", which has no rule\n".toList, false⟩

/-- The name of a file without its directories. -/
def fileName (path : Text) : Text :=
  (Text.splitOn '/' path).getLastD []

/-- The grammars among files, in the order of their paths. -/
def select (files : List (Text × ByteArray)) : List (Text × ByteArray) :=
  (files.filter fun file => ".bnf".toList.isSuffixOf file.1).mergeSort
    fun left right => !Text.precedes right.1 left.1

/-- Checks all grammars among files. -/
def grammars (color stickyRules : Bool) (files : List (Text × ByteArray)) : Outcome :=
  let options : CompileOptions := { stickyRules := stickyRules }
  let selected := select files
  let verdicts := selected.map fun file => (file.1, verdict color options file.2)
  let failures := verdicts.countP fun entry => !entry.2.sound
  let output := verdicts.flatMap fun entry =>
    fileName entry.1 ++ "... ".toList ++ entry.2.said
  let complaints := verdicts.flatMap fun entry => entry.2.complaint
  if failures = 0 then { code := 0, output := output, errors := complaints }
  else
    { code := 1
      output := output
      errors := complaints ++ "Error: ".toList ++ Text.ofNat failures ++ " of ".toList
        ++ Text.ofNat selected.length ++ " grammars have problems\n".toList }

/-- What is written for a request for the version. -/
def version (subcommand : Option Text) : Text :=
  match subcommand with
  | none => "xtask 0.0.0\n".toList
  | some name => "xtask-".toList ++ name ++ " 0.0.0\n".toList

/-- What is written for a request for help. -/
def help : Text :=
  "Usage: xtask <COMMAND>\n\nCommands:\n  coverage\n  grammars\n  help\n".toList

/-- The outcome of the command over the files below the grammar directory. -/
def run (color : Bool) (files : List (Text × ByteArray)) (arguments : List Text) : Outcome :=
  match Request.ofArguments arguments with
  | .error .help => { code := 0, output := help }
  | .error (.version subcommand) => { code := 0, output := version subcommand }
  | .error .mistake => { code := 2, errors := help }
  | .ok .unavailable => { code := 1, errors := "Error: not available\n".toList }
  | .ok (.grammars stickyRules) => grammars color stickyRules files

end BnfParsing.Check
