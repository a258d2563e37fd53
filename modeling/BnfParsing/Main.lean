import BnfParsing.CommandLine.Interpret

/-!
Contract: the program around the command that parses a text.

Owns: arguments, files and standard streams of the process.

Does not own: any decision of the command.
-/

set_option autoImplicit false

namespace BnfParsing.Main

private def causeOf : IO.Error → Text
  | .noFileOrDirectory .. => World.missing
  | .inappropriateType .. => World.isDirectory
  | other => (toString other).toList

private def readFile (path : Text) : IO (Except Text ByteArray) := do
  try
    return .ok (← IO.FS.readBinFile (String.ofList path))
  catch problem =>
    return .error (causeOf problem)

/-- The files a request names, read ahead of the command. -/
private def readFiles (arguments : List Text) : IO (List (Text × Except Text ByteArray)) := do
  match Interpret.Request.ofArguments arguments with
  | .error _ => return []
  | .ok request =>
      (request.grammar :: request.inputFile.toList).mapM fun path => do
        return (path, ← readFile path)

/-- Standard input, unless a request reads its text from a file. -/
private def readInput (arguments : List Text) : IO ByteArray := do
  match Interpret.Request.ofArguments arguments with
  | .ok { inputFile := none, .. } => (← IO.getStdin).readBinToEnd
  | _ => return ByteArray.empty

end BnfParsing.Main

open BnfParsing in
/-- Runs the command on the arguments of the process. -/
def main (arguments : List String) : IO UInt32 := do
  let arguments := arguments.map String.toList
  let files ← Main.readFiles arguments
  let input ← Main.readInput arguments
  let world : World :=
    { read := fun path => (files.lookup path).getD (.error World.missing)
      input := input }
  let outcome := Interpret.run world arguments
  IO.eprint (String.ofList outcome.errors)
  IO.print (String.ofList outcome.output)
  return outcome.code.toUInt32
