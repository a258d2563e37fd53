import BnfParsing.Grammar.Source

/-!
Contract: what a command sees of the world, and what it leaves behind.

Owns: the files below the working directory under their names, standard input,
the wording of what the system refuses, and the outcome of a command.

Does not own: the commands.
-/

set_option autoImplicit false

namespace BnfParsing

/-- The files a command may read, and its standard input. -/
structure World where
  read : Text → Except Text ByteArray
  input : ByteArray

/-- What a command leaves behind. -/
structure Outcome where
  code : Nat
  output : Text := []
  errors : Text := []
deriving DecidableEq, Repr

namespace World

/-- What the system says of a missing file. -/
def missing : Text := "No such file or directory (os error 2)".toList

/-- What the system says of a directory in place of a file. -/
def isDirectory : Text := "Is a directory (os error 21)".toList

/-- What the system says of a file in place of a directory. -/
def notDirectory : Text := "Not a directory (os error 20)".toList

/-- The place a path leads to from the working directory, outermost name first,
unless it leaves that directory or passes through a file. -/
private def resolve (files : List (Text × ByteArray)) :
    (reversed : List Text) → List Text → Except Text (List Text)
  | reversed, [] => .ok reversed.reverse
  | reversed, name :: rest =>
      let here := Text.join ['/'] reversed.reverse
      if files.any fun file => file.1 == here then .error notDirectory
      else if name.isEmpty || name == ['.'] then resolve files reversed rest
      else if name == ['.', '.'] then
        match reversed with
        | [] => .error (if rest.all fun name => name.isEmpty || name == ['.'] ||
            name == ['.', '.'] then isDirectory else missing)
        | _ :: outer => resolve files outer rest
      else
        let there := Text.join ['/'] (name :: reversed).reverse
        if files.any (fun file => file.1 == there || (there ++ ['/']).isPrefixOf file.1) then
          resolve files (name :: reversed) rest
        else .error missing

/-- The content of a file of a working directory that holds nothing else. -/
def readFrom (files : List (Text × ByteArray)) (path : Text) : Except Text ByteArray :=
  match path with
  | '/' :: rest => .error (if rest.all (· == '/') then isDirectory else missing)
  | _ =>
      match resolve files [] (Text.splitOn '/' path) with
      | .error cause => .error cause
      | .ok names =>
          match files.lookup (Text.join ['/'] names) with
          | some bytes => .ok bytes
          | none => .error isDirectory

end World

end BnfParsing
