import BnfParsing.Text.Basic

/-!
Contract: options on a command line.

Arguments are read from left to right, and the first thing that settles the
outcome wins: a request for help or for the version, or a mistake.

Owns: long and short options, clusters of short ones, attached and separate
values, and the check that an option is not given twice.

Does not own: which options a program has.
-/

set_option autoImplicit false

namespace BnfParsing.Options

/-- What an option is followed by. -/
inductive Value where
  /-- Nothing; it may be given once. -/
  | none
  /-- Nothing; it may be given again. -/
  | repeated
  /-- A text that meets a condition. -/
  | text (accepts : Text → Bool)

/-- An option with its names. -/
structure Switch where
  long : Text
  short : Option Char
  value : Value

/-- Why the reading of options ends early. -/
inductive Stop where
  | help
  | version
  | mistake
deriving DecidableEq, Repr

/-- An option that was given, under its long name, with its value. -/
structure Given where
  long : Text
  value : Option Text
deriving DecidableEq, Repr

/-- The options a program knows besides help and version. -/
abbrev Known := List Switch

private def byLong? (known : Known) (name : Text) : Option Switch :=
  known.find? fun option => option.long == name

private def byShort? (known : Known) (letter : Char) : Option Switch :=
  known.find? fun option => option.short == some letter

private def isGiven (given : List Given) (option : Switch) : Bool :=
  given.any fun other => other.long == option.long

/-- Takes an option without a value. -/
private def takeFlag (given : List Given) (option : Switch) : Except Stop (List Given) :=
  match option.value with
  | .none =>
      if isGiven given option then .error .mistake else .ok (given ++ [⟨option.long, none⟩])
  | .repeated => .ok (given ++ [⟨option.long, none⟩])
  | .text _ => .error .mistake

/-- Takes an option with its value. -/
private def takeValue (given : List Given) (option : Switch) (value : Text) :
    Except Stop (List Given) :=
  match option.value with
  | .text accepts =>
      if isGiven given option || !accepts value then .error .mistake
      else .ok (given ++ [⟨option.long, some value⟩])
  | _ => .error .mistake

/-- What an argument leaves to be done: nothing, or to find the value of its
last option in the next argument. -/
private inductive Progress where
  | done (given : List Given)
  | awaiting (given : List Given) (option : Switch)

private def takesValue (option : Switch) : Bool :=
  match option.value with
  | .text _ => true
  | _ => false

/-- Reads a cluster of short options. -/
private def readShort (known : Known) (given : List Given) : Text → Except Stop Progress
  | [] => .ok (.done given)
  | letter :: rest =>
      match byShort? known letter with
      | some option =>
          if takesValue option then
            match rest with
            | [] => .ok (.awaiting given option)
            | '=' :: value => (takeValue given option value).map .done
            | value => (takeValue given option value).map .done
          else
            match takeFlag given option with
            | .ok given => readShort known given rest
            | .error stop => .error stop
      | none =>
          if letter = 'h' then .error .help
          else if letter = 'V' then .error .version
          else .error .mistake

/-- Reads a long option without its hyphens. -/
private def readLong (known : Known) (given : List Given) (argument : Text) :
    Except Stop Progress :=
  let name := argument.takeWhile (· ≠ '=')
  let attached : Option Text :=
    match argument.drop name.length with
    | [] => none
    | _ :: value => some value
  match byLong? known name, attached with
  | some option, some value => (takeValue given option value).map .done
  | some option, none =>
      if takesValue option then .ok (.awaiting given option)
      else (takeFlag given option).map .done
  | none, some _ => .error .mistake
  | none, none =>
      if name = "help".toList then .error .help
      else if name = "version".toList then .error .version
      else .error .mistake

/-- Whether an argument is read as options and not as a value. -/
def isOption : Text → Bool
  | '-' :: _ :: _ => true
  | _ => false

/-- Reads one argument that is not a value. No argument stands for itself. -/
private def readArgument (known : Known) (given : List Given) : Text → Except Stop Progress
  | '-' :: '-' :: name => readLong known given name
  | '-' :: letter :: letters => readShort known given (letter :: letters)
  | _ => .error .mistake

/-- Reads all arguments. After a bare `--` no further argument is allowed. -/
def read (known : Known) : (given : List Given) → List Text → Except Stop (List Given)
  | given, [] => .ok given
  | given, argument :: rest =>
      if argument = ['-', '-'] then
        if rest.isEmpty then .ok given else .error .mistake
      else
        match readArgument known given argument with
        | .error stop => .error stop
        | .ok (.done given) => read known given rest
        | .ok (.awaiting given option) =>
            match rest with
            | [] => .error .mistake
            | value :: rest =>
                if isOption value then .error .mistake
                else
                  match takeValue given option value with
                  | .error stop => .error stop
                  | .ok given => read known given rest

/-- The value of an option that was given. -/
def valueOf? (given : List Given) (long : String) : Option Text :=
  (given.find? fun option => option.long == long.toList).bind Given.value

/-- How often an option was given. -/
def count (given : List Given) (long : String) : Nat :=
  given.countP fun option => option.long == long.toList

/-- The number below 2^64 a text is written for, after an optional plus sign. -/
def natural? (text : Text) : Option Nat :=
  let digits :=
    match text with
    | '+' :: digits => digits
    | digits => digits
  if digits.isEmpty || !digits.all Char.isDigit then none
  else
    let value := digits.foldl (fun value digit => value * 10 + (digit.toNat - '0'.toNat)) 0
    if value < UInt64.size then some value else none

end BnfParsing.Options
