import BnfParsing.Derivation.Parser
import BnfParsing.Grammar.InvalidRule

/-!
Contract: every way in which compiling a grammar or parsing a text can fail.

Owns: the failures, their wording, and the chain of causes behind them.

Does not own: how a failure is shown to a user.
-/

set_option autoImplicit false

namespace BnfParsing

/-- Why there is no grammar, no parser or no tree. -/
inductive Failure where
  /-- A rule does not compile. -/
  | invalidRule (invalid : InvalidRule)
  /-- A defect of the grammar ended the search. -/
  | defect (defect : Defect)
  /-- The grammar does not describe the text. -/
  | notDerived
  /-- There is no rule to start from. -/
  | noStartRule
  /-- The rule to start from does not exist. -/
  | unknownStartRule (name : Text)
  /-- A source could not be read. -/
  | unreadable (cause : Text)
deriving DecidableEq, Repr

/-- The wording of a defect. -/
def Defect.message : Defect → Text
  | .missingRule name => "cannot find rule for token ".toList ++ name
  | .limitReached limit =>
      "maximum recursion steps of ".toList ++ Text.ofNat limit
        ++ (" reached; if the input string is indeed valid, "
          ++ "try increasing the limit").toList

namespace Failure

/-- What is said of bytes that are not UTF-8. -/
def notUtf8 : Text := "stream did not contain valid UTF-8".toList

/-- The wording of a failure. -/
def message : Failure → Text
  | .invalidRule invalid => invalid.message
  | .defect found => found.message
  | .notDerived => "parsing failed: the start rule does not match the entire input".toList
  | .noStartRule => "no start rule could be found: the grammar is empty".toList
  | .unknownStartRule name =>
      "start rule ".toList ++ name ++ " is not defined in the grammar".toList
  | .unreadable cause => "could not read grammar: ".toList ++ cause

/-- The wordings of the causes behind a failure, the nearest first. A failure
over an invalid rule speaks with the words of that rule, so its first cause is
the fault. -/
def causes : Failure → List Text
  | .invalidRule invalid => [invalid.fault.message]
  | .unreadable cause => [cause]
  | _ => []

/-- The wordings of the causes behind an invalid rule. -/
def ruleCauses? : Failure → Option (List Text)
  | .invalidRule invalid => some [invalid.fault.message]
  | _ => none

end Failure

/-- The tree that derives the whole text, or the failure to find one. -/
def Parser.parse (parser : Parser) (input : Text) : List Event × Except Failure Tree :=
  let traced := parser.tryParse input
  (traced.events,
    match traced.result with
    | .error defect => .error (.defect defect)
    | .ok none => .error .notDerived
    | .ok (some tree) => .ok tree)

end BnfParsing
