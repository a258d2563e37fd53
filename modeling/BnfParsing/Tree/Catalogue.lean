import BnfParsing.Text.Quoted
import BnfParsing.Tree.Reduction

/-!
Contract: ready-made handlers whose values are texts.

Owns: handlers that show, count and join their arguments, handlers that compute
with 64-bit integers, handlers that rearrange the stack, and their names.

Does not own: how handlers are applied.
-/

set_option autoImplicit false

namespace BnfParsing.Reduction.Catalogue

/-- How often the handler of each rule has been called. -/
abbrev Calls := List (Text × Nat)

/-- A value as a text. -/
abbrev TextValue := Value Text

/-- The text of a value. -/
def text : TextValue → Text
  | .token text => text
  | .built text => text

/-- The text of a value; a token is put in quotes. -/
def shown : TextValue → Text
  | .token text => ['\''] ++ text ++ ['\'']
  | .built text => text

/-- The texts with commas between them. -/
def listed (texts : List Text) : Text :=
  Text.join [','] texts

/-- Whether a number fits into 64 bits with a sign. -/
def fits (number : Int) : Bool :=
  Int64.minValue.toInt ≤ number && number ≤ Int64.maxValue.toInt

/-- A number in decimal digits. -/
def decimal (number : Int) : Text :=
  if number < 0 then '-' :: Text.ofNat number.natAbs else Text.ofNat number.natAbs

private def digitsValue? (digits : Text) : Option Nat :=
  if digits.isEmpty || !digits.all Char.isDigit then none
  else some (digits.foldl (fun value digit => value * 10 + (digit.toNat - '0'.toNat)) 0)

/-- The 64-bit integer a text is written for, after an optional sign. -/
def integer? (text : Text) : Option Int :=
  let number : Option Int :=
    match text with
    | '-' :: digits => (digitsValue? digits).map fun value => -(value : Int)
    | '+' :: digits => (digitsValue? digits).map fun value => (value : Int)
    | digits => (digitsValue? digits).map fun value => (value : Int)
  number.filter fits

private def integer (value : TextValue) : Except Problem Int :=
  match integer? (text value) with
  | some number => .ok number
  | none => .error (.invalid ("not an integer: ".toList ++ text value))

private def fitting (number : Int) : Except Problem Int :=
  if fits number then .ok number else .error (.invalid "overflow".toList)

private def fold (operation : Int → Int → Int) (start : Int) (arguments : List TextValue) :
    Except Problem Text := do
  let total ← arguments.foldlM (fun total value => do
    let number ← integer value
    fitting (operation total number)) start
  return decimal total

private def negated : List TextValue → Except Problem Text
  | [] => .error .empty
  | value :: _ => do
      let number ← integer value
      let opposite ← fitting (-number)
      return decimal opposite

private def builtTexts (arguments : List TextValue) : List Text :=
  arguments.filterMap fun value =>
    match value with
    | .built text => some text
    | .token _ => none

private def refused {α : Type} (rule : Text) : Except Problem α :=
  .error (.invalid ("refused ".toList ++ rule))

private def callsAfter (rule : Text) (calls : Calls) : Nat × Calls :=
  let count := (calls.lookup rule).getD 0 + 1
  (count, (rule, count) :: calls.filter fun entry => entry.1 != rule)

/-- The handler of a name that gets the values of the children. -/
def popHandler (clean : Bool) (rule : Text) (name : String) : Handler Calls Text :=
  .pop clean fun arguments calls =>
    let (count, calls) := callsAfter rule calls
    (calls,
      match name with
      | "show" => .ok (rule ++ ['('] ++ listed (arguments.map shown) ++ [')'])
      | "sum" => fold (· + ·) 0 arguments
      | "product" => fold (· * ·) 1 arguments
      | "built" => .ok (rule ++ ['<'] ++ listed (builtTexts arguments) ++ ['>'])
      | "negate" => negated arguments
      | "count" => .ok (Text.ofNat arguments.length)
      | "calls" => .ok (Text.ofNat count)
      | "empty" => .error .empty
      | _ => refused rule)

/-- The handler of a name that gets the whole stack, its top first. -/
def stackHandler (rule : Text) (name : String) : Handler Calls Text :=
  .stack fun stack calls =>
    (calls,
      match name with
      | "noop" => .ok stack
      | "clear" => .ok []
      | "drop" => .ok stack.tail
      | "dup" => .ok (stack.head?.toList ++ stack)
      | "wrap" =>
          match stack with
          | [] => .error .empty
          | top :: below => .ok (.built (rule ++ ['['] ++ shown top ++ [']']) :: below)
      | "collect" =>
          .ok [.built (rule ++ ['\x7b'] ++ listed (stack.reverse.map shown) ++ ['\x7d'])]
      | "depth" => .ok (.built (Text.ofNat stack.length) :: stack)
      | "token" => .ok (.token rule :: stack)
      | "empty" => .error .empty
      | _ => refused rule)

/-- The handler of a mode and a name. -/
def handler (mode : String) (rule : Text) (name : String) : Handler Calls Text :=
  match mode with
  | "stack" => stackHandler rule name
  | "pop_clean" => popHandler true rule name
  | _ => popHandler false rule name

/-- A registry as it is listed. -/
def describe {σ α : Type} (registry : Registry σ α) : Text :=
  "ObjectBuilder \x7b rules: [".toList
    ++ Text.join ", ".toList (registry.rules.map Quoted.debug) ++ "] \x7d".toList

end BnfParsing.Reduction.Catalogue
