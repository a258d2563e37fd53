import BnfParsing.Regex.Basic

/-!
Contract: the symbols that alternatives are made of, and how a symbol relates
to the front of a text.

Owns:
- the kinds of symbols, their names and the sameness that ignores case flags;
- prefix matching for each kind, in characters;
- the scanner for numeric literals.

Does not own: blanks in front of a symbol, or the rules that names stand for.
-/

set_option autoImplicit false

namespace BnfParsing

/-- A grammar symbol. -/
inductive Symbol where
  /-- A text to be found as it is, or up to case. -/
  | terminal (literal : Text) (caseSensitive : Bool)
  /-- The empty production. -/
  | epsilon
  /-- A reference to a rule, with its angle brackets. -/
  | nonTerminal (name : Text)
  /-- A regular expression, searched for and not only at the front. -/
  | pattern (regex : Regex)
  /-- A numeric literal. -/
  | number (name : Text)
  /-- Everything up to the next space. -/
  | word (name : Text)
deriving DecidableEq

/-- How a symbol relates to the front of a text. -/
inductive PrefixMatch where
  | noMatch
  /-- The text ends before a literal could be compared in full. -/
  | insufficientInput
  /-- The first `length` characters belong to the symbol. -/
  | matched (length : Nat)
deriving DecidableEq, Repr

/-- The number of characters to consume, if there are any. -/
def PrefixMatch.consumed : PrefixMatch → Option Nat
  | .matched length => if 0 < length then some length else none
  | _ => none

namespace Numeral

/-- The digits at the front and what follows them. -/
def digits (text : Text) : Text × Text :=
  (text.takeWhile Char.isDigit, text.dropWhile Char.isDigit)

/-- The number of characters an optional sign takes. -/
def signLength : Text → Nat
  | '+' :: _ => 1
  | '-' :: _ => 1
  | _ => 0

/-- The length of an exponent with at least one digit, or zero. -/
def exponentLength : Text → Nat
  | letter :: rest =>
      if letter = 'e' ∨ letter = 'E' then
        let sign := signLength rest
        match (digits (rest.drop sign)).1.length with
        | 0 => 0
        | count + 1 => 1 + sign + (count + 1)
      else 0
  | [] => 0

/-- The length of the digits with at most one decimal point, if there is a
digit. -/
def mantissaLength? (text : Text) : Option Nat :=
  let (whole, rest) := digits text
  match whole, rest with
  | [], '.' :: rest =>
      match (digits rest).1.length with
      | 0 => none
      | count + 1 => some (1 + (count + 1))
  | [], _ => none
  | whole, '.' :: rest => some (whole.length + 1 + (digits rest).1.length)
  | whole, _ => some whole.length

/-- The length of the numeric literal at the front: an optional sign, digits
with an optional point, and an optional exponent. -/
def length? (text : Text) : Option Nat := do
  let sign := signLength text
  let mantissa ← mantissaLength? (text.drop sign)
  return sign + mantissa + exponentLength (text.drop (sign + mantissa))

end Numeral

namespace Symbol

/-- The name of the empty production, a small epsilon. -/
def epsilonName : Text := ['\u03B5']

/-- The name a symbol is written and compared by. -/
def name : Symbol → Text
  | .terminal literal _ => literal
  | .epsilon => epsilonName
  | .nonTerminal name => name
  | .pattern regex => regex.pattern
  | .number name => name
  | .word name => name

/-- The kinds of symbols. -/
inductive Kind where
  | terminal
  | epsilon
  | nonTerminal
  | pattern
  | number
  | word
deriving DecidableEq, Repr

/-- The kind of a symbol. -/
def kind : Symbol → Kind
  | .terminal _ _ => .terminal
  | .epsilon => .epsilon
  | .nonTerminal _ => .nonTerminal
  | .pattern _ => .pattern
  | .number _ => .number
  | .word _ => .word

/-- The name of a kind in listings. -/
def Kind.label : Kind → String
  | .terminal => "Terminal"
  | .epsilon => "Epsilon"
  | .nonTerminal => "NonTerminal"
  | .pattern => "Regex"
  | .number => "Number"
  | .word => "Text"

/-- Whether two symbols have the same kind and name. Terminals that differ only
in their attention to case are the same. -/
def same (left right : Symbol) : Bool :=
  left.kind == right.kind && left.name == right.name

/-- Every symbol except a reference is matched directly against a text. -/
def isTerminal (symbol : Symbol) : Bool :=
  symbol.kind != .nonTerminal

/-- Compares a literal with the prefix of the same number of bytes. -/
def matchLiteral (literal : Text) (caseSensitive : Bool) (text : Text) : PrefixMatch :=
  if Text.byteLength text < Text.byteLength literal then .insufficientInput
  else
    match Text.cutBytes (Text.byteLength literal) text with
    | .after front =>
        let equal :=
          if caseSensitive then front == literal
          else Unicode.lowercase front == Unicode.lowercase literal
        if equal then .matched front.length else .noMatch
    | _ => .noMatch

/-- Compares the symbol with the front of a text. A pattern may match further
on; all text up to the end of its match then belongs to it. -/
def matchPrefix : Symbol → Text → PrefixMatch
  | .terminal literal caseSensitive, text => matchLiteral literal caseSensitive text
  | .epsilon, _ => .matched 0
  | .nonTerminal _, _ => .noMatch
  | .pattern regex, text =>
      match regex.find? text with
      | some found => .matched found.stop
      | none => .noMatch
  | .number _, text =>
      match Numeral.length? text with
      | some length => .matched length
      | none => .noMatch
  | .word _, text => .matched (text.takeWhile (· ≠ ' ')).length

/-- The texts of the groups of a pattern, found by searching in the matched
text alone. -/
def groupTexts : Symbol → Text → List Text
  | .pattern regex, text => regex.groupTexts text
  | _, _ => []

/-- Order of listings: by the name of the kind, then by the name. -/
def precedes (left right : Symbol) : Bool :=
  if left.kind = right.kind then Text.precedes left.name right.name
  else Text.precedes left.kind.label.toList right.kind.label.toList

/-- The distinct symbols of a list, in the order of listings. -/
def distinct (symbols : List Symbol) : List Symbol :=
  let unique := symbols.foldl
    (fun kept symbol => if kept.any (same symbol) then kept else kept ++ [symbol]) []
  unique.mergeSort fun left right => !right.precedes left

end Symbol

end BnfParsing
