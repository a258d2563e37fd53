import BnfParsing.Text.Basic
import BnfParsing.Unicode.Property

/-!
Contract: regular expressions as trees, independent of how they are written.

Owns:
- the assertions about a position between two characters;
- expressions, their repetition in normal form, their groups and their cost.

Does not own: the written form, or the order in which matches are preferred.
-/

set_option autoImplicit false

namespace BnfParsing.Regex

open BnfParsing.Unicode

/-- Where a position may stand relative to the words around it. -/
inductive WordEdge where
  | boundary
  | noBoundary
  | start
  | stop
  | startHalf
  | stopHalf
deriving DecidableEq, Repr

/-- A condition on the characters just before and just after a position. -/
inductive Assertion where
  | textStart
  | textEnd
  | lineStart
  | lineEnd
  | anyLineStart
  | anyLineEnd
  | word (edge : WordEdge) (asciiOnly : Bool)
deriving DecidableEq, Repr

/-- The characters that words are made of. -/
def isWordChar (asciiOnly : Bool) (character : Char) : Bool :=
  if asciiOnly then character.isAlphanum || character == '_'
  else Property.word.containsChar character

/-- Whether the condition holds between two neighbours, either of which may be
the end of the text. -/
def Assertion.holds (before after : Option Char) : Assertion → Bool
  | .textStart => before.isNone
  | .textEnd => after.isNone
  | .lineStart => before.isNone || before == some '\n'
  | .lineEnd => after.isNone || after == some '\n'
  | .anyLineStart =>
      before.isNone || before == some '\n' || (before == some '\r' && after != some '\n')
  | .anyLineEnd =>
      after.isNone || after == some '\r' || (after == some '\n' && before != some '\r')
  | .word edge asciiOnly =>
      let wordBefore := before.any (isWordChar asciiOnly)
      let wordAfter := after.any (isWordChar asciiOnly)
      match edge with
      | .boundary => wordBefore != wordAfter
      | .noBoundary => wordBefore == wordAfter
      | .start => !wordBefore && wordAfter
      | .stop => wordBefore && !wordAfter
      | .startHalf => !wordBefore
      | .stopHalf => !wordAfter

/-- A regular expression. -/
inductive Expression where
  /-- The empty text. -/
  | empty
  /-- One character of a set. -/
  | oneOf (set : CodePointSet)
  /-- The empty text where a condition holds. -/
  | assertion (condition : Assertion)
  /-- A capture group with its number, counted from one. -/
  | group (index : Nat) (inner : Expression)
  /-- One expression after the other. -/
  | sequence (first second : Expression)
  /-- Either expression, the first preferred. -/
  | choice (first second : Expression)
  /-- At least `least` and at most `most` copies; more preferred if greedy. -/
  | repetition (inner : Expression) (least : Nat) (most : Option Nat) (greedy : Bool)
deriving DecidableEq, Repr, Inhabited

namespace Expression

/-- Whether the expression can match nothing but the empty text. -/
def onlyEmpty : Expression → Bool
  | .empty => true
  | .oneOf _ => false
  | .assertion _ => true
  | .group _ inner => inner.onlyEmpty
  | .sequence first second => first.onlyEmpty && second.onlyEmpty
  | .choice first second => first.onlyEmpty && second.onlyEmpty
  | .repetition inner _ _ _ => inner.onlyEmpty

/-- A repetition in normal form: more than one copy of an expression that is
always empty counts as one, no copy is the empty expression, and exactly one
copy is the expression itself. -/
def repeated (inner : Expression) (least : Nat) (most : Option Nat) (greedy : Bool) :
    Expression :=
  let least := if inner.onlyEmpty then min least 1 else least
  let most := if inner.onlyEmpty then some ((most.map (min · 1)).getD 1) else most
  if least = 0 ∧ most = some 0 then .empty
  else if least = 1 ∧ most = some 1 then inner
  else .repetition inner least most greedy

/-- The highest number of a group that occurs in the expression. -/
def groupCount : Expression → Nat
  | .empty => 0
  | .oneOf _ => 0
  | .assertion _ => 0
  | .group index inner => max index inner.groupCount
  | .sequence first second => max first.groupCount second.groupCount
  | .choice first second => max first.groupCount second.groupCount
  | .repetition inner _ _ _ => inner.groupCount

/-- An estimate of the bytes a matcher for the set takes. -/
private def setCost (set : CodePointSet) : Nat :=
  if set.isAscii then 32 + 8 * set.rangeCount else 64 * set.rangeCount

/-- An estimate of the bytes a matcher for the expression takes. -/
def cost : Expression → Nat
  | .empty => 32
  | .oneOf set => setCost set
  | .assertion _ => 32
  | .group _ inner => 64 + inner.cost
  | .sequence first second => first.cost + second.cost
  | .choice first second => 40 + first.cost + second.cost
  | .repetition inner least most _ =>
      match most with
      | none => 96 + max least 1 * inner.cost
      | some most => 32 + least * inner.cost + (most - least) * (inner.cost + 40)

/-- The largest estimated matcher that is accepted, ten mebibytes. -/
def costLimit : Nat := 10 * 1024 * 1024

end Expression

end BnfParsing.Regex
