import BnfParsing.Derivation.Trace
import BnfParsing.Grammar.Basic
import BnfParsing.Tree.Basic

/-!
Contract: the search for a tree that derives a text from a rule.

The alternatives of a rule are attempted in tried order; inside an alternative
the symbols match from left to right, blanks in front of each being skipped. A
nested rule is settled by its first alternative that matches; the outermost one
by the first that leaves nothing but blanks.

Owns: parsers, the search, its limit on nesting, and the rule that a match
which consumes nothing counts only if it reads an empty production itself.

Does not own: how a grammar is put together.
-/

set_option autoImplicit false

namespace BnfParsing

/-- A grammar with the rule to start from and the settings of the search. -/
structure Parser where
  grammar : Grammar
  start : Rule
  start_mem : start ∈ grammar.rules
  /-- The largest depth of nested rules. -/
  limit : Nat
  /-- Whether a text may hold the names of rules in place of their expansion. -/
  partialInput : Bool
  level : LogLevel

/-- What the symbols of an alternative matched, and what is left of the text. -/
structure Matched where
  children : List Tree
  rest : Text
  readEpsilon : Bool

/-- One more child in front of a match. -/
def Matched.cons (child : Tree) (matched : Matched) : Matched :=
  { matched with children := child :: matched.children }

namespace Parser

/-- What follows a name of a rule that the text holds literally. -/
def marker? (parser : Parser) (name cursor : Text) : Option Text :=
  if parser.partialInput && name.isPrefixOf cursor then some (cursor.drop name.length)
  else none

/-- The leaf for what a symbol consumes at the front of the text, and the rest. -/
def consume? (symbol : Symbol) (cursor : Text) : Option (Tree × Text) :=
  (symbol.matchPrefix cursor).consumed.map fun length =>
    let matched := cursor.take length
    (Tree.ofMatch matched (symbol.groupTexts matched), cursor.drop length)

/-- Matches symbols from left to right. `nested` derives a rule one level
deeper; an empty production completes the alternative whatever follows it. -/
def matchSymbols (parser : Parser) (nested : Rule → Text → Traced (Option (Tree × Text)))
    (depth : Nat) (alternative : Alternative) :
    List Symbol → Text → Traced (Option Matched)
  | [], cursor => pure (some ⟨[], cursor, false⟩)
  | symbol :: symbols, cursor =>
      let cursor := Text.trimStart cursor
      let followedBy (child : Tree) (rest : Text) : Traced (Option Matched) := do
        let matched ← matchSymbols parser nested depth alternative symbols rest
        return matched.map (Matched.cons child)
      match symbol with
      | .epsilon => pure (some ⟨[Tree.leaf []], cursor, true⟩)
      | .nonTerminal name =>
          match parser.marker? name cursor with
          | some rest => followedBy (Tree.leaf name) rest
          | none =>
              match parser.grammar.rule? name with
              | none => Traced.defect (.missingRule name)
              | some rule => do
                  match ← nested rule cursor with
                  | some (child, rest) => followedBy child rest
                  | none =>
                      Traced.note parser.level (.nestedFailure depth name alternative)
                      return none
      | terminal =>
          if cursor.isEmpty then pure none
          else
            match consume? terminal cursor with
            | some (leaf, rest) => followedBy leaf rest
            | none => do
                Traced.note parser.level (.mismatch depth terminal alternative)
                return none

/-- The match of the first alternative that succeeds. At the outermost level
only blanks may be left over. -/
def firstMatch (parser : Parser) (nested : Rule → Text → Traced (Option (Tree × Text)))
    (depth : Nat) (input : Text) : List Alternative → Traced (Option Matched)
  | [] => pure none
  | alternative :: others => do
      Traced.note parser.level (.attempting depth alternative)
      match ← matchSymbols parser nested depth alternative alternative.symbols input with
      | none => firstMatch parser nested depth input others
      | some matched =>
          if depth = 0 ∧ ¬ Text.isAllBlank matched.rest then
            Traced.note parser.level (.leftOver depth (Text.trim matched.rest) alternative)
            firstMatch parser nested depth input others
          else return some matched

/-- Derives the front of a text from a rule. `levels` counts the levels of
nesting that are still allowed, this one included. -/
def derive (parser : Parser) :
    (levels depth : Nat) → Rule → Text → Traced (Option (Tree × Text))
  | 0, _, _, _ => Traced.defect (.limitReached parser.limit)
  | levels + 1, depth, rule, input => do
      Traced.note parser.level (.considering depth input rule)
      match ← firstMatch parser (derive parser levels (depth + 1)) depth input rule.tried with
      | none =>
          Traced.note parser.level (.noAlternative depth rule.name)
          return none
      | some matched =>
          if matched.rest.length = input.length ∧ matched.readEpsilon = false then
            Traced.note parser.level (.nothingConsumed depth rule.name)
            return none
          else return some (Tree.ofRule rule.name matched.children, matched.rest)

/-- The tree that derives the whole text from the start rule, or `none` if the
grammar does not describe the text. -/
def tryParse (parser : Parser) (input : Text) : Traced (Option Tree) := do
  let derived ← derive parser (parser.limit + 1) 0 parser.start input
  return derived.map Prod.fst

end Parser

end BnfParsing
