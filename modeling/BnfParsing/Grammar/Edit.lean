import BnfParsing.Grammar.Basic

/-!
Contract: changes of a grammar as data.

Owns: the changes, and a grammar after one or several of them.

Does not own: what a change does to the rules.
-/

set_option autoImplicit false

namespace BnfParsing.Grammar

/-- One change of a grammar. The changes of an existing rule do nothing if there
is no rule of the name. -/
inductive Edit where
  /-- Adds a rule, or its alternatives at the end of the rule of its name. -/
  | add (rule : Rule)
  /-- Adds a rule, or its alternatives at a position of the rule of its name. -/
  | insert (position : Nat) (rule : Rule)
  /-- Adds rules one after the other. -/
  | extend (rules : List Rule)
  /-- Puts a case at a position of an existing rule. -/
  | addCase (position : Nat) (name : Text) (case : Alternative)
  /-- Puts alternatives at the end of an existing rule. -/
  | appendTo (name : Text) (added : List Alternative)
  /-- Puts alternatives at a position of an existing rule. -/
  | insertInto (position : Nat) (name : Text) (added : List Alternative)
deriving DecidableEq

/-- The grammar after a change. -/
def perform (grammar : Grammar) : Edit → Grammar
  | .add rule => grammar.add rule
  | .insert position rule => grammar.insert position rule
  | .extend rules => grammar.extend rules
  | .addCase position name case => (grammar.addCase position name case).1
  | .appendTo name added => grammar.edit name (· ++ added)
  | .insertInto position name added => grammar.edit name (Rule.insertAt position added)

/-- The grammar after changes, one after the other. -/
def run (grammar : Grammar) (edits : List Edit) : Grammar :=
  edits.foldl perform grammar

end BnfParsing.Grammar
