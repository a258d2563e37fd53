import BnfParsing.Grammar.Edit
import Mathlib.Data.List.Nodup

/-!
Contract: the rules of a grammar with an index of their places.

A look-up by name goes through the index, and a rule that is found is changed
where it stands.

Owns: the two parts, and the changes of a grammar as changes of both.

Does not own: that the two parts stay in step.
-/

set_option autoImplicit false

namespace BnfParsing

/-- A text is hashed as the list of its characters. -/
instance : Hashable Text := @instHashableList Char instHashableChar

/-- Rules in order, and an index from names to places. -/
structure IndexedRules where
  rules : List Rule
  positions : Std.HashMap Text Nat

namespace IndexedRules

/-- No rules. -/
def empty : IndexedRules := ⟨[], ∅⟩

/-- The place of the rule of a name, by the index. -/
def position? (indexed : IndexedRules) (name : Text) : Option Nat :=
  indexed.positions[name]?

/-- The rule of a name: the one at the place that the index gives. -/
def rule? (indexed : IndexedRules) (name : Text) : Option Rule :=
  (indexed.position? name).bind fun position => indexed.rules[position]?

/-- Changes the rule of a name where it stands, if the index has the name. -/
def modify? (indexed : IndexedRules) (name : Text) (change : Rule → Rule) :
    Option IndexedRules :=
  (indexed.position? name).map fun position =>
    { indexed with rules := indexed.rules.modify position change }

/-- Puts a rule at the end, and its place into the index. -/
def push (indexed : IndexedRules) (rule : Rule) : IndexedRules :=
  { rules := indexed.rules ++ [rule]
    positions := indexed.positions.insert rule.name indexed.rules.length }

/-- Adds a rule; its alternatives follow those of a rule of the same name. -/
def add (indexed : IndexedRules) (rule : Rule) : IndexedRules :=
  (indexed.modify? rule.name (·.append rule.alternatives)).getD (indexed.push rule)

/-- Adds a rule; its alternatives go to `position` among those of a rule of the
same name. -/
def insert (indexed : IndexedRules) (position : Nat) (rule : Rule) : IndexedRules :=
  (indexed.modify? rule.name (·.insert position rule.alternatives)).getD (indexed.push rule)

/-- Adds rules one after the other. -/
def extend (indexed : IndexedRules) (rules : List Rule) : IndexedRules :=
  rules.foldl add indexed

/-- The indexed rules of a list. -/
def ofList (rules : List Rule) : IndexedRules :=
  empty.extend rules

/-- Puts an alternative into the rule of a name and tells whether there is one. -/
def addCase (indexed : IndexedRules) (position : Nat) (name : Text) (case : Alternative) :
    IndexedRules × Bool :=
  match indexed.modify? name (·.insert position [case]) with
  | some changed => (changed, true)
  | none => (indexed, false)

/-- The indexed rules after a change. -/
def perform (indexed : IndexedRules) : Grammar.Edit → IndexedRules
  | .add rule => indexed.add rule
  | .insert position rule => indexed.insert position rule
  | .extend rules => indexed.extend rules
  | .addCase position name case => (indexed.addCase position name case).1
  | .appendTo name added => (indexed.modify? name (·.append added)).getD indexed
  | .insertInto position name added =>
      (indexed.modify? name (·.insert position added)).getD indexed

/-- The indexed rules after changes, one after the other. -/
def run (indexed : IndexedRules) (edits : List Grammar.Edit) : IndexedRules :=
  edits.foldl perform indexed

end IndexedRules

end BnfParsing
