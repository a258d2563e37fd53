import BnfParsing.Grammar.Rule

/-!
Contract: grammars as ordered lists of rules with distinct names.

Owns:
- look-up by name and position;
- merging a rule into the one of its name, and edits of a single rule;
- the terminals, the first dangling reference and the written form.

Does not own: reading a grammar from text.
-/

set_option autoImplicit false

namespace BnfParsing

/-- Rules in the order in which their names were first added. -/
structure Grammar where
  rules : List Rule
  names_nodup : (rules.map Rule.name).Nodup
deriving DecidableEq

namespace Grammar

/-- The grammar without rules. -/
def empty : Grammar := ⟨[], List.nodup_nil⟩

/-- The rule of a name. -/
def rule? (grammar : Grammar) (name : Text) : Option Rule :=
  grammar.rules.find? fun rule => rule.name == name

theorem rule?_eq_some {grammar : Grammar} {name : Text} {rule : Rule}
    (found : grammar.rule? name = some rule) : rule ∈ grammar.rules ∧ rule.name = name :=
  ⟨List.mem_of_find?_eq_some found, by simpa using List.find?_some found⟩

/-- Whether there is a rule of a name. -/
def contains (grammar : Grammar) (name : Text) : Bool :=
  (grammar.rule? name).isSome

/-- The place of the rule of a name. -/
def position? (grammar : Grammar) (name : Text) : Option Nat :=
  grammar.rules.findIdx? fun rule => rule.name == name

private def edited (name : Text) (edit : List Alternative → List Alternative) (rule : Rule) :
    Rule :=
  if rule.name = name then { rule with alternatives := edit rule.alternatives } else rule

private theorem names_edited (name : Text) (edit : List Alternative → List Alternative)
    (rules : List Rule) :
    (rules.map (edited name edit)).map Rule.name = rules.map Rule.name := by
  rw [List.map_map]
  apply List.map_congr_left
  intro rule _
  simp only [Function.comp, edited]
  split <;> rfl

/-- Changes the alternatives of the rule of a name, if there is one. -/
def edit (grammar : Grammar) (name : Text) (change : List Alternative → List Alternative) :
    Grammar :=
  ⟨grammar.rules.map (edited name change), by
    rw [names_edited]
    exact grammar.names_nodup⟩

private theorem nodup_snoc (grammar : Grammar) (rule : Rule)
    (absent : grammar.contains rule.name = false) :
    ((grammar.rules ++ [rule]).map Rule.name).Nodup := by
  rw [List.map_append, List.nodup_append]
  refine ⟨grammar.names_nodup, by simp, ?_⟩
  intro name member other otherMember same
  simp only [List.map_cons, List.map_nil, List.mem_singleton] at otherMember
  obtain ⟨found, foundMember, foundName⟩ := List.mem_map.mp member
  simp only [contains, rule?, Option.isSome_eq_false_iff, Option.isNone_iff_eq_none,
    List.find?_eq_none] at absent
  have differs := absent found foundMember
  simp [foundName, same, otherMember] at differs

/-- Merges a rule: `place` puts its alternatives among those of the rule of the
same name; without such a rule it is added at the end. -/
def merge (grammar : Grammar) (rule : Rule)
    (place : List Alternative → List Alternative → List Alternative) : Grammar :=
  if absent : grammar.contains rule.name = false then
    ⟨grammar.rules ++ [rule], nodup_snoc grammar rule absent⟩
  else grammar.edit rule.name (place rule.alternatives)

/-- Adds a rule; its alternatives follow those of a rule of the same name. -/
def add (grammar : Grammar) (rule : Rule) : Grammar :=
  grammar.merge rule fun added existing => existing ++ added

/-- Adds a rule; its alternatives go to `position` among those of a rule of the
same name. -/
def insert (grammar : Grammar) (position : Nat) (rule : Rule) : Grammar :=
  grammar.merge rule (Rule.insertAt position)

/-- Adds rules one after the other. -/
def extend (grammar : Grammar) (rules : List Rule) : Grammar :=
  rules.foldl add grammar

/-- The grammar of a list of rules. -/
def ofList (rules : List Rule) : Grammar :=
  empty.extend rules

/-- Puts an alternative into the rule of a name and tells whether there is one. -/
def addCase (grammar : Grammar) (position : Nat) (name : Text) (case : Alternative) :
    Grammar × Bool :=
  if grammar.contains name then
    (grammar.edit name (Rule.insertAt position [case]), true)
  else (grammar, false)

/-- Whether two grammars have the same rules in the same order. -/
def same (left right : Grammar) : Bool :=
  left.rules.length == right.rules.length
    && (left.rules.zip right.rules).all fun pair => pair.1.same pair.2

/-- The symbols that are matched directly against a text. -/
def terminals (grammar : Grammar) : List Symbol :=
  grammar.rules.flatMap Rule.terminals

/-- The first rule that refers to a missing one, with the missing name. -/
def danglingReference? (grammar : Grammar) : Option (Text × Text) :=
  grammar.rules.findSome? fun rule =>
    (rule.references.find? fun name => !grammar.contains name).map (rule.name, ·)

/-- The rules as lines, without a newline at the end. -/
def display (grammar : Grammar) : Text :=
  Text.join ['\n'] (grammar.rules.map Rule.display)

end Grammar

end BnfParsing
