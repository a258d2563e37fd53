import BnfParsing.Grammar.Basic
import Mathlib.Data.List.Nodup

/-!
Contract: the references between the rules of a grammar.

Owns:
- when a rule refers to a name, and when the grammar defines it;
- what the search for a dangling reference finds, and when it finds nothing.

Does not own: what a derivation does at such a reference.
-/

set_option autoImplicit false

namespace BnfParsing

namespace Alternative

variable {alternative : Alternative} {name : Text}

theorem mem_references :
    name ∈ alternative.references ↔ .nonTerminal name ∈ alternative.symbols := by
  simp only [references, List.mem_filterMap]
  constructor
  · rintro ⟨symbol, member, named⟩
    cases symbol with
    | nonTerminal other =>
        simp only [Option.some.injEq] at named
        subst named
        exact member
    | terminal literal caseSensitive => simp at named
    | epsilon => simp at named
    | pattern regex => simp at named
    | number other => simp at named
    | word other => simp at named
  · intro member
    exact ⟨.nonTerminal name, member, rfl⟩

end Alternative

namespace Rule

variable {rule : Rule} {name : Text}

/-- Some alternative of the rule refers to the name. -/
def RefersTo (rule : Rule) (name : Text) : Prop :=
  ∃ alternative ∈ rule.alternatives, .nonTerminal name ∈ alternative.symbols

/-- The names the rule refers to, in order and as often as they appear. -/
def mentions (rule : Rule) : List Text :=
  rule.alternatives.flatMap Alternative.references

theorem mem_mentions : name ∈ rule.mentions ↔ rule.RefersTo name := by
  simp only [mentions, List.mem_flatMap, Alternative.mem_references, RefersTo]

/-- Leaving out repetitions does not change the first name with a property. -/
private theorem find?_foldl_distinct (accepts : Text → Bool) (names seen : List Text) :
    (names.foldl (fun seen name => if seen.contains name then seen else seen ++ [name])
      seen).find? accepts = (seen ++ names).find? accepts := by
  induction names generalizing seen with
  | nil => simp
  | cons name names inductionHypothesis =>
      rw [List.foldl_cons, inductionHypothesis]
      split
      case isFalse => rw [List.append_assoc, List.singleton_append]
      case isTrue repeated =>
        rw [List.find?_append, List.find?_append]
        cases found : seen.find? accepts with
        | some first => rfl
        | none =>
            have rejected : accepts name = false := by
              simpa using List.find?_eq_none.mp found name (by simpa using repeated)
            simp [rejected]

theorem find?_references (accepts : Text → Bool) :
    rule.references.find? accepts = rule.mentions.find? accepts := by
  simpa [references, mentions] using
    find?_foldl_distinct accepts (rule.alternatives.flatMap Alternative.references) []

end Rule

namespace Grammar

variable {grammar : Grammar} {name caller missing : Text}

/-- The grammar has a rule of the name. -/
def Defines (grammar : Grammar) (name : Text) : Prop :=
  ∃ rule ∈ grammar.rules, rule.name = name

theorem rule?_eq_none : grammar.rule? name = none ↔ ¬ grammar.Defines name := by
  simp [rule?, Defines]

theorem contains_iff_defines : grammar.contains name = true ↔ grammar.Defines name := by
  rw [contains, Option.isSome_iff_ne_none, ne_eq, rule?_eq_none, not_not]

/-- Names are distinct, so a rule is found by its own. -/
theorem rule?_of_mem {rule : Rule} (member : rule ∈ grammar.rules) :
    grammar.rule? rule.name = some rule := by
  cases found : grammar.rule? rule.name with
  | none => exact absurd ⟨rule, member, rfl⟩ (rule?_eq_none.mp found)
  | some other =>
      obtain ⟨otherMember, sameName⟩ := rule?_eq_some found
      rw [List.inj_on_of_nodup_map grammar.names_nodup otherMember member sameName]

/-- Every rule that is referred to exists. -/
def Closed (grammar : Grammar) : Prop :=
  ∀ rule ∈ grammar.rules, ∀ name, rule.RefersTo name → grammar.Defines name

/-- Among the rules, the one called `caller` is the first with a reference to a
name without a rule, and among its references the one to `missing` is the first
such. -/
def FirstDangling (grammar : Grammar) (caller missing : Text) : Prop :=
  ∃ earlier rule later, grammar.rules = earlier ++ rule :: later ∧ rule.name = caller ∧
    (∀ other ∈ earlier, ∀ name, other.RefersTo name → grammar.Defines name) ∧
    ∃ before after, rule.mentions = before ++ missing :: after ∧
      (∀ name ∈ before, grammar.Defines name) ∧ ¬ grammar.Defines missing

private theorem firstMissing_eq_none {rule : Rule} :
    (rule.references.find? fun name => !grammar.contains name) = none ↔
      ∀ name, rule.RefersTo name → grammar.Defines name := by
  simp [Rule.find?_references, Rule.mem_mentions, contains_iff_defines]

private theorem firstMissing_eq_some {rule : Rule} :
    (rule.references.find? fun name => !grammar.contains name) = some missing ↔
      ∃ before after, rule.mentions = before ++ missing :: after ∧
        (∀ name ∈ before, grammar.Defines name) ∧ ¬ grammar.Defines missing := by
  rw [Rule.find?_references, List.find?_eq_some_iff_append]
  simp only [Bool.not_eq_eq_eq_not, Bool.not_true, Bool.not_not, contains_iff_defines,
    ← Bool.not_eq_true]
  constructor
  · rintro ⟨undefined, before, after, split, defined⟩
    exact ⟨before, after, split, defined, undefined⟩
  · rintro ⟨before, after, split, defined, undefined⟩
    exact ⟨undefined, before, after, split, defined⟩

theorem danglingReference?_eq_none : grammar.danglingReference? = none ↔ grammar.Closed := by
  simp only [danglingReference?, List.findSome?_eq_none_iff, Option.map_eq_none_iff,
    firstMissing_eq_none, Closed]

theorem danglingReference?_eq_some :
    grammar.danglingReference? = some (caller, missing) ↔
      grammar.FirstDangling caller missing := by
  simp only [danglingReference?, List.findSome?_eq_some_iff, Option.map_eq_some_iff,
    Option.map_eq_none_iff, firstMissing_eq_none, firstMissing_eq_some, Prod.mk.injEq]
  constructor
  · rintro ⟨earlier, rule, later, split, ⟨name, dangles, sameCaller, rfl⟩, closed⟩
    exact ⟨earlier, rule, later, split, sameCaller, closed, dangles⟩
  · rintro ⟨earlier, rule, later, split, sameCaller, closed, dangles⟩
    exact ⟨earlier, rule, later, split, ⟨missing, dangles, sameCaller, rfl⟩, closed⟩

end Grammar

end BnfParsing
