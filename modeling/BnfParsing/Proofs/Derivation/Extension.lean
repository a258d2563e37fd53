import BnfParsing.Proofs.Derivation.Agreement

/-!
Contract: more rules around a grammar change no search that gets by without them.

Owns: grammars that hold the rules of another one, wherever they stand, and the
agreement of parsers over both.

Does not own: what a search makes of a rule that only the larger grammar has.
-/

set_option autoImplicit false

namespace BnfParsing

namespace Grammar

variable {grammar other : Grammar} {name : Text}

/-- Every rule has its like among the rules of another grammar: one of the same
name that attempts the same symbols in the same order. -/
def IncludedIn (grammar other : Grammar) : Prop :=
  ∀ rule ∈ grammar.rules, ∃ otherRule ∈ other.rules, rule.SameTried otherRule

/-- A rule that is found has its like found under the same name. -/
theorem IncludedIn.exists_rule? (included : grammar.IncludedIn other) {rule : Rule}
    (found : grammar.rule? name = some rule) :
    ∃ otherRule, other.rule? name = some otherRule ∧ rule.SameTried otherRule := by
  obtain ⟨member, rfl⟩ := rule?_eq_some found
  obtain ⟨otherRule, otherMember, sameTried⟩ := included rule member
  exact ⟨otherRule, sameTried.name_eq ▸ rule?_of_mem otherMember, sameTried⟩

end Grammar

/-- The search missed a rule that a grammar has. -/
def Defect.SuppliedBy (grammar : Grammar) (failure : Defect) : Prop :=
  ∃ name, failure = .missingRule name ∧ grammar.Defines name

namespace Parser

variable {parser other : Parser} {input : Text}

/-- Over a larger grammar the outcome can differ only where the smaller one lacks a
rule that the larger one has. -/
theorem tryParse_agrees_of_includedIn
    (included : parser.grammar.IncludedIn other.grammar)
    (sameStart : other.start.name = parser.start.name) (sameLimit : other.limit = parser.limit)
    (samePartial : other.partialInput = parser.partialInput) (input : Text) :
    Agrees (Defect.SuppliedBy other.grammar) (parser.tryParse input).result
      (other.tryParse input).result := by
  refine tryParse_agrees_of_rules samePartial sameLimit sameStart (fun name rule found => ?_)
    (fun name undefined => ?_) input
  · obtain ⟨otherRule, otherFound, sameTried⟩ := included.exists_rule? found
    exact ⟨otherRule, otherFound, sameTried.sameChoice⟩
  · by_cases supplied : other.grammar.Defines name
    · exact .inl ⟨name, rfl, supplied⟩
    · exact .inr (Grammar.rule?_eq_none.mpr supplied)

/-- More rules, and rules in another order, change no outcome but a missing rule,
and not even this one if the rule is still missing. -/
theorem larger_grammar_keeps_outcome
    (included : parser.grammar.IncludedIn other.grammar)
    (sameStart : other.start.name = parser.start.name) (sameLimit : other.limit = parser.limit)
    (samePartial : other.partialInput = parser.partialInput) (input : Text) :
    ((∀ name, (parser.tryParse input).result ≠ .error (.missingRule name)) →
      (other.tryParse input).result = (parser.tryParse input).result) ∧
    ∀ name, (parser.tryParse input).result = .error (.missingRule name) →
      ¬ other.grammar.Defines name →
      (other.tryParse input).result = .error (.missingRule name) := by
  have agrees := tryParse_agrees_of_includedIn included sameStart sameLimit samePartial input
  constructor
  · intro noneMissing
    refine agrees.eq_of_not_excused ?_
    rintro failure ⟨name, rfl, -⟩
    exact noneMissing name
  · intro name missing stillMissing
    rw [← missing]
    refine agrees.eq_of_not_excused ?_
    rintro failure ⟨supplied, rfl, defined⟩ failed
    obtain rfl : name = supplied := by simpa using missing.symm.trans failed
    exact stillMissing defined

/-- A rule with three references, of which only the first one has a rule. -/
def threeReferences : Rule where
  name := "<S>".toList
  alternatives :=
    [{ symbols := [.terminal ['a'] true, .nonTerminal "<N>".toList] },
      { symbols := [.terminal ['b'] true, .nonTerminal "<M>".toList] },
      { symbols := [.terminal ['c'] true, .nonTerminal "<K>".toList] }]

def smallParser : Parser where
  grammar :=
    { rules :=
        [threeReferences,
          ⟨"<N>".toList,
            [{ symbols := [.terminal ['x'] true], tryLast := true },
              { symbols := [.terminal ['y'] true] }]⟩]
      names_nodup := by decide }
  start := threeReferences
  start_mem := List.mem_cons_self
  limit := 3
  partialInput := false
  level := .off

/-- The same rules in another order, one of them with its alternatives in another
order of addition, around a rule for the second reference. -/
def largerParser : Parser where
  grammar :=
    { rules :=
        [⟨"<N>".toList,
            [{ symbols := [.terminal ['y'] true] },
              { symbols := [.terminal ['x'] true], tryLast := true }]⟩,
          ⟨"<M>".toList, [{ symbols := [.terminal ['z'] true] }]⟩, threeReferences]
      names_nodup := by decide }
  start := threeReferences
  start_mem := by simp
  limit := 3
  partialInput := false
  level := .off

theorem smallParser_keeps_outcome :
    smallParser.grammar.IncludedIn largerParser.grammar ∧
      (largerParser.tryParse "a x".toList).result =
        (smallParser.tryParse "a x".toList).result ∧
      (smallParser.tryParse "b z".toList).result = .error (.missingRule "<M>".toList) ∧
      (largerParser.tryParse "b z".toList).result ≠ .error (.missingRule "<M>".toList) ∧
      (largerParser.tryParse "c z".toList).result = .error (.missingRule "<K>".toList) := by
  have included : smallParser.grammar.IncludedIn largerParser.grammar := by
    intro rule member
    simp only [smallParser, List.mem_cons, List.not_mem_nil, or_false] at member
    rcases member with rfl | rfl
    · exact ⟨threeReferences, by simp [largerParser], .refl _⟩
    · exact ⟨_, List.mem_cons_self, rfl, rfl⟩
  have keeps := larger_grammar_keeps_outcome included rfl rfl rfl
  exact ⟨included, (keeps "a x".toList).1 nofun, rfl, nofun,
    (keeps "c z".toList).2 _ rfl (by simp [Grammar.Defines, largerParser, threeReferences])⟩

end Parser

end BnfParsing
