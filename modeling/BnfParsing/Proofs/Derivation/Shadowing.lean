import BnfParsing.Proofs.Derivation.Agreement
import BnfParsing.Proofs.Grammar.Editing

/-!
Contract: in nested rules an alternative in the shadow of a shorter one is dead.

A nested rule takes the first alternative that matches the front of the text. An
alternative that starts with all symbols of one tried earlier is reached only after
that one has failed, and then it fails at the same symbol. At the outermost level
this is not so: there the shorter one may match and leave text over.

Owns:
- the place of an alternative in the tried order, from its place in its rule;
- parsers over grammars whose rules come to the same choice where they are nested.

Does not own: why an alternative is passed over.
-/

set_option autoImplicit false

namespace BnfParsing

namespace Rule

variable {before after : List Alternative} {shorter longer : Alternative}

/-- The alternatives that are tried before the one that stands between two lists. -/
def triedBefore (before : List Alternative) (alternative : Alternative)
    (after : List Alternative) : List Alternative :=
  if alternative.tryLast then
    (before ++ after).filter (fun other => !other.tryLast) ++ before.filter Alternative.tryLast
  else before.filter fun other => !other.tryLast

/-- The alternatives that are tried behind it. -/
def triedAfter (before : List Alternative) (alternative : Alternative)
    (after : List Alternative) : List Alternative :=
  if alternative.tryLast then after.filter Alternative.tryLast
  else after.filter (fun other => !other.tryLast) ++ (before ++ after).filter Alternative.tryLast

theorem tried_eq_around (name : Text) (before : List Alternative) (alternative : Alternative)
    (after : List Alternative) :
    tried ⟨name, before ++ alternative :: after⟩ =
      triedBefore before alternative after ++
        alternative :: triedAfter before alternative after := by
  unfold tried triedBefore triedAfter
  cases flag : alternative.tryLast with
  | false => simp [flag]
  | true => simp [flag]

/-- Without the alternative the others are tried in the same order. -/
theorem tried_without (name : Text) (before : List Alternative) (alternative : Alternative)
    (after : List Alternative) :
    tried ⟨name, before ++ after⟩ =
      triedBefore before alternative after ++ triedAfter before alternative after := by
  unfold tried triedBefore triedAfter
  cases alternative.tryLast <;> simp

theorem sameNestedChoice_without_shadowed (name : Text)
    (earlier : shorter ∈ triedBefore before longer after)
    (isPrefix : shorter.symbols <+: longer.symbols) :
    SameNestedChoice ⟨name, before ++ longer :: after⟩ ⟨name, before ++ after⟩ := by
  intro depth
  refine ⟨rfl, fun parser nested input => ?_⟩
  have implied : parser.PassedOver nested (depth + 1) input shorter →
      parser.PassedOver nested (depth + 1) input longer :=
    Parser.PassedOver.of_prefix (Nat.succ_ne_zero depth) isPrefix
  rw [tried_eq_around, tried_without name before longer after]
  exact (Parser.firstMatch_without_redundant earlier implied _).symm

end Rule

namespace Parser

variable {parser other : Parser} {input whole : Text}

/-- Nested rules derive alike if every rule has one of the same nested choice under its
name. The levels left are those of both searches. -/
theorem derive_agrees_of_nestedRules (samePartial : other.partialInput = parser.partialInput)
    (sameLimit : other.limit = parser.limit)
    (defined : ∀ name rule, parser.grammar.rule? name = some rule →
      ∃ otherRule, other.grammar.rule? name = some otherRule ∧ rule.SameNestedChoice otherRule)
    (undefined : ∀ name, parser.grammar.rule? name = none → other.grammar.rule? name = none)
    (levels depth : Nat) :
    NestedAgree (fun _ => False) Rule.SameNestedChoice whole
      (derive parser levels (depth + 1)) (derive other levels (depth + 1)) := by
  induction levels generalizing depth with
  | zero =>
      intro rule otherRule cursor sameChoice within
      rw [derive_zero, derive_zero, sameLimit]
      exact .refl _
  | succ levels inductionHypothesis =>
      intro rule otherRule cursor sameChoice within
      apply derive_succ_agrees_of_sameChoiceAt (inductionHypothesis (depth + 1)) Iff.rfl
        (sameChoice depth) _ within
      intro alternative _ symbol _
      exact readsAlike_of_rules samePartial defined
        (fun name missing => .inr (undefined name missing)) symbol

/-- Parsers that start from rules of the same choice come to the same results if all
their rules come to the same choice where they are nested. -/
theorem tryParse_eq_of_nestedRules (samePartial : other.partialInput = parser.partialInput)
    (sameLimit : other.limit = parser.limit) (sameStart : parser.start.SameChoice other.start)
    (defined : ∀ name rule, parser.grammar.rule? name = some rule →
      ∃ otherRule, other.grammar.rule? name = some otherRule ∧ rule.SameNestedChoice otherRule)
    (undefined : ∀ name, parser.grammar.rule? name = none → other.grammar.rule? name = none)
    (input : Text) :
    (other.tryParse input).result = (parser.tryParse input).result := by
  have derived : Agrees (fun _ => False)
      (derive parser (parser.limit + 1) 0 parser.start input).result
      (derive other (parser.limit + 1) 0 other.start input).result := by
    apply derive_succ_agrees_of_sameChoiceAt
      (derive_agrees_of_nestedRules samePartial sameLimit defined undefined parser.limit 0)
      Iff.rfl (sameStart.sameChoiceAt 0) _ (List.suffix_refl input)
    intro alternative _ symbol _
    exact readsAlike_of_rules samePartial defined
      (fun name missing => .inr (undefined name missing)) symbol
  rw [tryParse_result, tryParse_result, sameLimit, derived.eq]

/-- Below the start rule an alternative may be deleted whose first symbols are those of
an alternative of its rule that is tried earlier. -/
theorem shadowed_alternative_removable (rule : Rule) (before after : List Alternative)
    (shorter longer : Alternative) (member : rule ∈ parser.grammar.rules)
    (notStart : rule ≠ parser.start) (alternatives : rule.alternatives = before ++ longer :: after)
    (earlier : shorter ∈ Rule.triedBefore before longer after)
    (isPrefix : shorter.symbols <+: longer.symbols)
    (deleted : other.grammar = parser.grammar.edit rule.name fun _ => before ++ after)
    (sameStart : other.start.name = parser.start.name) (sameLimit : other.limit = parser.limit)
    (samePartial : other.partialInput = parser.partialInput) (input : Text) :
    (other.tryParse input).result = (parser.tryParse input).result := by
  have unedited : ∀ name, rule.name ≠ name →
      other.grammar.rule? name = parser.grammar.rule? name := by
    intro name differs
    rw [deleted, Grammar.rule?_edit_of_ne differs]
  have edited : other.grammar.rule? rule.name = some ⟨rule.name, before ++ after⟩ := by
    rw [deleted, Grammar.rule?_edit_self member]
  have startAside : rule.name ≠ parser.start.name := by
    intro sameName
    have found := Grammar.rule?_of_mem member
    rw [sameName, Grammar.rule?_of_mem parser.start_mem] at found
    exact notStart (Option.some.inj found).symm
  have startKept : other.start = parser.start := by
    have found := Grammar.rule?_of_mem other.start_mem
    rw [sameStart, unedited _ startAside, Grammar.rule?_of_mem parser.start_mem] at found
    exact (Option.some.inj found).symm
  apply tryParse_eq_of_nestedRules samePartial sameLimit
  · rw [startKept]
    exact .refl _
  · intro name found isFound
    by_cases inRule : rule.name = name
    · subst inRule
      obtain rfl : rule = found := by
        rw [Grammar.rule?_of_mem member] at isFound
        exact Option.some.inj isFound
      refine ⟨_, edited, ?_⟩
      have sameChoice := Rule.sameNestedChoice_without_shadowed rule.name earlier isPrefix
      rwa [← alternatives] at sameChoice
    · exact ⟨found, (unedited name inRule).trans isFound,
        (Rule.SameChoice.refl found).sameNestedChoice⟩
  · intro name undefined
    have aside : rule.name ≠ name := by
      rintro rfl
      rw [Grammar.rule?_of_mem member] at undefined
      contradiction
    rw [unedited name aside, undefined]

/-- A rule whose last alternative in tried order, which stands first, goes on where
another one ends. -/
def lettersRule : Rule where
  name := "<L>".toList
  alternatives :=
    { symbols := [.terminal ['a'] false, .nonTerminal "<S>".toList], tryLast := true } ::
      [{ symbols := [.terminal ['b'] true] }, { symbols := [.terminal ['a'] false] }]

def letterThenEnd : Rule where
  name := "<S>".toList
  alternatives := [{ symbols := [.nonTerminal "<L>".toList, .terminal ['.'] true] }]

def shadowedLetters : Parser where
  grammar := { rules := [letterThenEnd, lettersRule], names_nodup := by decide }
  start := letterThenEnd
  start_mem := List.mem_cons_self
  limit := 5
  partialInput := false
  level := .off

def plainLetters : Parser where
  grammar :=
    { rules := [letterThenEnd, ⟨"<L>".toList, lettersRule.alternatives.tail⟩]
      names_nodup := by decide }
  start := letterThenEnd
  start_mem := List.mem_cons_self
  limit := 5
  partialInput := false
  level := .off

theorem shadowedLetters_removable :
    lettersRule ∈ shadowedLetters.grammar.rules ∧ lettersRule ≠ shadowedLetters.start ∧
      plainLetters.grammar =
        shadowedLetters.grammar.edit lettersRule.name (fun _ => lettersRule.alternatives.tail) ∧
      (plainLetters.tryParse "A .".toList).result =
        (shadowedLetters.tryParse "A .".toList).result ∧
      (plainLetters.tryParse "a b . .".toList).result =
        (shadowedLetters.tryParse "a b . .".toList).result := by
  have member : lettersRule ∈ shadowedLetters.grammar.rules :=
    List.mem_cons_of_mem _ List.mem_cons_self
  have notStart : lettersRule ≠ shadowedLetters.start := by decide
  have deleted : plainLetters.grammar =
      shadowedLetters.grammar.edit lettersRule.name (fun _ => lettersRule.alternatives.tail) := by
    decide
  have removable := shadowed_alternative_removable lettersRule [] _
    { symbols := [.terminal ['a'] false] } _ member notStart rfl (by decide)
    ⟨[.nonTerminal "<S>".toList], rfl⟩ deleted rfl rfl rfl
  exact ⟨member, notStart, deleted, removable _, removable _⟩

end Parser

end BnfParsing
