import BnfParsing.Proofs.Grammar.Rereading
import BnfParsing.Proofs.Grammar.Expansion
import BnfParsing.Proofs.Grammar.Splitting

/-!
Contract: the rules that compile are well formed.

Parsing relies on alternatives that have symbols and on literals that are not empty, and showing
a rule relies on try-last alternatives that stand behind all others.

Owns:
- rules in which the try-last alternatives are a proper suffix;
- the alternative that is never tried last, the one a right side starts with;
- well-formed rules, and that compiling gives no others.

Does not own: rules that were put together from others.
-/

set_option autoImplicit false

namespace BnfParsing

open Compile (ReadsRightSide)

variable {options : CompileOptions}

namespace Compile

variable {rightSide : Text} {found : List Alternative}

/-- No double bar stands in front of the first alternative. -/
theorem exists_ordinary_of_alternatives (nonempty : rightSide ≠ [])
    (trimmed : Text.Trimmed rightSide) (compiled : alternatives options rightSide = .ok found) :
    ∃ alternative ∈ found, alternative.tryLast = false := by
  obtain ⟨raw, blocks, divided, each, rfl⟩ := alternatives_eq_ok_iff_blocks.mp compiled
  obtain ⟨first, others, rfl, givesBack⟩ :=
    RightSide.givesBack_of_split nonempty trimmed divided
  have firstOrdinary : first.tryLast = false := by
    have flag := givesBack.tryLast_iff 0 first rfl
    simpa using flag
  obtain ⟨block, laterBlocks, isBlock, -, rfl⟩ := List.forall₂_cons_left_iff.mp each
  have blockFull : block ≠ [] := by
    rw [← List.length_pos_iff_ne_nil, isBlock.length_eq]
    exact Nat.two_pow_pos _
  obtain ⟨alternative, rest, rfl⟩ := List.exists_cons_of_ne_nil blockFull
  refine ⟨alternative, List.mem_cons_self, ?_⟩
  rw [isBlock.tryLast_eq alternative List.mem_cons_self, firstOrdinary]

theorem ReadsRightSide.exists_ordinary (trimmed : Text.Trimmed rightSide)
    (reads : ReadsRightSide options rightSide found) :
    ∃ alternative ∈ found, alternative.tryLast = false := by
  cases reads with
  | pattern => exact ⟨_, List.mem_singleton_self _, rfl⟩
  | cases _ nonempty compiled => exact exists_ordinary_of_alternatives nonempty trimmed compiled

end Compile

namespace Rule

variable {rule : Rule}

/-- The try-last alternatives are those behind some place other than the first one. -/
def LastAtEnd (rule : Rule) : Prop :=
  ∃ ordinary last, rule.alternatives = ordinary ++ last ∧ ordinary ≠ [] ∧
    (∀ alternative ∈ ordinary, alternative.tryLast = false) ∧
    ∀ alternative ∈ last, alternative.tryLast = true

/-- What holds of every compiled rule. -/
structure WellFormed (options : CompileOptions) (rule : Rule) : Prop where
  name_ne_nil : rule.name ≠ []
  name_trimmed : Text.trim rule.name = rule.name
  full : rule.Full
  pattern_or_words : (∃ regex : Regex, ['^'] <+: regex.pattern ∧
      rule.alternatives = [{ symbols := [.pattern regex] }]) ∨
    ∀ alternative ∈ rule.alternatives, ∀ symbol ∈ alternative.symbols, symbol.FromWord options
  not_optional : ∀ alternative ∈ rule.alternatives, ∀ name,
    .nonTerminal name ∈ alternative.symbols → ¬ ∃ inside, name = '<' :: (inside ++ ['>', '?'])
  lastAtEnd : rule.LastAtEnd
  honours : rule.HonoursBars options

theorem wellFormed_of_pattern {regex : Regex} (nameReadsBack : NameReadsBack rule.name)
    (marked : ['^'] <+: regex.pattern)
    (only : rule.alternatives = [{ symbols := [.pattern regex] }]) :
    rule.WellFormed options where
  name_ne_nil := nameReadsBack.nonempty
  name_trimmed := Text.trim_eq_self nameReadsBack.trimmed
  full := by
    constructor
    · rw [only]
      exact List.cons_ne_nil _ _
    · rw [only, List.forall_mem_singleton]
      exact List.cons_ne_nil _ _
  pattern_or_words := .inl ⟨regex, marked, only⟩
  not_optional := by
    rw [only, List.forall_mem_singleton]
    intro name isSymbol
    cases List.mem_singleton.mp isSymbol
  lastAtEnd := ⟨rule.alternatives, [], (List.append_nil _).symm, by simp [only], by simp [only],
    List.forall_mem_nil _⟩
  honours := .inr (by simp [only])

theorem FromCases.wellFormed (fromCases : rule.FromCases options)
    (nameReadsBack : NameReadsBack rule.name)
    (ordinary : ∃ alternative ∈ rule.alternatives, alternative.tryLast = false) :
    rule.WellFormed options where
  name_ne_nil := nameReadsBack.nonempty
  name_trimmed := Text.trim_eq_self nameReadsBack.trimmed
  full := fromCases.full
  pattern_or_words := .inr fromCases.fromWords
  not_optional := by
    intro alternative isAlternative name isSymbol optional
    cases fromCases.fromWords alternative isAlternative _ isSymbol with
    | nonTerminal _ _ required =>
        have hasForm : Compile.isOptional name = true := RightSide.Word.isOptional_iff.mpr optional
        rw [required] at hasForm
        cases hasForm
  lastAtEnd := by
    refine ⟨rule.alternatives.filter fun alternative => !alternative.tryLast,
      rule.alternatives.filter Alternative.tryLast, fromCases.tried_eq.symm, ?_, ?_, ?_⟩
    · obtain ⟨alternative, member, flag⟩ := ordinary
      exact List.ne_nil_of_mem (List.mem_filter.mpr ⟨member, by rw [flag]; rfl⟩)
    · intro alternative member
      simpa using (List.mem_filter.mp member).2
    · exact fun alternative member => (List.mem_filter.mp member).2
  honours := fromCases.honours

/-- Every rule that compiles is well formed. -/
theorem wellFormed_of_compile {line : Text} (compiled : Compile.rule options line = .ok rule) :
    rule.WellFormed options := by
  obtain ⟨nameReadsBack, ⟨regex, marked, only⟩ | fromCases⟩ := fromCases_or_pattern compiled
  · exact wellFormed_of_pattern nameReadsBack marked only
  · obtain ⟨front, back, rfl, absent⟩ := Compile.exists_separator_of_rule compiled
    obtain ⟨-, -, -, reads⟩ := (Compile.rule_eq_ok_iff absent).mp compiled
    exact fromCases.wellFormed nameReadsBack (reads.exists_ordinary (Text.trimmed_trim back))

/-- An escape, an empty production, and optional words on both sides of a double bar. -/
def wellFormedLine : Text := " <r> := a\\u0020b <x>? | \u03B5 || <y>?".toList

/-- The last two alternatives are the choices for the word behind the double bar. -/
def wellFormedRule : Rule :=
  ⟨"<r>".toList,
    [{ symbols := [.terminal "a b".toList true] },
      { symbols := [.terminal "a b".toList true, .nonTerminal "<x>".toList] },
      { symbols := [.epsilon] },
      { symbols := [.epsilon], tryLast := true },
      { symbols := [.nonTerminal "<y>".toList], tryLast := true }]⟩

theorem wellFormedLine_compile :
    Compile.rule { stickyRules := true } wellFormedLine = .ok wellFormedRule ∧
      wellFormedRule.WellFormed { stickyRules := true } := by
  have compiled : Compile.rule { stickyRules := true } wellFormedLine = .ok wellFormedRule := rfl
  exact ⟨compiled, wellFormed_of_compile compiled⟩

end Rule

end BnfParsing
