import BnfParsing.Proofs.Grammar.Compilation

/-!
Contract: a case compiles the same way on its own and as the right side of a rule.

A right side is read from runs of characters, and a wide gap between words is a
fault of its own. A case on its own is cut at every space, so that a wide gap
shows up as an empty word, which stands for no symbol. Both ask for single spaces
and then read the same words.

Owns:
- a right side without bars and optional words, in terms of its words;
- a case on its own in the same terms;
- agreement of the two.

Does not own: right sides with several alternatives.
-/

set_option autoImplicit false

namespace BnfParsing.Compile

open RightSide (isBar groups)
open Text (words SingleSpaced)

variable {options : CompileOptions}

/-! ## Right sides with one alternative -/

section RightSides

variable {rightSide : Text} {found : List Alternative}
variable (nonempty : rightSide ≠ []) (trimmed : Text.Trimmed rightSide)
variable (noBar : ∀ word ∈ words rightSide, isBar options.stickyRules word = false)
variable (required : ∀ word ∈ words rightSide, isOptional word = false)

include nonempty trimmed noBar required

theorem single_of_alternatives (compiled : alternatives options rightSide = .ok found) :
    SingleSpaced rightSide ∧
      ∃ symbols, SymbolsOf options (words rightSide) symbols ∧ found = [{ symbols }] := by
  obtain ⟨raw, divided, perGroup, each, rfl⟩ := alternatives_eq_ok_iff.mp compiled
  have singleSpaced := RightSide.singleSpaced_of_split nonempty trimmed noBar divided
  obtain ⟨group, rfl, sameWords, notLast⟩ :=
    RightSide.exists_group_of_split nonempty trimmed noBar divided
  refine ⟨singleSpaced, ?_⟩
  cases each with
  | @cons _ variantsFound _ _ groupCompiled noMore =>
      cases noMore
      rw [variants_eq_ok_iff, sameWords, choices_of_required required] at groupCompiled
      cases groupCompiled with
      | @cons _ alternative _ _ both noOther =>
          cases noOther
          obtain ⟨symbols, tryLast⟩ := alternative
          obtain rfl : tryLast = false := both.2.trans notLast
          exact ⟨symbols, both.1, rfl⟩

/-- Such a right side compiles if its words stand for symbols and have single
spaces between them. -/
theorem alternatives_eq_ok_iff_of_single :
    alternatives options rightSide = .ok found ↔
      SingleSpaced rightSide ∧
        ∃ symbols, SymbolsOf options (words rightSide) symbols ∧ found = [{ symbols }] := by
  constructor
  · exact single_of_alternatives nonempty trimmed noBar required
  · rintro ⟨singleSpaced, symbols, symbolsOf, rfl⟩
    have oneGroup : groups options.stickyRules (words rightSide) = [words rightSide] :=
      RightSide.groups_of_no_bar noBar
    have oneChoice : choices (words rightSide) = [words rightSide] :=
      choices_of_required required
    have full : [] ∉ groups options.stickyRules (words rightSide) := by
      intro noWords
      rw [oneGroup, List.mem_singleton] at noWords
      obtain ⟨word, -, isFirst, -⟩ := trimmed.exists_first_word nonempty
      simp [← noWords] at isFirst
    have read : List.Forall₂ (SymbolsOf options)
        ((groups options.stickyRules (words rightSide)).flatMap choices) [symbols] := by
      rw [oneGroup, List.flatMap_singleton, oneChoice]
      exact .cons symbolsOf .nil
    obtain ⟨others, compiled, sameSymbols⟩ :=
      exists_alternatives nonempty trimmed singleSpaced full read
    -- the flag is not part of what was read, but it is known of whatever compiles
    obtain ⟨-, otherSymbols, -, rfl⟩ :=
      single_of_alternatives nonempty trimmed noBar required compiled
    obtain rfl : otherSymbols = symbols := by simpa using sameSymbols
    exact compiled

end RightSides

/-! ## Cases on their own -/

theorem map_text_partsFrom (position : Nat) (parts : List Text) :
    (partsFrom position parts).map RightSide.Word.text = parts := by
  induction parts generalizing position with
  | nil => rfl
  | cons part rest inductionHypothesis =>
      rw [partsFrom, List.map_cons, inductionHypothesis]

/-- An empty word stands for no symbol. -/
theorem nil_not_mem_of_symbolsOf {allWords : List Text} {symbols : List Symbol}
    (symbolsOf : SymbolsOf options allWords symbols) : [] ∉ allWords := by
  intro member
  cases symbolsOf with
  | none => simp at member
  | some _ matched =>
      obtain ⟨symbol, -, symbolOf⟩ := exists_mem_of_forall₂ matched.flip member
      cases symbolOf with
      | nonTerminal bracketed => simp at bracketed
      | epsilon _ spelled => simp [epsilonSpellings] at spelled
      | terminal _ _ nonempty => exact nonempty rfl

/-- A case compiles if its words stand for symbols and have single spaces between
them. -/
theorem alternative_eq_ok_iff {text : Text} {found : Alternative} :
    alternative options text = .ok found ↔
      Text.trim text ≠ [] ∧ SingleSpaced (Text.trim text) ∧
        ∃ symbols, SymbolsOf options (words (Text.trim text)) symbols ∧
          found = { symbols } := by
  have trimmed := Text.trimmed_trim text
  rw [alternative]
  generalize Text.trim text = content at trimmed ⊢
  have texts : (partsFrom 0 (Text.splitOn ' ' content)).map RightSide.Word.text =
      List.splitOn ' ' content := by
    rw [map_text_partsFrom, Text.splitOn_eq]
  generalize partsFrom 0 (Text.splitOn ' ' content) = allWords at texts ⊢
  constructor
  · intro compiled
    split at compiled
    next => cases compiled
    next =>
      cases read : symbols options allWords with
      | error located =>
          rw [read] at compiled
          cases compiled
      | ok found =>
          rw [read] at compiled
          cases compiled
          have symbolsOf := symbols_eq_ok_iff.mp read
          rw [texts] at symbolsOf
          have full := nil_not_mem_of_symbolsOf symbolsOf
          rw [← Text.words_eq_splitOn full] at symbolsOf
          refine ⟨?_, Text.singleSpaced_of_nil_not_mem full, found, symbolsOf, rfl⟩
          rintro rfl
          exact full List.mem_cons_self
  · rintro ⟨nonempty, singleSpaced, found, symbolsOf, rfl⟩
    have full : [] ∉ List.splitOn ' ' content := by
      refine Text.nil_not_mem_splitOn singleSpaced nonempty ?_ ?_
      · intro starts
        exact absurd (trimmed.head_not_blank ' ' starts) (by decide)
      · intro ends
        exact absurd (trimmed.getLast_not_blank ' ' ends) (by decide)
    rw [Text.words_eq_splitOn full, ← texts] at symbolsOf
    have notAllEmpty : (allWords.all fun word => word.text.isEmpty) = false := by
      rw [← texts] at full
      cases allWords with
      | nil => exact absurd texts.symm (List.splitOn_ne_nil ' ' content)
      | cons word others =>
          have wordFull : word.text ≠ [] := fun empty =>
            full (List.mem_map.mpr ⟨word, List.mem_cons_self, empty⟩)
          simp [wordFull]
    rw [symbols_eq_ok_iff.mpr symbolsOf, notAllEmpty]
    rfl

/-! ## Agreement -/

/-- A right side that is neither a pattern nor several alternatives, and has no
word that may be left out. -/
structure SingleCase (rightSide : Text) : Prop where
  unmarked : ¬ ['^'] <+: rightSide
  separatorless : ¬ separator <:+: rightSide
  noBar : ∀ word ∈ words rightSide, word ≠ ['|'] ∧ word ≠ ['|', '|']
  noMarker : ∀ word ∈ words rightSide, ¬ ∃ name, word = '<' :: (name ++ ['>', '?'])

namespace SingleCase

variable {rightSide : Text}

theorem not_isBar (single : SingleCase rightSide) (stickyRules : Bool) :
    ∀ word ∈ words rightSide, isBar stickyRules word = false := by
  intro word member
  obtain ⟨notBar, notDouble⟩ := single.noBar word member
  simp [isBar, notBar, notDouble]

theorem required (single : SingleCase rightSide) :
    ∀ word ∈ words rightSide, isOptional word = false := by
  intro word member
  by_contra optional
  exact single.noMarker word member (exists_of_isOptional (by simpa using optional))

end SingleCase

/-- The right side of such a rule is read as the case it would be on its own. -/
theorem readsRightSide_iff_alternative {text : Text} {found : List Alternative}
    (single : SingleCase (Text.trim text)) :
    ReadsRightSide options (Text.trim text) found ↔
      ∃ case, alternative options text = .ok case ∧ found = [case] := by
  rw [readsRightSide_iff_cases single.unmarked]
  constructor
  · rintro ⟨nonempty, compiled⟩
    obtain ⟨singleSpaced, symbols, symbolsOf, rfl⟩ :=
      single_of_alternatives nonempty (Text.trimmed_trim text)
        (single.not_isBar options.stickyRules) single.required compiled
    exact ⟨_, alternative_eq_ok_iff.mpr ⟨nonempty, singleSpaced, symbols, symbolsOf, rfl⟩, rfl⟩
  · rintro ⟨case, compiled, rfl⟩
    obtain ⟨nonempty, singleSpaced, symbols, symbolsOf, rfl⟩ := alternative_eq_ok_iff.mp compiled
    refine ⟨nonempty, ?_⟩
    rw [alternatives_eq_ok_iff_of_single nonempty (Text.trimmed_trim text)
      (single.not_isBar options.stickyRules) single.required]
    exact ⟨singleSpaced, symbols, symbolsOf, rfl⟩

/-- A rule with a single case compiles exactly if the case compiles on its own,
and then it has that case and no other. -/
theorem rule_agrees_with_alternative (options : CompileOptions) (name text : Text)
    (named : Text.trim name ≠ []) (nameSeparatorless : ¬ separator <:+: name)
    (single : SingleCase (Text.trim text)) :
    ((∃ rule, Compile.rule options (name ++ " := ".toList ++ text) = .ok rule) ↔
        ∃ case, alternative options text = .ok case) ∧
      ∀ rule, Compile.rule options (name ++ " := ".toList ++ text) = .ok rule →
        ∃ case, alternative options text = .ok case ∧ rule = ⟨Text.trim name, [case]⟩ := by
  have blankless : ∀ character ∈ separator, Text.isBlank character = false := by
    intro character member
    rcases List.mem_cons.mp member with rfl | last
    · rfl
    · rw [List.mem_singleton.mp last]
      rfl
  have separatorless : ¬ separator <:+: text := by
    have nonempty : separator ≠ [] := List.cons_ne_nil _ _
    rw [← Text.infix_trim_iff nonempty blankless]
    exact single.separatorless
  have compiled : ∀ rule : Rule,
      Compile.rule options (name ++ " := ".toList ++ text) = .ok rule ↔
        ∃ case, alternative options text = .ok case ∧ rule = ⟨Text.trim name, [case]⟩ := by
    intro rule
    obtain ⟨ruleName, alternatives⟩ := rule
    rw [rule_line_eq_ok_iff nameSeparatorless, readsRightSide_iff_alternative single]
    constructor
    · rintro ⟨-, -, rfl, case, caseCompiled, rfl⟩
      exact ⟨case, caseCompiled, rfl⟩
    · rintro ⟨case, caseCompiled, same⟩
      cases same
      exact ⟨separatorless, named, rfl, case, caseCompiled, rfl⟩
  refine ⟨⟨?_, ?_⟩, fun rule => (compiled rule).mp⟩
  · rintro ⟨rule, ruleCompiled⟩
    obtain ⟨case, caseCompiled, -⟩ := (compiled rule).mp ruleCompiled
    exact ⟨case, caseCompiled⟩
  · rintro ⟨case, caseCompiled⟩
    exact ⟨_, (compiled _).mpr ⟨case, caseCompiled, rfl⟩⟩

/-- Blanks around a case with a bar inside a word and an escape. -/
def bracketedCase : Text := "\t( <e> a|b \\u0041 ".toList

/-- Options under which bars would be honoured if they stood alone. -/
def honouringOptions : CompileOptions := { stickyRules := true, caseSensitive := false }

theorem bracketedCase_agrees : SingleCase (Text.trim bracketedCase) ∧
    Compile.rule honouringOptions ("<x>".toList ++ " := ".toList ++ bracketedCase) =
      .ok ⟨"<x>".toList, [{ symbols := [.terminal ['('] false, .nonTerminal "<e>".toList,
        .terminal "a|b".toList false, .terminal ['A'] false] }]⟩ ∧
    ∃ case, alternative honouringOptions bracketedCase = .ok case := by
  have single : SingleCase (Text.trim bracketedCase) := by
    refine ⟨by decide, by decide, by decide, ?_⟩
    rintro word member ⟨name, rfl⟩
    have noQuestionMark : ∀ word ∈ words (Text.trim bracketedCase), '?' ∉ word := by decide
    exact noQuestionMark _ member (by simp)
  obtain ⟨iff, same⟩ := rule_agrees_with_alternative honouringOptions "<x>".toList bracketedCase
    (by decide) (by decide) single
  obtain ⟨rule, compiled⟩ := iff.mpr ⟨_, rfl⟩
  obtain ⟨case, caseCompiled, rfl⟩ := same rule compiled
  refine ⟨single, ?_, case, caseCompiled⟩
  rw [compiled]
  cases caseCompiled
  rfl

end BnfParsing.Compile
