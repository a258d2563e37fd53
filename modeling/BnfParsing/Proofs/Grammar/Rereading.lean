import BnfParsing.Proofs.Grammar.Display
import Mathlib.Algebra.Order.BigOperators.Group.List
import Mathlib.Algebra.Order.Group.Nat

/-!
Contract: the compiled rules whose written form compiles back to them.

A written form shows literals as they are matched, while compiling resolves
escapes, trims the right side and gives a meaning to bars, brackets, question
marks, epsilons and the pattern mark. A rule comes back exactly if none of these
applies to what it shows.

Owns:
- sameness of rules as a relation between their symbols;
- what compiled rules have in common;
- the exact condition under which a compiled rule is read back.

Does not own: rules that were put together from others.
-/

set_option autoImplicit false

namespace BnfParsing

open Compile (separator isOptional kept SymbolOf ReadsRightSide)
open RightSide (isBar groups)
open Text (words)

variable {options : CompileOptions}

/-! ## Sameness -/

/-- Symbols that are the same up to case flags. -/
structure Symbol.Same (symbol other : Symbol) : Prop where
  kind_eq : symbol.kind = other.kind
  name_eq : symbol.name = other.name

theorem Symbol.same_iff {symbol other : Symbol} :
    symbol.same other = true ↔ symbol.Same other := by
  rw [Symbol.same, Bool.and_eq_true, beq_iff_eq, beq_iff_eq]
  exact ⟨fun both => ⟨both.1, both.2⟩, fun same => ⟨same.kind_eq, same.name_eq⟩⟩

theorem forall₂_iff_all_zip {α β : Type} {related : α → β → Prop} {test : α × β → Bool}
    (decides : ∀ first second, test (first, second) = true ↔ related first second)
    {sources : List α} {targets : List β} :
    (sources.length == targets.length && (sources.zip targets).all test) = true ↔
      List.Forall₂ related sources targets := by
  rw [Bool.and_eq_true, beq_iff_eq, List.all_eq_true, List.forall₂_iff_zip]
  refine and_congr_right fun _ => ⟨fun all first second member => ?_, fun all pair member => ?_⟩
  · exact (decides first second).mp (all _ member)
  · exact (decides pair.1 pair.2).mpr (all member)

/-- Alternatives whose symbols are the same up to case flags. -/
def Alternative.Same (alternative other : Alternative) : Prop :=
  List.Forall₂ Symbol.Same alternative.symbols other.symbols

theorem Alternative.same_iff {alternative other : Alternative} :
    alternative.same other = true ↔ alternative.Same other :=
  forall₂_iff_all_zip fun _ _ => Symbol.same_iff

theorem Rule.same_iff {rule other : Rule} :
    rule.same other = true ↔ rule.name = other.name ∧
      List.Forall₂ Alternative.Same rule.alternatives other.alternatives := by
  rw [Rule.same, Bool.and_assoc, Bool.and_eq_true, beq_iff_eq]
  exact and_congr_right fun _ => forall₂_iff_all_zip fun _ _ => Alternative.same_iff

/-! ## Compiled rules -/

/-- The symbols that words are compiled to. -/
inductive Symbol.FromWord (options : CompileOptions) : Symbol → Prop where
  | terminal {literal : Text} (nonempty : literal ≠ []) :
      Symbol.FromWord options (.terminal literal options.caseSensitive)
  | epsilon : Symbol.FromWord options .epsilon
  | nonTerminal {name : Text} (bracketed : ['<'] <+: name) (spaceless : ' ' ∉ name)
      (required : isOptional name = false) : Symbol.FromWord options (.nonTerminal name)

/-- Words never stand for patterns. -/
theorem Symbol.FromWord.kind_ne_pattern {symbol : Symbol} (fromWord : symbol.FromWord options) :
    symbol.kind ≠ .pattern := by
  cases fromWord <;> exact Symbol.Kind.noConfusion

namespace Rule

variable {rule again : Rule}

/-- A rule compiled from a right side that is no pattern. -/
structure FromCases (options : CompileOptions) (rule : Rule) : Prop where
  full : rule.Full
  honours : rule.HonoursBars options
  tried_eq : rule.tried = rule.alternatives
  fromWords : ∀ alternative ∈ rule.alternatives, ∀ symbol ∈ alternative.symbols,
    symbol.FromWord options

theorem fromCases_of_alternatives {rightSide : Text} (nonempty : rightSide ≠ [])
    (trimmed : Text.Trimmed rightSide)
    (compiled : Compile.alternatives options rightSide = .ok rule.alternatives) :
    rule.FromCases options := by
  have flags := Compile.flags_of_alternatives compiled
  rw [List.pairwise_cons] at flags
  constructor
  · constructor
    · exact Compile.ne_nil_of_alternatives nonempty trimmed compiled
    · exact fun alternative isAlternative =>
        Compile.symbols_ne_nil_of_alternatives nonempty trimmed compiled isAlternative
  · by_cases sticky : options.stickyRules = true
    · exact .inl sticky
    · refine .inr fun alternative isAlternative => ?_
      have honoured := (flags.1 _ (List.mem_map_of_mem isAlternative)).honoured
      simp_all
  · exact tried_eq_alternatives options.stickyRules flags.2
  · intro alternative isAlternative symbol isSymbol
    rcases Compile.exists_word_of_symbol nonempty trimmed compiled isAlternative isSymbol with
      rfl | ⟨word, isWord, symbolOf⟩
    · exact .epsilon
    · cases symbolOf with
      | nonTerminal bracketed =>
          refine .nonTerminal bracketed ?_ (Compile.isOptional_kept word)
          exact fun space => Text.spaceless_of_mem_words isWord
            ((Compile.kept_prefix word).subset space)
      | epsilon => exact .epsilon
      | terminal _ _ nonempty resolved =>
          exact .terminal (Escape.ne_nil_of_resolve resolved nonempty)

/-- A line compiles to a rule whose name is read back, with a pattern or with
cases. -/
theorem fromCases_or_pattern {line : Text} (compiled : Compile.rule options line = .ok rule) :
    NameReadsBack rule.name ∧ ((∃ regex : Regex, ['^'] <+: regex.pattern ∧
      rule.alternatives = [{ symbols := [.pattern regex] }]) ∨ rule.FromCases options) := by
  obtain ⟨front, back, rfl, absent⟩ := Compile.exists_separator_of_rule compiled
  obtain ⟨-, nameNonempty, sameName, reads⟩ := (Compile.rule_eq_ok_iff absent).mp compiled
  constructor
  · rw [sameName]
    exact ⟨nameNonempty, Text.trimmed_trim front,
      fun found => absent (found.trans (Text.trim_infix front))⟩
  · generalize split : rule.alternatives = alternatives at reads
    cases reads with
    | @pattern regex marked resolved =>
        refine .inl ⟨regex, ?_, rfl⟩
        obtain ⟨rest, markedSplit⟩ := marked
        rw [← markedSplit, List.singleton_append, Escape.resolve_cons (by decide)] at resolved
        cases resolution : Escape.resolve rest with
        | error shown => simp [resolution, Except.map] at resolved
        | ok resolvedRest =>
            simp only [resolution, Except.map, Except.ok.injEq] at resolved
            exact ⟨resolvedRest, resolved⟩
    | cases _ nonempty found =>
        exact .inr (fromCases_of_alternatives nonempty (Text.trimmed_trim back) (split ▸ found))

/-! ## Patterns -/

/-- A rule that is one pattern is read back if nothing in the pattern is taken
for something else. -/
theorem pattern_reads_back_iff {regex : Regex} (marked : ['^'] <+: regex.pattern)
    (nameReadsBack : NameReadsBack rule.name)
    (only : rule.alternatives = [{ symbols := [.pattern regex] }]) :
    (∃ again, Compile.rule options rule.display = .ok again ∧ again.same rule = true) ↔
      ¬ separator <:+: regex.pattern ∧ Text.Trimmed regex.pattern ∧
        Escape.resolve regex.pattern = .ok regex.pattern := by
  have shown : rule.displayRightSide = regex.pattern := displayRightSide_single only
  simp only [compile_display_eq_ok_iff nameReadsBack, same_iff, only, shown]
  constructor
  · rintro ⟨again, ⟨separatorless, -, reads⟩, -, same⟩
    refine ⟨separatorless, ?_⟩
    generalize split : again.alternatives = alternatives at reads same
    cases reads with
    | @pattern other _ resolved =>
        have samePattern : other.pattern = regex.pattern :=
          (List.forall₂_cons.mp (List.forall₂_cons.mp same).1).1.name_eq
        have sameText : Text.trim regex.pattern = regex.pattern := by
          rcases Escape.eq_or_length_lt_of_resolve resolved with kept | shorter
          · exact kept.symm.trans samePattern
          · have bound := (Text.trim_infix regex.pattern).length_le
            rw [samePattern] at shorter
            omega
        rw [sameText, samePattern] at resolved
        exact ⟨Text.trim_eq_self_iff.mp sameText, resolved⟩
    | cases _ nonempty found =>
        have fromCases : again.FromCases options :=
          fromCases_of_alternatives nonempty (Text.trimmed_trim _) (split ▸ found)
        rw [← split] at same
        obtain ⟨alternative, isAlternative, sameSymbols⟩ :=
          exists_mem_of_forall₂ same (List.mem_singleton_self _)
        obtain ⟨symbol, isSymbol, sameSymbol⟩ :=
          exists_mem_of_forall₂ sameSymbols (List.mem_singleton_self _)
        exact absurd sameSymbol.kind_eq
          (fromCases.fromWords alternative isAlternative symbol isSymbol).kind_ne_pattern
  · rintro ⟨separatorless, trimmed, resolved⟩
    refine ⟨⟨rule.name, [{ symbols := [.pattern regex] }]⟩, ⟨separatorless, rfl, ?_⟩, rfl, ?_⟩
    · rw [Text.trim_eq_self trimmed]
      exact .pattern marked resolved
    · exact .cons (.cons ⟨rfl, rfl⟩ .nil) .nil

/-! ## Cases -/

/-- Cases are read back if they meet the conditions and show no separator. -/
theorem FromCases.exists_same (fromCases : rule.FromCases options)
    (nameReadsBack : NameReadsBack rule.name)
    (separatorless : ¬ separator <:+: rule.displayRightSide)
    (casesReadBack : rule.CasesReadBack options) :
    ∃ again, Compile.rule options rule.display = .ok again ∧ again.same rule = true := by
  obtain ⟨alternatives, reads, sameSymbols⟩ :=
    casesReadBack.readsRightSide fromCases.full fromCases.honours
  refine ⟨⟨rule.name, alternatives⟩, (compile_display_eq_ok_iff nameReadsBack).mpr
    ⟨separatorless, rfl, ?_⟩, same_iff.mpr ⟨rfl, ?_⟩⟩
  · rwa [Text.trim_eq_self casesReadBack.trimmed]
  · have mapped : List.Forall₂ (List.Forall₂ Symbol.Same)
        (alternatives.map Alternative.symbols) (rule.alternatives.map Alternative.symbols) := by
      rw [sameSymbols, fromCases.tried_eq, List.forall₂_same]
      exact fun symbols _ => List.forall₂_same.mpr fun _ _ => ⟨rfl, rfl⟩
    rwa [List.forall₂_map_left_iff, List.forall₂_map_right_iff] at mapped

/-- A literal of one of the alternatives of a rule. -/
def HasLiteral (rule : Rule) (literal : Text) : Prop :=
  ∃ alternative ∈ rule.alternatives, ∃ symbol ∈ alternative.symbols,
    symbol.kind = .terminal ∧ symbol.name = literal

theorem HasLiteral.mem_names {literal : Text} (hasLiteral : rule.HasLiteral literal) :
    literal ∈ rule.names := by
  obtain ⟨alternative, isAlternative, symbol, isSymbol, -, rfl⟩ := hasLiteral
  exact List.mem_flatMap.mpr
    ⟨alternative, mem_tried.mpr isAlternative, List.mem_map_of_mem isSymbol⟩

/-- The displayed cases of a compiled rule, read as the same cases. -/
structure ReadAgain (options : CompileOptions) (rule again : Rule) : Prop where
  fromCases : rule.FromCases options
  nonempty : Text.trim rule.displayRightSide ≠ []
  found : Compile.alternatives options (Text.trim rule.displayRightSide) =
    .ok again.alternatives
  same : List.Forall₂ Alternative.Same again.alternatives rule.alternatives

namespace ReadAgain

/-- Every word of the right side is a piece of a displayed word, up to blanks at
its ends. -/
theorem exists_displayed_word (readAgain : ReadAgain options rule again) {word : Text}
    (isWord : word ∈ words (Text.trim rule.displayRightSide)) :
    ∃ before behind, Text.isAllBlank before ∧ Text.isAllBlank behind ∧
      ∃ shown ∈ rule.displayedWords, before ++ word ++ behind ∈ words shown := by
  obtain ⟨before, behind, beforeBlank, behindBlank, inAll⟩ := Text.exists_blanks_mem_words isWord
  rw [words_displayRightSide readAgain.fromCases.full] at inAll
  exact ⟨before, behind, beforeBlank, behindBlank, List.mem_flatMap.mp inAll⟩

/-- Only the word itself can start with the bracket that blanks and the word start
with. -/
theorem bracketed_of_blanks_append {before word behind : Text}
    (beforeBlank : Text.isAllBlank before) (nonempty : word ≠ [])
    (bracketed : ['<'] <+: before ++ word ++ behind) : before = [] ∧ ['<'] <+: word := by
  cases before with
  | nil =>
      obtain ⟨first, rest, rfl⟩ := List.exists_cons_of_ne_nil nonempty
      simpa using bracketed
  | cons blank before =>
      simp only [List.cons_append, List.cons_prefix_cons, List.nil_prefix, and_true] at bracketed
      simp only [Text.isAllBlank, List.all_cons, Bool.and_eq_true] at beforeBlank
      exact absurd (bracketed ▸ beforeBlank.1) (by decide)

/-- A word without brackets that resolves to something else comes from a literal
that is not plain and at least as long. -/
theorem eq_or_exists_literal (readAgain : ReadAgain options rule again) {word resolved : Text}
    (isWord : word ∈ words (Text.trim rule.displayRightSide)) (bracketless : '<' ∉ word)
    (resolves : Escape.resolve word = .ok resolved) :
    resolved = word ∨ ∃ literal, rule.HasLiteral literal ∧ ¬ PlainLiteral literal ∧
      word.length ≤ literal.length := by
  obtain ⟨before, behind, beforeBlank, behindBlank, shown, isShown, inShown⟩ :=
    readAgain.exists_displayed_word isWord
  have wordInfix : word <:+: shown :=
    List.IsInfix.trans ⟨before, behind, rfl⟩ (Text.infix_of_mem_words inShown)
  have ofNoBackslash : '\\' ∉ shown → resolved = word := by
    intro absent
    rw [Escape.resolve_of_no_backslash fun member => absent (wordInfix.subset member)] at resolves
    exact (Except.ok.inj resolves).symm
  rcases mem_displayedWords isShown with (rfl | rfl) | inNames
  · exact .inl (ofNoBackslash (by decide))
  · exact .inl (ofNoBackslash (by decide))
  · obtain ⟨alternative, isAlternative, symbol, isSymbol, rfl⟩ := exists_of_mem_names inNames
    have fromWord := readAgain.fromCases.fromWords alternative isAlternative symbol isSymbol
    cases fromWord with
    | epsilon => exact .inl (ofNoBackslash (by decide))
    | @nonTerminal name bracketed spaceless required =>
        rw [Symbol.name, Text.words_of_spaceless (Compile.ne_nil_of_bracketed bracketed) spaceless,
          List.mem_singleton] at inShown
        rw [← inShown] at bracketed
        have atWord := bracketed_of_blanks_append beforeBlank (Text.ne_nil_of_mem_words isWord)
          bracketed
        exact absurd (Compile.mem_of_bracketed atWord.2) bracketless
    | @terminal literal nonempty =>
        by_cases plain : PlainLiteral literal
        · left
          rw [Symbol.name, Text.words_of_spaceless nonempty plain.spaceless,
            List.mem_singleton] at inShown
          have whole := Escape.resolve_blanks_append_blanks beforeBlank behindBlank resolves
          rw [inShown, plain.resolved, Except.ok.injEq, ← inShown, List.append_assoc,
            List.append_assoc, List.append_cancel_left_eq, List.append_cancel_right_eq] at whole
          exact whole.symm
        · exact .inr ⟨literal, ⟨alternative, isAlternative, _, isSymbol, rfl, rfl⟩, plain,
            wordInfix.length_le⟩

theorem exists_word_of_literal (readAgain : ReadAgain options rule again) {literal : Text}
    (hasLiteral : rule.HasLiteral literal) :
    ∃ word ∈ words (Text.trim rule.displayRightSide), '<' ∉ word ∧
      word ∉ Compile.epsilonSpellings ∧ Escape.resolve word = .ok literal := by
  obtain ⟨alternative, isAlternative, symbol, isSymbol, isTerminal, rfl⟩ := hasLiteral
  obtain ⟨other, isOther, sameSymbols⟩ := exists_mem_of_forall₂ readAgain.same isAlternative
  obtain ⟨read, isRead, sameSymbol⟩ := exists_mem_of_forall₂ sameSymbols isSymbol
  have readTerminal := sameSymbol.kind_eq.trans isTerminal
  rw [← sameSymbol.name_eq]
  rcases Compile.exists_word_of_symbol readAgain.nonempty (Text.trimmed_trim _) readAgain.found
    isOther isRead with rfl | ⟨word, isWord, symbolOf⟩
  · cases readTerminal
  · cases symbolOf with
    | nonTerminal => cases readTerminal
    | epsilon => cases readTerminal
    | terminal bracketless notSpelled _ resolved =>
        have whole := Compile.kept_of_bracketless bracketless
        rw [whole] at bracketless notSpelled resolved
        exact ⟨word, isWord, bracketless, notSpelled, resolved⟩

/-- All literals are plain: of those that are not, a longest one would come from
one that is longer still. -/
theorem plain_literal (readAgain : ReadAgain options rule again) {literal : Text}
    (hasLiteral : rule.HasLiteral literal) : PlainLiteral literal := by
  induction missing : (rule.names.map List.length).sum - literal.length using
    Nat.strong_induction_on generalizing literal with
  | _ count inductionHypothesis =>
      obtain ⟨word, isWord, bracketless, notSpelled, resolved⟩ :=
        readAgain.exists_word_of_literal hasLiteral
      have plainIfSame : literal = word → PlainLiteral literal := by
        rintro rfl
        exact ⟨Text.ne_nil_of_mem_words isWord, Text.spaceless_of_mem_words isWord, bracketless,
          notSpelled, resolved⟩
      rcases readAgain.eq_or_exists_literal isWord bracketless resolved with
        same | ⟨longer, hasLonger, notPlain, bound⟩
      · exact plainIfSame same
      · rcases Escape.eq_or_length_lt_of_resolve resolved with same | shorter
        · exact plainIfSame same
        · have total : longer.length ≤ (rule.names.map List.length).sum :=
            List.le_sum_of_mem (List.mem_map_of_mem hasLonger.mem_names)
          exact absurd (inductionHypothesis _ (by omega) hasLonger rfl) notPlain

/-- A word without brackets is read as it is. -/
theorem resolved_word (readAgain : ReadAgain options rule again) {word resolved : Text}
    (isWord : word ∈ words (Text.trim rule.displayRightSide)) (bracketless : '<' ∉ word)
    (resolves : Escape.resolve word = .ok resolved) : resolved = word := by
  rcases readAgain.eq_or_exists_literal isWord bracketless resolves with
    same | ⟨literal, hasLiteral, notPlain, -⟩
  · exact same
  · exact absurd (readAgain.plain_literal hasLiteral) notPlain

theorem readsBack (readAgain : ReadAgain options rule again) :
    ∀ alternative ∈ rule.alternatives, ∀ symbol ∈ alternative.symbols,
      symbol.ReadsBack options := by
  intro alternative isAlternative symbol isSymbol
  cases readAgain.fromCases.fromWords alternative isAlternative symbol isSymbol with
  | terminal =>
      exact .terminal (readAgain.plain_literal ⟨alternative, isAlternative, _, isSymbol, rfl, rfl⟩)
  | epsilon => exact .epsilon
  | nonTerminal bracketed spaceless required => exact .nonTerminal bracketed spaceless required

/-- A symbol that is read for a word has the word for its name. -/
theorem name_eq_kept (readAgain : ReadAgain options rule again) {word : Text} {symbol : Symbol}
    (isWord : word ∈ words (Text.trim rule.displayRightSide))
    (symbolOf : SymbolOf options (kept word) symbol) :
    symbol.name = kept word ∨ symbol.name = Symbol.epsilonName := by
  cases symbolOf with
  | nonTerminal => exact .inl rfl
  | epsilon => exact .inr rfl
  | terminal bracketless _ _ resolved =>
      have whole := Compile.kept_of_bracketless bracketless
      rw [whole] at bracketless resolved ⊢
      exact .inl (readAgain.resolved_word isWord bracketless resolved)

/-- The last symbol of the rule, and the same one as it is read. -/
theorem exists_last_symbol (readAgain : ReadAgain options rule again) :
    ∃ final ∈ rule.alternatives, ∃ symbol ∈ final.symbols,
      rule.tried.getLast? = some final ∧ final.symbols.getLast? = some symbol ∧
      ∃ other read, again.alternatives.getLast? = some other ∧
        other.symbols.getLast? = some read ∧ read.Same symbol := by
  have full := readAgain.fromCases.full
  have finalFound := List.getLast?_eq_some_getLast full.alternatives_ne_nil
  generalize rule.alternatives.getLast full.alternatives_ne_nil = final at finalFound
  have isFinal := List.mem_of_getLast? finalFound
  have symbolFound := List.getLast?_eq_some_getLast (full.symbols_ne_nil final isFinal)
  generalize final.symbols.getLast (full.symbols_ne_nil final isFinal) = symbol at symbolFound
  obtain ⟨other, otherFound, sameSymbols⟩ := exists_getLast?_of_forall₂ readAgain.same finalFound
  obtain ⟨read, readFound, sameSymbol⟩ := exists_getLast?_of_forall₂ sameSymbols symbolFound
  rw [← readAgain.fromCases.tried_eq] at finalFound
  exact ⟨final, isFinal, symbol, List.mem_of_getLast? symbolFound, finalFound, symbolFound,
    other, read, otherFound, readFound, sameSymbol⟩

/-- The first symbol of the rule, and the same one as it is read. -/
theorem exists_first_symbol (readAgain : ReadAgain options rule again) :
    ∃ initial ∈ rule.alternatives, ∃ symbol ∈ initial.symbols,
      rule.tried.head? = some initial ∧ initial.symbols.head? = some symbol ∧
      ∃ other read, again.alternatives.head? = some other ∧
        other.symbols.head? = some read ∧ read.Same symbol := by
  have full := readAgain.fromCases.full
  have initialFound := List.head?_eq_some_head full.alternatives_ne_nil
  generalize rule.alternatives.head full.alternatives_ne_nil = initial at initialFound
  have isInitial := List.mem_of_head? initialFound
  have symbolFound := List.head?_eq_some_head (full.symbols_ne_nil initial isInitial)
  generalize initial.symbols.head (full.symbols_ne_nil initial isInitial) = symbol at symbolFound
  obtain ⟨other, otherFound, sameSymbols⟩ := exists_head?_of_forall₂ readAgain.same initialFound
  obtain ⟨read, readFound, sameSymbol⟩ := exists_head?_of_forall₂ sameSymbols symbolFound
  rw [← readAgain.fromCases.tried_eq] at initialFound
  exact ⟨initial, isInitial, symbol, List.mem_of_head? symbolFound, initialFound, symbolFound,
    other, read, otherFound, readFound, sameSymbol⟩

/-- The right side has no blank at its end, because the last word is read as the
name at the end. -/
theorem getLast_not_blank (readAgain : ReadAgain options rule again) {last : Char}
    (isLast : rule.displayRightSide.getLast? = some last) : Text.isBlank last = false := by
  obtain ⟨final, isFinal, symbol, isSymbol, finalFound, symbolFound, other, read, otherFound,
    readFound, sameSymbol⟩ := readAgain.exists_last_symbol
  obtain ⟨word, _, isWord, ends, notBlank, symbolOf⟩ := Compile.exists_last_word
    readAgain.nonempty (Text.trimmed_trim _) readAgain.found otherFound readFound
  have named := readAgain.name_eq_kept isWord symbolOf
  have nameFull := (readAgain.readsBack final isFinal symbol isSymbol).name_ne_nil
  rw [sameSymbol.name_eq] at named
  rw [getLast?_displayRightSide readAgain.fromCases.full finalFound symbolFound nameFull] at isLast
  rcases named with named | named
  · obtain ⟨_, keptEnds, keptNotBlank⟩ := Compile.exists_getLast?_kept ends notBlank
    rw [named, keptEnds, Option.some.injEq] at isLast
    exact isLast ▸ keptNotBlank
  · rw [named, Symbol.epsilonName, List.getLast?_singleton, Option.some.injEq] at isLast
    exact isLast ▸ by decide

/-- A word of the right side is not optional: the displayed word it is cut from
would be the name of an optional reference. -/
theorem required_word (readAgain : ReadAgain options rule again) {word : Text}
    (isWord : word ∈ words (Text.trim rule.displayRightSide)) : isOptional word = false := by
  rw [Text.trim_eq_trimStart fun _ => readAgain.getLast_not_blank] at isWord
  obtain ⟨blanks, allBlank, split⟩ := Text.exists_blanks_append_trimStart rule.displayRightSide
  obtain ⟨before, beforeBlank, inAll⟩ := Text.exists_blanks_append_mem_words allBlank isWord
  rw [← split, words_displayRightSide_of_readsBack readAgain.readsBack
    readAgain.fromCases.full] at inAll
  by_contra optional
  obtain ⟨inside, wordSplit⟩ := Compile.exists_of_isOptional (by simpa using optional)
  have bracketInside : '<' ∈ before ++ word :=
    List.mem_append_right before (wordSplit ▸ List.mem_cons_self)
  rcases mem_displayedWords inAll with (bar | bar) | inNames
  · exact absurd (bar ▸ bracketInside) (by decide)
  · exact absurd (bar ▸ bracketInside) (by decide)
  · obtain ⟨symbol, readsBack, named⟩ := readsBack_of_mem_names readAgain.readsBack inNames
    rw [← named] at bracketInside
    cases readsBack with
    | terminal plain => exact plain.bracketless bracketInside
    | epsilon => exact absurd bracketInside (by decide)
    | nonTerminal bracketed _ required =>
        rw [Symbol.name] at named
        rw [named, ← List.append_nil (before ++ word)] at bracketed
        have atWord := bracketed_of_blanks_append beforeBlank (Text.ne_nil_of_mem_words isWord)
          bracketed
        rw [named, atWord.1, List.nil_append] at required
        exact optional required

/-- The right side has no blank at its start, because the first word is read as
the name at the start. -/
theorem head_not_blank (readAgain : ReadAgain options rule again) {first : Char}
    (isFirst : rule.displayRightSide.head? = some first) : Text.isBlank first = false := by
  obtain ⟨initial, isInitial, symbol, isSymbol, initialFound, symbolFound, other, read, otherFound,
    readFound, sameSymbol⟩ := readAgain.exists_first_symbol
  obtain ⟨word, _, isWord, starts, notBlank, symbolOf⟩ := Compile.exists_first_word
    (fun _ => readAgain.required_word) readAgain.nonempty (Text.trimmed_trim _) readAgain.found
    otherFound readFound
  have whole := Compile.kept_of_required (readAgain.required_word isWord)
  have named := readAgain.name_eq_kept isWord (whole.symm ▸ symbolOf)
  have nameFull := (readAgain.readsBack initial isInitial symbol isSymbol).name_ne_nil
  rw [sameSymbol.name_eq, whole] at named
  rw [head?_displayRightSide readAgain.fromCases.full initialFound symbolFound nameFull] at isFirst
  rcases named with named | named
  · rw [named, starts, Option.some.injEq] at isFirst
    exact isFirst ▸ notBlank
  · rw [named, Symbol.epsilonName, List.head?_cons, Option.some.injEq] at isFirst
    exact isFirst ▸ by decide

theorem trimmed (readAgain : ReadAgain options rule again) :
    Text.Trimmed rule.displayRightSide :=
  ⟨fun _ => readAgain.head_not_blank, fun _ => readAgain.getLast_not_blank⟩

/-- No name between others is taken for a bar, because every bar starts an
alternative. -/
theorem noInnerBar (readAgain : ReadAgain options rule again) :
    ∀ name ∈ rule.names.tail.dropLast, isBar options.stickyRules name = false := by
  have full := readAgain.fromCases.full
  have sameText := Text.trim_eq_self readAgain.trimmed
  have readCount := Compile.length_of_required (fun _ => readAgain.required_word)
    readAgain.nonempty (Text.trimmed_trim _) readAgain.found
  rw [sameText, words_displayRightSide_of_readsBack readAgain.readsBack full,
    length_groups_displayedWords full readAgain.fromCases.honours, readAgain.fromCases.tried_eq,
    readAgain.same.length_eq] at readCount
  have noBar : rule.names.tail.dropLast.countP (isBar options.stickyRules) = 0 := by omega
  intro name member
  simpa using List.countP_eq_zero.mp noBar name member

theorem unmarked_display (readAgain : ReadAgain options rule again)
    (unmarked : ¬ ['^'] <+: Text.trim rule.displayRightSide) :
    ¬ ['^'] <+: rule.displayRightSide := by
  rwa [Text.trim_eq_self readAgain.trimmed] at unmarked

end ReadAgain

/-! ## The exact condition -/

/-- The rules whose written form says what they are: nothing in it is trimmed,
resolved, or taken for a separator, a bar, a mark or another kind of symbol. -/
inductive ReadsBack (options : CompileOptions) (rule : Rule) : Prop where
  | pattern {regex : Regex}
      (only : rule.alternatives = [{ symbols := [.pattern regex] }])
      (separatorless : ¬ separator <:+: regex.pattern)
      (trimmed : Text.Trimmed regex.pattern)
      (resolved : Escape.resolve regex.pattern = .ok regex.pattern)
  | cases (separatorless : ¬ separator <:+: rule.displayRightSide)
      (casesReadBack : rule.CasesReadBack options)

theorem cases_read_back_iff (nameReadsBack : NameReadsBack rule.name)
    (fromCases : rule.FromCases options) :
    (∃ again, Compile.rule options rule.display = .ok again ∧ again.same rule = true) ↔
      ¬ separator <:+: rule.displayRightSide ∧ rule.CasesReadBack options := by
  constructor
  · rintro ⟨again, compiled, same⟩
    obtain ⟨separatorless, -, reads⟩ := (compile_display_eq_ok_iff nameReadsBack).mp compiled
    obtain ⟨-, sameAlternatives⟩ := same_iff.mp same
    refine ⟨separatorless, ?_⟩
    generalize split : again.alternatives = alternatives at reads
    cases reads with
    | @pattern regex =>
        rw [split] at sameAlternatives
        obtain ⟨alternative, isAlternative, sameSymbols⟩ :=
          exists_mem_of_forall₂ sameAlternatives.flip (List.mem_singleton_self _)
        obtain ⟨symbol, isSymbol, sameSymbol⟩ :=
          exists_mem_of_forall₂ sameSymbols.flip (List.mem_singleton_self (Symbol.pattern regex))
        exact absurd sameSymbol.kind_eq.symm
          (fromCases.fromWords alternative isAlternative symbol isSymbol).kind_ne_pattern
    | cases unmarked nonempty found =>
        have readAgain : ReadAgain options rule again :=
          ⟨fromCases, nonempty, split ▸ found, sameAlternatives⟩
        exact ⟨readAgain.readsBack, readAgain.noInnerBar, readAgain.trimmed,
          readAgain.unmarked_display unmarked⟩
  · rintro ⟨separatorless, casesReadBack⟩
    exact fromCases.exists_same nameReadsBack separatorless casesReadBack

/-- A compiled rule is read back from its written form exactly if the written form
says what it is. -/
theorem display_reads_back_iff {line : Text} (compiled : Compile.rule options line = .ok rule) :
    (∃ again, Compile.rule options rule.display = .ok again ∧ again.same rule = true) ↔
      rule.ReadsBack options := by
  obtain ⟨nameReadsBack, ⟨regex, marked, only⟩ | fromCases⟩ := fromCases_or_pattern compiled
  · rw [pattern_reads_back_iff marked nameReadsBack only]
    constructor
    · rintro ⟨separatorless, trimmed, resolved⟩
      exact .pattern only separatorless trimmed resolved
    · rintro (⟨otherOnly, separatorless, trimmed, resolved⟩ | ⟨-, casesReadBack⟩)
      · obtain rfl : regex = _ := by simpa using only.symm.trans otherOnly
        exact ⟨separatorless, trimmed, resolved⟩
      · have readsBack := casesReadBack.symbols _ (only ▸ List.mem_singleton_self _) _
          (List.mem_singleton_self (Symbol.pattern regex))
        cases readsBack
  · rw [cases_read_back_iff nameReadsBack fromCases]
    constructor
    · rintro ⟨separatorless, casesReadBack⟩
      exact .cases separatorless casesReadBack
    · rintro (⟨only, -⟩ | ⟨separatorless, casesReadBack⟩)
      · exact absurd rfl (fromCases.fromWords _ (only ▸ List.mem_singleton_self _) _
          (List.mem_singleton_self _)).kind_ne_pattern
      · exact ⟨separatorless, casesReadBack⟩

/-- A reference that may be left out becomes two alternatives, and both are shown. -/
def optionalCase : Rule :=
  ⟨"<a>".toList,
    [{ symbols := [.terminal ['x'] true] },
      { symbols := [.nonTerminal "<b>".toList, .terminal ['x'] true] },
      { symbols := [.epsilon] }]⟩

theorem optionalCase_reads_back :
    Compile.rule {} "<a> := <b>? x | ε".toList = .ok optionalCase ∧
      optionalCase.display = "<a> := x | <b> x | ε".toList ∧
      ∃ again, Compile.rule {} optionalCase.display = .ok again ∧
        again.same optionalCase = true := by
  have compiled : Compile.rule {} "<a> := <b>? x | ε".toList = .ok optionalCase := rfl
  refine ⟨compiled, by decide, (display_reads_back_iff compiled).mpr (.cases (by decide)
    ⟨?_, by decide, Text.trim_eq_self_iff.mp (by decide), by decide⟩)⟩
  have literal : (Symbol.terminal ['x'] true).ReadsBack {} :=
    .terminal ⟨by decide, by decide, by decide, by decide, rfl⟩
  have reference : (Symbol.nonTerminal "<b>".toList).ReadsBack {} :=
    .nonTerminal (by decide) (by decide) (by decide)
  simp only [optionalCase, List.mem_cons, List.not_mem_nil, or_false]
  rintro alternative (rfl | rfl | rfl) symbol isSymbol
  · exact List.mem_singleton.mp isSymbol ▸ literal
  · rcases List.mem_pair.mp isSymbol with rfl | rfl
    · exact reference
    · exact literal
  · exact List.mem_singleton.mp isSymbol ▸ .epsilon

/-- A space that was written as an escape is shown as a space, and separates words
when it is read again. -/
theorem escaped_space_not_read_back :
    ∃ rule again,
      Compile.rule {} ("<a> := x".toList ++ ['\\', 'u', '0', '0', '2', '0', 'y']) = .ok rule ∧
        rule.display = "<a> := x y".toList ∧
        Compile.rule {} rule.display = .ok again ∧ again.same rule = false :=
  ⟨_, _, rfl, rfl, rfl, rfl⟩

end Rule

end BnfParsing
