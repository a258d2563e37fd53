import BnfParsing.Grammar.Source
import BnfParsing.Proofs.Derivation.Agreement
import BnfParsing.Proofs.Grammar.Display
import BnfParsing.Proofs.Grammar.Merging
import BnfParsing.Proofs.Text.Lines

/-!
Contract: grammars whose written form compiles to a grammar that derives the
same trees.

Merging, inserting and adding cases may leave the alternatives of a rule in an
order other than the one they are tried in. The written form shows the tried
order, so what comes back is not the same grammar but one that is searched
alike.

Owns:
- printable names, symbols, rules and grammars;
- the lines of a printable grammar and the rules they compile to;
- the agreement of parsers over both grammars.

Does not own: grammars that are not printable.
-/

set_option autoImplicit false

namespace BnfParsing

open Compile (separator isOptional)
open RightSide (isBar)

variable {options : CompileOptions}

/-! ## Printable rules -/

/-- A name of a rule that is found again in a line. -/
structure PrintableName (name : Text) : Prop where
  nonempty : name ≠ []
  trimmed : Text.trim name = name
  noNewline : '\n' ∉ name
  noComment : '#' ∉ name
  separatorless : ¬ separator <:+: name

/-- A name without blanks that neither starts a comment nor holds a separator. -/
structure BareName (name : Text) : Prop where
  blankless : ∀ character ∈ name, Text.isBlank character = false
  noComment : '#' ∉ name
  separatorless : ¬ separator <:+: name

-- The characters are tested one by one: a bounded quantifier over characters may
-- otherwise be decided by going through all characters there are.
instance (name : Text) : Decidable (BareName name) :=
  decidable_of_iff
    ((name.all fun character => !Text.isBlank character) = true ∧
      '#' ∉ name ∧ ¬ separator <:+: name)
    ⟨fun ⟨blankless, noComment, separatorless⟩ =>
        ⟨by simpa using blankless, noComment, separatorless⟩,
      fun bare => ⟨by simpa using bare.blankless, bare.noComment, bare.separatorless⟩⟩

/-- The symbols that are written as one word and read as themselves. -/
inductive Symbol.Printable (options : CompileOptions) : Symbol → Prop where
  | epsilon : Symbol.Printable options .epsilon
  | terminal {literal : Text} (bare : BareName literal) (nonempty : literal ≠ [])
      (bracketless : '<' ∉ literal) (notEpsilon : literal ∉ Compile.epsilonSpellings)
      (notBar : literal ≠ ['|']) (notDoubleBar : literal ≠ ['|', '|'])
      (resolved : Escape.resolve literal = .ok literal) :
      Symbol.Printable options (.terminal literal options.caseSensitive)
  | nonTerminal {name : Text} (bare : BareName name) (bracketed : ['<'] <+: name)
      (required : isOptional name = false) : Symbol.Printable options (.nonTerminal name)

namespace Symbol.Printable

variable {symbol : Symbol}

theorem bareName (printable : symbol.Printable options) : BareName symbol.name := by
  cases printable with
  | epsilon => decide
  | terminal bare => exact bare
  | nonTerminal bare => exact bare

theorem readsBack (printable : symbol.Printable options) : symbol.ReadsBack options := by
  have spaceless : ' ' ∉ symbol.name := fun space =>
    absurd (printable.bareName.blankless ' ' space) (by decide)
  cases printable with
  | epsilon => exact .epsilon
  | terminal _ nonempty bracketless notEpsilon _ _ resolved =>
      exact .terminal ⟨nonempty, spaceless, bracketless, notEpsilon, resolved⟩
  | nonTerminal _ bracketed required => exact .nonTerminal bracketed spaceless required

theorem isBar_name (printable : symbol.Printable options) (stickyRules : Bool) :
    isBar stickyRules symbol.name = false := by
  cases printable with
  | epsilon => cases stickyRules <;> decide
  | terminal _ _ _ _ notBar notDoubleBar => simp [isBar, Symbol.name, notBar, notDoubleBar]
  | nonTerminal _ bracketed =>
      obtain ⟨rest, rfl⟩ := bracketed
      simp [isBar, Symbol.name]

end Symbol.Printable

namespace Rule

variable {rule : Rule}

/-- The rules that are written in a form that can be read: one pattern without
anything that is taken for something else, or cases of printable symbols. -/
inductive Printable (options : CompileOptions) (rule : Rule) : Prop where
  | pattern {regex : Regex} {tryLast : Bool}
      (only : rule.alternatives = [{ symbols := [.pattern regex], tryLast := tryLast }])
      (marked : ['^'] <+: regex.pattern)
      (noBlankAtEnd : ∀ last, regex.pattern.getLast? = some last → Text.isBlank last = false)
      (noNewline : '\n' ∉ regex.pattern) (noComment : '#' ∉ regex.pattern)
      (separatorless : ¬ separator <:+: regex.pattern)
      (resolved : Escape.resolve regex.pattern = .ok regex.pattern)
  | cases (full : rule.Full)
      (symbols : ∀ alternative ∈ rule.alternatives, ∀ symbol ∈ alternative.symbols,
        symbol.Printable options)
      (unmarked : ∀ first symbol, rule.tried.head? = some first →
        first.symbols.head? = some symbol → ¬ ['^'] <+: symbol.name)

/-- A right side that stays on its line and is not cut short. -/
structure KeepsLine (rightSide : Text) : Prop where
  nonempty : rightSide ≠ []
  trimmed : Text.Trimmed rightSide
  noNewline : '\n' ∉ rightSide
  noComment : '#' ∉ rightSide
  separatorless : ¬ separator <:+: rightSide

/-- Bare names keep their line when they are joined with spaces. -/
theorem keepsLine_join {parts : List Text} (partsNonempty : parts ≠ [])
    (full : ∀ part ∈ parts, part ≠ []) (bare : ∀ part ∈ parts, BareName part) :
    KeepsLine (Text.join [' '] parts) := by
  obtain ⟨first, rest, firstSplit⟩ := List.exists_cons_of_ne_nil partsNonempty
  have firstMember : first ∈ parts := firstSplit ▸ List.mem_cons_self
  have headFound : (Text.join [' '] parts).head? = first.head? := by
    rw [firstSplit, Text.head?_join (full first firstMember)]
  have lastFound : (Text.join [' '] parts).getLast? = (parts.getLast partsNonempty).getLast? := by
    have lastFull := full _ (List.getLast_mem partsNonempty)
    conv_lhs => rw [← List.dropLast_append_getLast partsNonempty]
    exact Text.getLast?_join lastFull _
  refine ⟨?_, ⟨?_, ?_⟩, ?_, ?_, ?_⟩
  · intro empty
    rw [empty, List.head?_nil, eq_comm, List.head?_eq_none_iff] at headFound
    exact full first firstMember headFound
  · intro character isHead
    rw [headFound] at isHead
    exact (bare first firstMember).blankless character (List.mem_of_head? isHead)
  · intro character isLast
    rw [lastFound] at isLast
    exact (bare _ (List.getLast_mem partsNonempty)).blankless character
      (List.mem_of_getLast? isLast)
  · intro newline
    rcases Text.mem_join newline with inSpace | ⟨part, isPart, inPart⟩
    · exact absurd inSpace (by decide)
    · exact absurd ((bare part isPart).blankless _ inPart) (by decide)
  · intro comment
    rcases Text.mem_join comment with inSpace | ⟨part, isPart, inPart⟩
    · exact absurd inSpace (by decide)
    · exact (bare part isPart).noComment inPart
  · intro found
    obtain ⟨part, isPart, inPart⟩ := Text.exists_infix_of_infix_join (by decide) (by decide) found
    exact (bare part isPart).separatorless inPart

section Cases

variable (symbols : ∀ alternative ∈ rule.alternatives, ∀ symbol ∈ alternative.symbols,
  symbol.Printable options)

include symbols

theorem printable_of_mem_names {name : Text} (member : name ∈ rule.names) :
    ∃ symbol : Symbol, symbol.Printable options ∧ symbol.name = name := by
  obtain ⟨alternative, isAlternative, symbol, isSymbol, same⟩ := exists_of_mem_names member
  exact ⟨symbol, symbols alternative isAlternative symbol isSymbol, same⟩

theorem keepsLine_of_cases (full : rule.Full) : KeepsLine rule.displayRightSide := by
  rw [displayRightSide_eq_join full]
  refine keepsLine_join ?_ (fun word isDisplayed => ?_) (fun word isDisplayed => ?_)
  · obtain ⟨first, rest, tried⟩ := exists_tried_of_full full
    rw [displayedWords_eq tried]
    exact List.append_ne_nil_of_left_ne_nil
      (names_nonempty_of_full full first (tried ▸ List.mem_cons_self)) _
  · exact (displayedWords_single (fun alternative isAlternative symbol isSymbol =>
      (symbols alternative isAlternative symbol isSymbol).readsBack) isDisplayed).1
  · rcases mem_displayedWords isDisplayed with (rfl | rfl) | inNames
    · decide
    · decide
    · obtain ⟨symbol, printable, rfl⟩ := printable_of_mem_names symbols inNames
      exact printable.bareName

theorem casesReadBack_of_cases (full : rule.Full)
    (unmarked : ∀ first symbol, rule.tried.head? = some first →
      first.symbols.head? = some symbol → ¬ ['^'] <+: symbol.name) :
    rule.CasesReadBack options := by
  refine ⟨fun alternative isAlternative symbol isSymbol =>
    (symbols alternative isAlternative symbol isSymbol).readsBack, fun name inner => ?_,
    (keepsLine_of_cases symbols full).trimmed, fun marked => ?_⟩
  · obtain ⟨symbol, printable, rfl⟩ := printable_of_mem_names symbols
      (List.mem_of_mem_tail (List.mem_of_mem_dropLast inner))
    exact printable.isBar_name options.stickyRules
  · obtain ⟨first, rest, tried⟩ := exists_tried_of_full full
    have isFirst : rule.tried.head? = some first := by rw [tried, List.head?_cons]
    obtain ⟨symbol, others, split⟩ := List.exists_cons_of_ne_nil
      (full.symbols_ne_nil first (mem_tried.mp (tried ▸ List.mem_cons_self)))
    have isFirstSymbol : first.symbols.head? = some symbol := by rw [split, List.head?_cons]
    have nameFull := (symbols first (mem_tried.mp (tried ▸ List.mem_cons_self)) symbol
      (split ▸ List.mem_cons_self)).readsBack.name_ne_nil
    obtain ⟨behind, shown⟩ := marked
    have sameHead := head?_displayRightSide full isFirst isFirstSymbol nameFull
    rw [← shown, List.singleton_append, List.head?_cons, eq_comm,
      List.head?_eq_some_iff] at sameHead
    obtain ⟨others, nameSplit⟩ := sameHead
    exact unmarked first symbol isFirst isFirstSymbol ⟨others, nameSplit.symm⟩

end Cases

theorem Printable.keepsLine (printable : rule.Printable options) :
    KeepsLine rule.displayRightSide := by
  cases printable with
  | pattern only marked noBlankAtEnd noNewline noComment separatorless =>
      rw [displayRightSide_single only]
      obtain ⟨rest, split⟩ := marked
      refine ⟨?_, ⟨fun first found => ?_, noBlankAtEnd⟩, noNewline, noComment, separatorless⟩
      · rw [Symbol.name, ← split]
        exact List.cons_ne_nil _ _
      · rw [Symbol.name, ← split, List.singleton_append, List.head?_cons,
          Option.some.injEq] at found
        exact found ▸ by decide
  | cases full symbols => exact keepsLine_of_cases symbols full

/-- A printable rule compiles to one that tries the same symbols. -/
theorem Printable.exists_again (printable : rule.Printable options)
    (printableName : PrintableName rule.name) (honours : rule.HonoursBars options) :
    ∃ again, Compile.rule options rule.display = .ok again ∧ rule.SameTried again := by
  have keepsLine := printable.keepsLine
  have nameReadsBack : NameReadsBack rule.name :=
    ⟨printableName.nonempty, Text.trim_eq_self_iff.mp printableName.trimmed,
      printableName.separatorless⟩
  suffices reads : ∃ alternatives,
      Compile.ReadsRightSide options rule.displayRightSide alternatives ∧
        alternatives.map Alternative.symbols = rule.tried.map Alternative.symbols by
    obtain ⟨alternatives, reads, sameSymbols⟩ := reads
    let again : Rule := ⟨rule.name, alternatives⟩
    have triedAgain : again.tried = again.alternatives := Compile.ReadsRightSide.tried_eq reads
    refine ⟨again, (compile_display_eq_ok_iff nameReadsBack).mpr
      ⟨keepsLine.separatorless, rfl, ?_⟩, rfl, ?_⟩
    · rwa [Text.trim_eq_self keepsLine.trimmed]
    · rw [triedAgain, sameSymbols]
  cases printable with
  | @pattern regex tryLast only marked _ _ _ _ resolved =>
      refine ⟨[{ symbols := [.pattern regex] }], ?_, ?_⟩
      · rw [displayRightSide_single only]
        exact .pattern marked resolved
      · cases tryLast <;> simp [tried, only]
  | cases full symbols unmarked =>
      exact (casesReadBack_of_cases symbols full unmarked).readsRightSide full honours

/-! ## Lines -/

/-- A line that is a rule and nothing else. -/
structure WholeLine (line : Text) : Prop where
  single : Text.SingleLine line
  uncommented : Source.stripComment line = line
  trimmed : Text.trim line = line

theorem wholeLine_display (printableName : PrintableName rule.name)
    (keepsLine : KeepsLine rule.displayRightSide) : WholeLine rule.display := by
  obtain ⟨first, rest, nameSplit⟩ := List.exists_cons_of_ne_nil printableName.nonempty
  have nameTrimmed := Text.trim_eq_self_iff.mp printableName.trimmed
  have lastFound : rule.display.getLast? = rule.displayRightSide.getLast? := by
    rw [display, List.getLast?_append_of_ne_nil _ keepsLine.nonempty]
  have trimmed : Text.Trimmed rule.display := by
    refine ⟨fun character found => ?_, fun character found => ?_⟩
    · refine nameTrimmed.head_not_blank character ?_
      rw [nameSplit]
      simpa [display, nameSplit] using found
    · exact keepsLine.trimmed.getLast_not_blank character (lastFound ▸ found)
  have noComment : '#' ∉ rule.display := by
    simp [display, printableName.noComment, keepsLine.noComment]
  refine ⟨⟨?_, ?_, fun found => ?_⟩, ?_, Text.trim_eq_self trimmed⟩
  · simp [display]
  · simp [display, printableName.noNewline, keepsLine.noNewline]
  · exact absurd (trimmed.getLast_not_blank _ found) (by decide)
  · rw [Source.stripComment, List.takeWhile_eq_self_iff]
    intro character member
    have notSign : character ≠ '#' := by
      rintro rfl
      exact noComment member
    simpa using notSign

end Rule

/-! ## Grammars -/

namespace Grammar

variable {grammar : Grammar}

/-- A grammar of printable rules. -/
def Printable (options : CompileOptions) (grammar : Grammar) : Prop :=
  ∀ rule ∈ grammar.rules, PrintableName rule.name ∧ rule.Printable options

/-- Try-last alternatives occur only where double bars are honoured. -/
def HonoursBars (options : CompileOptions) (grammar : Grammar) : Prop :=
  options.stickyRules = true ∨
    ∀ rule ∈ grammar.rules, ∀ alternative ∈ rule.alternatives, alternative.tryLast = false

/-- Printable rules are compiled line by line. -/
theorem exists_compileFrom {rules : List Rule} (number : Nat)
    (printable : ∀ rule ∈ rules, PrintableName rule.name ∧ rule.Printable options)
    (honours : ∀ rule ∈ rules, rule.HonoursBars options) :
    ∃ again, Source.compileFrom options number (rules.map Rule.display) = .ok again ∧
      List.Forall₂ Rule.SameTried rules again := by
  induction rules generalizing number with
  | nil => exact ⟨[], rfl, .nil⟩
  | cons rule rules inductionHypothesis =>
      rw [List.forall_mem_cons] at printable honours
      obtain ⟨others, othersCompiled, othersSame⟩ :=
        inductionHypothesis (number + 1) printable.2 honours.2
      obtain ⟨again, compiled, same⟩ := printable.1.2.exists_again printable.1.1 honours.1
      have wholeLine := Rule.wholeLine_display printable.1.1 printable.1.2.keepsLine
      refine ⟨again :: others, ?_, .cons same othersSame⟩
      rw [List.map_cons, Source.compileFrom, wholeLine.uncommented, wholeLine.trimmed, compiled]
      simp [wholeLine.single.nonempty, othersCompiled, Except.mapError, bind, Except.bind, pure,
        Except.pure]

theorem map_name_of_sameTried {rules others : List Rule}
    (same : List.Forall₂ Rule.SameTried rules others) :
    others.map Rule.name = rules.map Rule.name := by
  induction same with
  | nil => rfl
  | cons sameRule _ inductionHypothesis =>
      rw [List.map_cons, List.map_cons, sameRule.name_eq, inductionHypothesis]

/-- A printable grammar compiles to rules that try the same symbols. -/
theorem exists_again (printable : grammar.Printable options)
    (honours : grammar.HonoursBars options) :
    ∃ again, Source.grammar options grammar.display = .ok again ∧
      List.Forall₂ Rule.SameTried grammar.rules again.rules := by
  have sameLines : Text.lines grammar.display = grammar.rules.map Rule.display := by
    refine Text.lines_join fun line isLine => ?_
    obtain ⟨rule, isRule, rfl⟩ := List.mem_map.mp isLine
    exact (Rule.wholeLine_display (printable rule isRule).1
      (printable rule isRule).2.keepsLine).single
  have ruleHonours : ∀ rule ∈ grammar.rules, rule.HonoursBars options := fun rule isRule =>
    honours.imp id fun ordinary => ordinary rule isRule
  obtain ⟨rules, compiled, same⟩ := exists_compileFrom 1 printable ruleHonours
  have distinct : (rules.map Rule.name).Nodup := by
    rw [map_name_of_sameTried same]
    exact grammar.names_nodup
  refine ⟨ofList rules, ?_, ?_⟩
  · rw [Source.grammar, Source.rules, sameLines, compiled]
    rfl
  · have extended : (empty.extend rules).rules = [] ++ rules := rules_extend distinct
    rwa [ofList, extended]

/-- Rules of the same names are found alike. -/
theorem sameTried_rule? {other : Grammar}
    (same : List.Forall₂ Rule.SameTried grammar.rules other.rules) (name : Text) :
    (grammar.rule? name = none ∧ other.rule? name = none) ∨
      ∃ rule otherRule, grammar.rule? name = some rule ∧ other.rule? name = some otherRule ∧
        rule.SameTried otherRule := by
  rw [rule?, rule?]
  generalize grammar.rules = rules at same ⊢
  generalize other.rules = otherRules at same ⊢
  induction same with
  | nil => exact .inl ⟨rfl, rfl⟩
  | @cons rule otherRule rules otherRules sameRule _ inductionHypothesis =>
      rw [List.find?_cons, List.find?_cons, sameRule.name_eq]
      cases rule.name == name with
      | true => exact .inr ⟨rule, otherRule, rfl, rfl, sameRule⟩
      | false => exact inductionHypothesis

end Grammar

/-! ## Parsers -/

namespace Parser

variable {parser other : Parser}

/-- Parsers with the same settings derive alike from grammars that try the same
symbols. -/
theorem tryParse_eq_of_sameTried
    (same : List.Forall₂ Rule.SameTried parser.grammar.rules other.grammar.rules)
    (sameStart : other.start.name = parser.start.name) (sameLimit : other.limit = parser.limit)
    (samePartial : other.partialInput = parser.partialInput) (input : Text) :
    (other.tryParse input).result = (parser.tryParse input).result := by
  have found := Grammar.sameTried_rule? same
  refine tryParse_eq_of_rules samePartial sameLimit sameStart (fun name rule defined => ?_)
    (fun name undefined => ?_) input
  · rcases found name with ⟨missing, -⟩ | ⟨_, otherRule, ruleFound, otherFound, sameRule⟩
    · simp [missing] at defined
    · rw [ruleFound, Option.some.injEq] at defined
      exact ⟨otherRule, otherFound, defined ▸ sameRule.sameChoice⟩
  · rcases found name with ⟨-, otherMissing⟩ | ⟨_, _, ruleFound, -⟩
    · exact otherMissing
    · simp [ruleFound] at undefined

end Parser

/-- The written form of a printable grammar compiles, and parsers over what it
compiles to come to the same outcome on every text. -/
theorem Grammar.printable_recompiles {grammar : Grammar} (printable : grammar.Printable options)
    (honours : grammar.HonoursBars options) :
    ∃ again, Source.grammar options grammar.display = .ok again ∧
      again.rules.map Rule.name = grammar.rules.map Rule.name ∧
      ∀ parser other : Parser, parser.grammar = grammar → other.grammar = again →
        other.start.name = parser.start.name → other.limit = parser.limit →
        other.partialInput = parser.partialInput →
        ∀ input, (other.tryParse input).result = (parser.tryParse input).result := by
  obtain ⟨again, compiled, same⟩ := exists_again printable honours
  refine ⟨again, compiled, map_name_of_sameTried same, ?_⟩
  rintro parser other rfl rfl sameStart sameLimit samePartial input
  exact Parser.tryParse_eq_of_sameTried same sameStart sameLimit samePartial input

/-- A rule whose try-last alternative was added first and merged with another one,
and a rule with a case put in front. -/
def Grammar.interleaved : Grammar :=
  let merged := ofList
    [⟨"<s>".toList, [{ symbols := [.terminal ['x'] true], tryLast := true }]⟩,
      ⟨"<s>".toList, [{ symbols := [.nonTerminal "<n>".toList, .terminal ['y'] true] }]⟩,
      ⟨"<n>".toList, [{ symbols := [.epsilon] }]⟩]
  (merged.addCase 0 "<n>".toList { symbols := [.terminal ['z'] true] }).1

theorem Grammar.interleaved_recompiles :
    interleaved.display = "<s> := <n> y || x\n<n> := z | ε".toList ∧
      ∃ again, Source.grammar { stickyRules := true } interleaved.display = .ok again ∧
        again.rules.map Rule.name = interleaved.rules.map Rule.name ∧
        ∀ parser other : Parser, parser.grammar = interleaved → other.grammar = again →
          other.start.name = parser.start.name → other.limit = parser.limit →
          other.partialInput = parser.partialInput →
          ∀ input, (other.tryParse input).result = (parser.tryParse input).result := by
  have literal : ∀ character ∈ ['x', 'y', 'z'],
      (Symbol.terminal [character] true).Printable { stickyRules := true } := by
    simp only [List.mem_cons, List.not_mem_nil, or_false]
    rintro character (rfl | rfl | rfl) <;>
      exact .terminal (by decide) (by decide) (by decide) (by decide)
        (by decide) (by decide) rfl
  have reference : (Symbol.nonTerminal "<n>".toList).Printable { stickyRules := true } :=
    .nonTerminal (by decide) (by decide) (by decide)
  have rules : interleaved.rules =
      [⟨"<s>".toList, [⟨[.terminal ['x'] true], true⟩,
          ⟨[.nonTerminal "<n>".toList, .terminal ['y'] true], false⟩]⟩,
        ⟨"<n>".toList, [⟨[.terminal ['z'] true], false⟩, ⟨[.epsilon], false⟩]⟩] := rfl
  have printable : interleaved.Printable { stickyRules := true } := by
    rw [Printable, rules, List.forall_mem_cons, List.forall_mem_cons]
    refine ⟨⟨⟨by decide, by decide, by decide, by decide, by decide⟩,
        .cases ⟨by decide, by decide⟩ ?_ ?_⟩,
      ⟨⟨by decide, by decide, by decide, by decide, by decide⟩,
        .cases ⟨by decide, by decide⟩ ?_ ?_⟩, by simp⟩
    · simpa [literal] using reference
    · rintro first symbol ⟨⟩ ⟨⟩
      decide
    · simp [literal, Symbol.Printable.epsilon]
    · rintro first symbol ⟨⟩ ⟨⟩
      decide
  exact ⟨rfl, printable_recompiles printable (.inl rfl)⟩

end BnfParsing
