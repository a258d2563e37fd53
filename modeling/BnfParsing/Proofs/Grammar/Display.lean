import BnfParsing.Proofs.Grammar.Compilation
import BnfParsing.Proofs.Grammar.Escaping

/-!
Contract: the written form of a rule as words, and when compiling it again
gives back what was written.

Owns:
- the displayed words of a rule, which are the names of its symbols with bars
  between alternatives;
- the symbols whose names are read as the symbols themselves;
- compilation of a displayed rule, and the conditions under which its symbols
  come back in tried order.

Does not own: which rules meet these conditions.
-/

set_option autoImplicit false

namespace BnfParsing

open Compile (separator isOptional kept choices SymbolOf SymbolsOf ReadsRightSide)
open RightSide (isBar groups)
open Text (words)

variable {options : CompileOptions}

/-- The names of the symbols of an alternative. -/
def Alternative.names (alternative : Alternative) : List Text :=
  alternative.symbols.map Symbol.name

namespace Rule

variable {rule : Rule}

/-- The alternatives behind the first one as names, each with the bar in front
of it. -/
def barred (inLastGroup : Bool) : List Alternative → List (Text × List Text)
  | [] => []
  | alternative :: rest =>
      (if alternative.tryLast && !inLastGroup then ['|', '|'] else ['|'], alternative.names) ::
        barred (inLastGroup || alternative.tryLast) rest

/-- The words that are displayed behind the separator. -/
def displayedWords (rule : Rule) : List Text :=
  match rule.tried with
  | [] => []
  | first :: rest =>
      first.names ++ (barred first.tryLast rest).flatMap fun pair => pair.1 :: pair.2

theorem displayedWords_eq {first : Alternative} {rest : List Alternative}
    (tried : rule.tried = first :: rest) :
    rule.displayedWords =
      first.names ++ (barred first.tryLast rest).flatMap fun pair => pair.1 :: pair.2 := by
  rw [displayedWords, tried]

/-- The names of the symbols of a rule in tried order. -/
def names (rule : Rule) : List Text :=
  rule.tried.flatMap Alternative.names

theorem map_snd_barred (inLastGroup : Bool) (alternatives : List Alternative) :
    (barred inLastGroup alternatives).map Prod.snd = alternatives.map Alternative.names := by
  induction alternatives generalizing inLastGroup with
  | nil => rfl
  | cons alternative rest inductionHypothesis =>
      rw [barred, List.map_cons, List.map_cons, inductionHypothesis]

theorem bar_of_mem_barred {inLastGroup : Bool} {alternatives : List Alternative}
    {pair : Text × List Text} (member : pair ∈ barred inLastGroup alternatives) :
    pair.1 = ['|'] ∨ pair.1 = ['|', '|'] := by
  induction alternatives generalizing inLastGroup with
  | nil => simp [barred] at member
  | cons alternative rest inductionHypothesis =>
      rw [barred] at member
      rcases List.mem_cons.mp member with rfl | later
      · simp only
        split
        · exact .inr rfl
        · exact .inl rfl
      · exact inductionHypothesis later

/-- A double bar is displayed only in front of a try-last alternative. -/
theorem isBar_of_mem_barred {inLastGroup : Bool} {alternatives : List Alternative}
    {pair : Text × List Text}
    (honoured : options.stickyRules = true ∨
      ∀ alternative ∈ alternatives, alternative.tryLast = false)
    (member : pair ∈ barred inLastGroup alternatives) :
    isBar options.stickyRules pair.1 = true := by
  induction alternatives generalizing inLastGroup with
  | nil => simp [barred] at member
  | cons alternative rest inductionHypothesis =>
      rw [barred] at member
      rcases List.mem_cons.mp member with rfl | later
      · rcases honoured with sticky | ordinary
        · simp only [isBar, sticky]
          split <;> simp
        · simp [isBar, ordinary alternative List.mem_cons_self]
      · exact inductionHypothesis
          (honoured.imp id fun ordinary => (List.forall_mem_cons.mp ordinary).2) later

/-- An alternative with those behind it is displayed as their names with bars. -/
theorem display_append_displayCases (inLastGroup : Bool) (first : Alternative)
    {rest : List Alternative} (firstFull : first.names ≠ [])
    (full : ∀ alternative ∈ rest, alternative.names ≠ []) :
    first.display ++ displayCases inLastGroup rest =
      Text.join [' '] (first.names ++
        (barred inLastGroup rest).flatMap fun pair => pair.1 :: pair.2) := by
  induction rest generalizing first inLastGroup with
  | nil => simp [displayCases, barred, Alternative.display, Alternative.names]
  | cons alternative rest inductionHypothesis =>
      rw [List.forall_mem_cons] at full
      have later := inductionHypothesis (inLastGroup || alternative.tryLast) alternative full.1
        full.2
      have laterWords : alternative.names ++
          (barred (inLastGroup || alternative.tryLast) rest).flatMap
            (fun pair => pair.1 :: pair.2) ≠ [] := by
        simp [full.1]
      have spacedBar : (if alternative.tryLast && !inLastGroup then " || ".toList
          else " | ".toList) =
            [' '] ++ (if alternative.tryLast && !inLastGroup then ['|', '|'] else ['|']) ++
              [' '] := by
        split <;> rfl
      rw [displayCases, barred, List.flatMap_cons, List.cons_append,
        Text.join_append firstFull (List.cons_ne_nil _ _), Text.join_cons laterWords, ← later,
        spacedBar, Alternative.display, Alternative.names]
      simp only [List.append_assoc]

/-- A rule with alternatives, none of which is empty. -/
structure Full (rule : Rule) : Prop where
  alternatives_ne_nil : rule.alternatives ≠ []
  symbols_ne_nil : ∀ alternative ∈ rule.alternatives, alternative.symbols ≠ []

theorem names_nonempty_of_full (full : rule.Full) :
    ∀ alternative ∈ rule.tried, alternative.names ≠ [] := by
  intro alternative isTried
  simpa [Alternative.names] using full.symbols_ne_nil alternative (mem_tried.mp isTried)

/-- The displayed right side is the displayed words with spaces between them. -/
theorem displayRightSide_eq_join (full : rule.Full) :
    rule.displayRightSide = Text.join [' '] rule.displayedWords := by
  have namesFull := names_nonempty_of_full full
  rw [displayRightSide]
  cases tried : rule.tried with
  | nil =>
      rw [displayedWords, tried]
      rfl
  | cons first rest =>
      rw [tried, List.forall_mem_cons] at namesFull
      rw [displayedWords_eq tried]
      exact display_append_displayCases _ first namesFull.1 namesFull.2

/-- A rule that is a single symbol is displayed as its name. -/
theorem displayRightSide_single {symbol : Symbol} {tryLast : Bool}
    (only : rule.alternatives = [{ symbols := [symbol], tryLast := tryLast }]) :
    rule.displayRightSide = symbol.name := by
  cases tryLast <;>
    simp [displayRightSide, tried, only, Alternative.display, displayCases, Text.join]

/-- Every displayed word is a bar or the name of a symbol. -/
theorem mem_displayedWords {word : Text} (member : word ∈ rule.displayedWords) :
    (word = ['|'] ∨ word = ['|', '|']) ∨ word ∈ rule.names := by
  cases tried : rule.tried with
  | nil => simp [displayedWords, tried] at member
  | cons first rest =>
      rw [displayedWords_eq tried] at member
      rw [names, tried, List.flatMap_cons]
      rcases List.mem_append.mp member with inFirst | inRest
      · exact .inr (List.mem_append_left _ inFirst)
      · obtain ⟨pair, isBarred, inPair⟩ := List.mem_flatMap.mp inRest
        rcases List.mem_cons.mp inPair with rfl | inNames
        · exact .inl (bar_of_mem_barred isBarred)
        · refine .inr (List.mem_append_right _ ?_)
          rw [List.flatMap_def, ← map_snd_barred first.tryLast rest]
          exact List.mem_flatten.mpr ⟨pair.2, List.mem_map_of_mem isBarred, inNames⟩

end Rule

/-- A literal that is one word and read as itself. -/
structure PlainLiteral (literal : Text) : Prop where
  nonempty : literal ≠ []
  spaceless : ' ' ∉ literal
  bracketless : '<' ∉ literal
  notEpsilon : literal ∉ Compile.epsilonSpellings
  resolved : Escape.resolve literal = .ok literal

/-- The symbols whose names are read as the symbols themselves. -/
inductive Symbol.ReadsBack (options : CompileOptions) : Symbol → Prop where
  | terminal {literal : Text} (plain : PlainLiteral literal) :
      Symbol.ReadsBack options (.terminal literal options.caseSensitive)
  | epsilon : Symbol.ReadsBack options .epsilon
  | nonTerminal {name : Text} (bracketed : ['<'] <+: name) (spaceless : ' ' ∉ name)
      (required : isOptional name = false) : Symbol.ReadsBack options (.nonTerminal name)

namespace Symbol.ReadsBack

variable {symbol : Symbol}

theorem symbolOf (readsBack : symbol.ReadsBack options) :
    SymbolOf options symbol.name symbol := by
  cases readsBack with
  | terminal plain =>
      exact .terminal plain.bracketless plain.notEpsilon plain.nonempty plain.resolved
  | epsilon => exact .epsilon (by decide) (by decide)
  | nonTerminal bracketed => exact .nonTerminal bracketed

theorem name_ne_nil (readsBack : symbol.ReadsBack options) : symbol.name ≠ [] := by
  cases readsBack with
  | terminal plain => exact plain.nonempty
  | epsilon => exact List.cons_ne_nil _ _
  | nonTerminal bracketed =>
      exact Compile.ne_nil_of_bracketed bracketed

theorem spaceless_name (readsBack : symbol.ReadsBack options) : ' ' ∉ symbol.name := by
  cases readsBack with
  | terminal plain => exact plain.spaceless
  | epsilon => decide
  | nonTerminal _ spaceless => exact spaceless

theorem required_name (readsBack : symbol.ReadsBack options) :
    isOptional symbol.name = false := by
  cases readsBack with
  | terminal plain => exact Compile.required_of_bracketless plain.bracketless
  | epsilon => decide
  | nonTerminal _ _ required => exact required

end Symbol.ReadsBack

namespace Rule

variable {rule : Rule}

/-- A name that is found again in front of the separator. -/
structure NameReadsBack (name : Text) : Prop where
  nonempty : name ≠ []
  trimmed : Text.Trimmed name
  separatorless : ¬ separator <:+: name

/-- A displayed rule compiles to a rule of the same name, with what its right
side is read as. -/
theorem compile_display_eq_ok_iff {again : Rule} (nameReadsBack : NameReadsBack rule.name) :
    Compile.rule options rule.display = .ok again ↔
      ¬ separator <:+: rule.displayRightSide ∧ again.name = rule.name ∧
        ReadsRightSide options (Text.trim rule.displayRightSide) again.alternatives := by
  rw [display, Compile.rule_line_eq_ok_iff nameReadsBack.separatorless,
    Text.trim_eq_self nameReadsBack.trimmed]
  simp [nameReadsBack.nonempty]

/-- A rule without a pattern whose displayed right side is read as its symbols. -/
structure CasesReadBack (options : CompileOptions) (rule : Rule) : Prop where
  symbols : ∀ alternative ∈ rule.alternatives, ∀ symbol ∈ alternative.symbols,
    symbol.ReadsBack options
  noInnerBar : ∀ name ∈ rule.names.tail.dropLast, isBar options.stickyRules name = false
  trimmed : Text.Trimmed rule.displayRightSide
  unmarked : ¬ ['^'] <+: rule.displayRightSide

/-- Try-last alternatives occur only where double bars are honoured. -/
def HonoursBars (options : CompileOptions) (rule : Rule) : Prop :=
  options.stickyRules = true ∨ ∀ alternative ∈ rule.alternatives, alternative.tryLast = false

theorem exists_of_mem_names {name : Text} (member : name ∈ rule.names) :
    ∃ alternative ∈ rule.alternatives, ∃ symbol ∈ alternative.symbols, symbol.name = name := by
  obtain ⟨alternative, isTried, inNames⟩ := List.mem_flatMap.mp member
  obtain ⟨symbol, isSymbol, same⟩ := List.mem_map.mp inNames
  exact ⟨alternative, mem_tried.mp isTried, symbol, isSymbol, same⟩

theorem words_displayRightSide (full : rule.Full) :
    words rule.displayRightSide = rule.displayedWords.flatMap words := by
  rw [displayRightSide_eq_join full, Text.words_join]

/-- The first alternative tried, with the others. -/
theorem exists_tried_of_full (full : rule.Full) : ∃ first rest, rule.tried = first :: rest := by
  obtain ⟨alternative, others, split⟩ := List.exists_cons_of_ne_nil full.alternatives_ne_nil
  have isTried : alternative ∈ rule.tried := mem_tried.mpr (split ▸ List.mem_cons_self)
  exact List.exists_cons_of_ne_nil (List.ne_nil_of_mem isTried)

/-- The displayed words end with the name of the last symbol tried. -/
theorem getLast?_displayedWords {last : Alternative} {symbol : Symbol}
    (isLast : rule.tried.getLast? = some last)
    (isLastSymbol : last.symbols.getLast? = some symbol) :
    rule.displayedWords.getLast? = some symbol.name := by
  have lastName : last.names.getLast? = some symbol.name := by
    rw [Alternative.names, List.getLast?_map, isLastSymbol, Option.map_some]
  cases tried : rule.tried with
  | nil => simp [tried] at isLast
  | cons first rest =>
      rw [tried] at isLast
      rw [displayedWords_eq tried]
      have lastBarred := congrArg List.getLast? (map_snd_barred first.tryLast rest)
      rw [List.getLast?_map, List.getLast?_map] at lastBarred
      cases rest with
      | nil =>
          obtain rfl : first = last := by simpa using isLast
          simpa [barred] using lastName
      | cons second rest =>
          rw [List.getLast?_cons_cons] at isLast
          rw [isLast, Option.map_some, Option.map_eq_some_iff] at lastBarred
          obtain ⟨pair, pairLast, sameNames⟩ := lastBarred
          obtain ⟨front, split⟩ := List.getLast?_eq_some_iff.mp pairLast
          rw [split, List.flatMap_append, List.flatMap_singleton, ← List.append_assoc,
            List.getLast?_append_cons, List.getLast?_cons, sameNames, lastName, Option.getD_some]

/-- The displayed words start with the name of the first symbol tried. -/
theorem head?_displayedWords {first : Alternative} {symbol : Symbol}
    (isFirst : rule.tried.head? = some first)
    (isFirstSymbol : first.symbols.head? = some symbol) :
    rule.displayedWords.head? = some symbol.name := by
  obtain ⟨rest, tried⟩ := List.head?_eq_some_iff.mp isFirst
  obtain ⟨symbols, split⟩ := List.head?_eq_some_iff.mp isFirstSymbol
  rw [displayedWords_eq tried, Alternative.names, split]
  rfl

theorem getLast?_displayRightSide (full : rule.Full) {last : Alternative} {symbol : Symbol}
    (isLast : rule.tried.getLast? = some last)
    (isLastSymbol : last.symbols.getLast? = some symbol) (nonempty : symbol.name ≠ []) :
    rule.displayRightSide.getLast? = symbol.name.getLast? := by
  obtain ⟨front, split⟩ :=
    List.getLast?_eq_some_iff.mp (getLast?_displayedWords isLast isLastSymbol)
  rw [displayRightSide_eq_join full, split, Text.getLast?_join nonempty]

theorem head?_displayRightSide (full : rule.Full) {first : Alternative} {symbol : Symbol}
    (isFirst : rule.tried.head? = some first)
    (isFirstSymbol : first.symbols.head? = some symbol) (nonempty : symbol.name ≠ []) :
    rule.displayRightSide.head? = symbol.name.head? := by
  obtain ⟨rest, split⟩ := List.head?_eq_some_iff.mp (head?_displayedWords isFirst isFirstSymbol)
  rw [displayRightSide_eq_join full, split, Text.head?_join nonempty]

section Bars

variable {first : Alternative} {rest : List Alternative}

theorem barred_isBar (honours : rule.HonoursBars options) (tried : rule.tried = first :: rest) :
    ∀ pair ∈ barred first.tryLast rest, isBar options.stickyRules pair.1 = true := by
  refine fun pair isBarred => isBar_of_mem_barred (honours.imp id fun ordinary => ?_) isBarred
  intro alternative isRest
  exact ordinary alternative (mem_tried.mp (tried ▸ List.mem_cons_of_mem first isRest))

theorem barred_full (full : rule.Full) (tried : rule.tried = first :: rest) :
    ∀ pair ∈ barred first.tryLast rest, pair.2 ≠ [] := by
  intro pair isBarred
  have isNames : pair.2 ∈ rest.map Alternative.names := by
    rw [← map_snd_barred first.tryLast rest]
    exact List.mem_map_of_mem isBarred
  obtain ⟨alternative, isRest, same⟩ := List.mem_map.mp isNames
  rw [← same]
  exact names_nonempty_of_full full alternative (tried ▸ List.mem_cons_of_mem first isRest)

theorem names_eq (tried : rule.tried = first :: rest) :
    rule.names = first.names ++ (barred first.tryLast rest).flatMap Prod.snd := by
  rw [names, tried, List.flatMap_cons, List.flatMap_def, ← map_snd_barred first.tryLast rest,
    ← List.flatMap_def]

end Bars

/-- Displayed words divide into the names of the alternatives, unless a name is
taken for a bar. -/
theorem groups_displayedWords (full : rule.Full) (honours : rule.HonoursBars options)
    (noInnerBar : ∀ name ∈ rule.names.tail.dropLast, isBar options.stickyRules name = false) :
    groups options.stickyRules rule.displayedWords = rule.tried.map Alternative.names := by
  obtain ⟨first, rest, tried⟩ := exists_tried_of_full full
  rw [names_eq tried] at noInnerBar
  rw [displayedWords_eq tried, tried, RightSide.groups_append_flatMap
    (names_nonempty_of_full full first (tried ▸ List.mem_cons_self)) (barred_isBar honours tried)
    (barred_full full tried) noInnerBar, map_snd_barred, List.map_cons]

/-- Displayed words divide into one group for every alternative and one more for
every name that is taken for a bar. -/
theorem length_groups_displayedWords (full : rule.Full) (honours : rule.HonoursBars options) :
    (groups options.stickyRules rule.displayedWords).length =
      rule.tried.length + rule.names.tail.dropLast.countP (isBar options.stickyRules) := by
  obtain ⟨first, rest, tried⟩ := exists_tried_of_full full
  obtain ⟨name, others, firstNames⟩ := List.exists_cons_of_ne_nil
    (names_nonempty_of_full full first (tried ▸ List.mem_cons_self))
  have sameLength : (barred first.tryLast rest).length = rest.length := by
    simpa using congrArg List.length (map_snd_barred first.tryLast rest)
  rw [RightSide.length_groups, displayedWords_eq tried, names_eq tried, firstNames,
    List.cons_append, List.cons_append, List.tail_cons, List.tail_cons,
    RightSide.countP_append_flatMap (barred_isBar honours tried) (barred_full full tried),
    sameLength, tried, List.length_cons]
  omega

section ReadBack

variable (readBack : ∀ alternative ∈ rule.alternatives, ∀ symbol ∈ alternative.symbols,
  symbol.ReadsBack options)

include readBack

theorem readsBack_of_mem_names {name : Text} (member : name ∈ rule.names) :
    ∃ symbol : Symbol, symbol.ReadsBack options ∧ symbol.name = name := by
  obtain ⟨alternative, isAlternative, symbol, isSymbol, same⟩ := exists_of_mem_names member
  exact ⟨symbol, readBack alternative isAlternative symbol isSymbol, same⟩

/-- Displayed words that are read back are single words without a question mark. -/
theorem displayedWords_single {word : Text} (member : word ∈ rule.displayedWords) :
    word ≠ [] ∧ ' ' ∉ word ∧ isOptional word = false := by
  rcases mem_displayedWords member with (rfl | rfl) | inNames
  · decide
  · decide
  · obtain ⟨symbol, readsBack, rfl⟩ := readsBack_of_mem_names readBack inNames
    exact ⟨readsBack.name_ne_nil, readsBack.spaceless_name, readsBack.required_name⟩

theorem words_displayRightSide_of_readsBack (full : rule.Full) :
    words rule.displayRightSide = rule.displayedWords := by
  rw [displayRightSide_eq_join full, Text.words_join_of_spaceless]
  · exact fun word member => (displayedWords_single readBack member).1
  · exact fun word member => (displayedWords_single readBack member).2.1

end ReadBack

/-- A displayed right side that is read back has the symbols of the rule in
tried order. -/
theorem CasesReadBack.readsRightSide (casesReadBack : rule.CasesReadBack options)
    (full : rule.Full) (honours : rule.HonoursBars options) :
    ∃ alternatives, ReadsRightSide options rule.displayRightSide alternatives ∧
      alternatives.map Alternative.symbols = rule.tried.map Alternative.symbols := by
  have single : ∀ word ∈ rule.displayedWords, word ≠ [] ∧ ' ' ∉ word ∧ isOptional word = false :=
    fun _ => displayedWords_single casesReadBack.symbols
  have sameWords := words_displayRightSide_of_readsBack casesReadBack.symbols full
  have sameGroups := groups_displayedWords full honours casesReadBack.noInnerBar
  have nonempty : rule.displayRightSide ≠ [] := by
    intro empty
    rw [empty, Text.words_nil] at sameWords
    rw [← sameWords] at sameGroups
    obtain ⟨first, rest, tried⟩ := exists_tried_of_full full
    have namesFull := names_nonempty_of_full full first (tried ▸ List.mem_cons_self)
    simp [groups, tried, namesFull.symm] at sameGroups
  have singleSpaced : Text.SingleSpaced rule.displayRightSide := by
    rw [displayRightSide_eq_join full]
    exact Text.isChain_join (fun word member => (single word member).1)
      fun word member => (single word member).2.1
  have groupsFull : [] ∉ groups options.stickyRules (words rule.displayRightSide) := by
    rw [sameWords, sameGroups, List.mem_map]
    rintro ⟨alternative, isTried, empty⟩
    exact names_nonempty_of_full full alternative isTried empty
  have read : List.Forall₂ (SymbolsOf options)
      ((groups options.stickyRules (words rule.displayRightSide)).flatMap choices)
      (rule.tried.map Alternative.symbols) := by
    rw [Compile.flatMap_choices_of_required, sameWords, sameGroups, List.forall₂_map_left_iff,
      List.forall₂_map_right_iff, List.forall₂_same]
    · intro alternative isTried
      refine .some (names_nonempty_of_full full alternative isTried) ?_
      rw [Alternative.names, List.forall₂_map_left_iff, List.forall₂_same]
      exact fun symbol isSymbol =>
        (casesReadBack.symbols alternative (mem_tried.mp isTried) symbol isSymbol).symbolOf
    · intro group isGroup word inGroup
      rw [sameWords, sameGroups] at isGroup
      obtain ⟨alternative, isTried, rfl⟩ := List.mem_map.mp isGroup
      have inNames : word ∈ rule.names := List.mem_flatMap.mpr ⟨alternative, isTried, inGroup⟩
      obtain ⟨symbol, readsBack, rfl⟩ := readsBack_of_mem_names casesReadBack.symbols inNames
      exact readsBack.required_name
  obtain ⟨alternatives, compiled, sameSymbols⟩ :=
    Compile.exists_alternatives nonempty casesReadBack.trimmed singleSpaced groupsFull read
  exact ⟨alternatives, .cases casesReadBack.unmarked nonempty compiled, sameSymbols⟩

end Rule

end BnfParsing
