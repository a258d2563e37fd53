import BnfParsing.Proofs.Derivation.LeadingBlanks
import BnfParsing.Proofs.Grammar.Rereading
import BnfParsing.Proofs.Setup.Build

/-!
Contract: rules whose single alternative consists of literals.

The blanks in front of a symbol are skipped before it is compared, so a literal that
starts with a blank is never found. Any other literal is found where it stands, with
all the blanks it has further on.

Owns:
- the matches of literals in a text that puts spaces between them;
- what a parser for such a rule makes of its own literals.

Does not own: literals in another case, or next to other symbols.
-/

set_option autoImplicit false

namespace BnfParsing

namespace Text

variable {text : Text}

/-- Whether the first character is a blank. -/
def startsBlank (text : Text) : Bool :=
  text.head?.any isBlank

/-- Nothing is skipped in front of a text that does not start with a blank. -/
theorem trimStart_append_of_startsBlank (nonempty : text ≠ []) (bare : text.startsBlank = false)
    (rest : Text) : trimStart (text ++ rest) = text ++ rest := by
  obtain ⟨first, others, rfl⟩ := List.exists_cons_of_ne_nil nonempty
  have visible : isBlank first = false := bare
  rw [List.cons_append, trimStart, List.dropWhile_cons_of_neg (by simp [visible])]

/-- No blank is left at the front once they are skipped. -/
theorem startsBlank_trimStart (text : Text) : (trimStart text).startsBlank = false := by
  rw [startsBlank, trimStart]
  cases front : (text.dropWhile isBlank).head? with
  | none => rfl
  | some first =>
      have visible := List.head?_dropWhile_not isBlank text
      simpa [front] using visible

theorem not_prefix_trimStart (blank : text.startsBlank = true) (whole : Text) :
    ¬ text <+: trimStart whole := by
  intro isPrefix
  have bare := startsBlank_trimStart whole
  obtain ⟨back, split⟩ := isPrefix
  cases text with
  | nil => cases blank
  | cons first others =>
      rw [← split] at bare
      exact absurd (blank.symm.trans bare) Bool.noConfusion

end Text

theorem Symbol.FromWord.eq_terminal {options : CompileOptions} {symbol : Symbol}
    (fromWord : symbol.FromWord options) (isLiteral : symbol.kind = .terminal) :
    symbol = .terminal symbol.name options.caseSensitive ∧ symbol.name ≠ [] := by
  cases fromWord with
  | terminal nonempty => exact ⟨rfl, nonempty⟩
  | epsilon => cases isLiteral
  | nonTerminal => cases isLiteral

namespace Parser

variable {parser : Parser} {nested : Rule → Text → Traced (Option (Tree × Text))}
variable {depth : Nat} {alternative : Alternative} {literal : Text}

/-! ## One literal -/

theorem consume?_literal (nonempty : literal ≠ []) (rest : Text) :
    consume? (.terminal literal true) (literal ++ rest) = some (Tree.leaf literal, rest) := by
  have isMatch : Symbol.matchPrefix (.terminal literal true) (literal ++ rest) =
      .matched literal.length :=
    Symbol.matchLiteral_eq_matched_iff.mpr
      ⟨literal, List.prefix_append literal rest, rfl, rfl, rfl⟩
  have consumes := PrefixMatch.consumed_eq_some.mpr ⟨isMatch, List.length_pos_iff.mpr nonempty⟩
  rw [consume?, consumes, Option.map_some, List.take_left, List.drop_left]
  rfl

/-- What follows the skipped blanks is never a literal with a blank at its front. -/
theorem consume?_of_startsBlank (blank : literal.startsBlank = true) (text : Text) :
    consume? (.terminal literal true) (Text.trimStart text) = none := by
  rw [consume?, Option.map_eq_none_iff, Option.eq_none_iff_forall_ne_some]
  intro length consumes
  obtain ⟨isMatch, -⟩ := PrefixMatch.consumed_eq_some.mp consumes
  obtain ⟨front, isPrefix, -, same, -⟩ := Symbol.matchLiteral_eq_matched_iff.mp isMatch
  rw [if_pos rfl] at same
  exact Text.not_prefix_trimStart blank text (same ▸ isPrefix)

theorem matchSymbols_literal_cons (literal : Text) (symbols : List Symbol) (text : Text) :
    (parser.matchSymbols nested depth alternative (.terminal literal true :: symbols)
      text).result =
      match consume? (.terminal literal true) (Text.trimStart text) with
      | some (leaf, rest) =>
          (parser.matchSymbols nested depth alternative symbols rest).result.map
            (Option.map (Matched.cons leaf))
      | none => .ok none := by
  have readsText : (Symbol.terminal literal true).ReadsText :=
    ⟨Symbol.Kind.noConfusion, Symbol.Kind.noConfusion⟩
  rw [matchSymbols_cons, reading_of_readsText readsText]
  cases consume? (.terminal literal true) (Text.trimStart text) <;> rfl

/-- A literal takes itself from the front of a text and leaves the rest to the others. -/
theorem matchSymbols_literal_append (nonempty : literal ≠ [])
    (bare : literal.startsBlank = false) (symbols : List Symbol) (rest : Text) :
    (parser.matchSymbols nested depth alternative (.terminal literal true :: symbols)
      (literal ++ rest)).result =
      (parser.matchSymbols nested depth alternative symbols rest).result.map
        (Option.map (Matched.cons (Tree.leaf literal))) := by
  rw [matchSymbols_literal_cons, Text.trimStart_append_of_startsBlank nonempty bare,
    consume?_literal nonempty]

/-! ## Literals in a row -/

/-- The symbols of an alternative that is made of literals. -/
def literalSymbols (literals : List Text) : List Symbol :=
  literals.map (Symbol.terminal · true)

/-- Literals with a space between neighbours are matched one after the other, up to the
end of the text. -/
theorem matchSymbols_join {literals : List Text} (nonempty : ∀ literal ∈ literals, literal ≠ [])
    (bare : ∀ literal ∈ literals, literal.startsBlank = false) :
    (parser.matchSymbols nested depth alternative (literalSymbols literals)
      (Text.join [' '] literals)).result = .ok (some ⟨literals.map Tree.leaf, [], false⟩) := by
  induction literals with
  | nil => rfl
  | cons literal others inductionHypothesis =>
      obtain ⟨literalNonempty, othersNonempty⟩ := List.forall_mem_cons.mp nonempty
      obtain ⟨literalBare, othersBare⟩ := List.forall_mem_cons.mp bare
      cases others with
      | nil =>
          have alone : (parser.matchSymbols nested depth alternative (literalSymbols [literal])
              (literal ++ [])).result = .ok (some ⟨[Tree.leaf literal], [], false⟩) :=
            matchSymbols_literal_append literalNonempty literalBare [] []
          rwa [List.append_nil] at alone
      | cons next further =>
          -- the space in front of the next literal is skipped
          have spaceSkipped :
              (parser.matchSymbols nested depth alternative (literalSymbols (next :: further))
                ([' '] ++ Text.join [' '] (next :: further))).result =
              .ok (some ⟨(next :: further).map Tree.leaf, [], false⟩) := by
            rw [literalSymbols, List.map_cons, matchSymbols_cons_blanks_append rfl]
            exact inductionHypothesis othersNonempty othersBare
          rw [Text.join_cons (List.cons_ne_nil next further), List.append_assoc, literalSymbols,
            List.map_cons, matchSymbols_literal_append literalNonempty literalBare]
          exact congrArg (Except.map (Option.map (Matched.cons (Tree.leaf literal)))) spaceSkipped

/-- Among literals, one that starts with a blank lets them fail on every text. -/
theorem matchSymbols_of_startsBlank {literals : List Text}
    (someBlank : ∃ literal ∈ literals, literal.startsBlank = true) (text : Text) :
    (parser.matchSymbols nested depth alternative (literalSymbols literals) text).result =
      .ok none := by
  induction literals generalizing text with
  | nil => simp at someBlank
  | cons literal others inductionHypothesis =>
      rw [literalSymbols, List.map_cons, matchSymbols_literal_cons]
      rcases (List.exists_mem_cons_iff _ _ _).mp someBlank with blank | inOthers
      · rw [consume?_of_startsBlank blank]
      · cases consume? (.terminal literal true) (Text.trimStart text) with
        | none => rfl
        | some consumed =>
            exact congrArg (Except.map (Option.map (Matched.cons consumed.1)))
              (inductionHypothesis inOthers consumed.2)

/-! ## A rule of literals -/

/-- With a single alternative, the start rule finds what this alternative matches, if it
is something and nothing but blanks is left over. -/
theorem tryParse_of_only (only : parser.start.tried = [alternative]) (input : Text) :
    (parser.tryParse input).result =
      match (parser.matchSymbols (derive parser parser.limit 1) 0 alternative
        alternative.symbols input).result with
      | .error failure => .error failure
      | .ok none => .ok none
      | .ok (some matched) =>
          if Text.isAllBlank matched.rest ∧
            (matched.rest.length = input.length → matched.readEpsilon = true) then
            .ok (some (Tree.ofRule parser.start.name matched.children))
          else .ok none := by
  rw [tryParse_of_firstMatch, only, firstMatch_cons, firstMatch_nil]
  rcases (parser.matchSymbols (derive parser parser.limit 1) 0 alternative
    alternative.symbols input).result with failure | _ | matched
  · rfl
  · rfl
  · grind

/-- A rule of literals finds them in their own text, unless one of them starts with a
blank. -/
theorem tryParse_join {literals : List Text} (only : parser.start.tried = [alternative])
    (areLiterals : alternative.symbols = literalSymbols literals) (someLiteral : literals ≠ [])
    (nonempty : ∀ literal ∈ literals, literal ≠ []) :
    (parser.tryParse (Text.join [' '] literals)).result =
      .ok (if ∀ literal ∈ literals, literal.startsBlank = false then
        some (Tree.ofRule parser.start.name (literals.map Tree.leaf)) else none) := by
  rw [tryParse_of_only only, areLiterals]
  split_ifs with bare
  · rw [matchSymbols_join nonempty bare]
    obtain ⟨first, others, rfl⟩ := List.exists_cons_of_ne_nil someLiteral
    have firstNonempty := nonempty first List.mem_cons_self
    have consumes : ([] : Text).length ≠ (Text.join [' '] (first :: others)).length := by
      intro same
      have empty := List.eq_nil_of_length_eq_zero same.symm
      have front : (Text.join [' '] (first :: others)).head? = first.head? :=
        Text.head?_join firstNonempty others
      rw [empty] at front
      exact firstNonempty (List.head?_eq_none_iff.mp front.symm)
    exact if_pos ⟨rfl, fun same => absurd same consumes⟩
  · have someBlank : ∃ literal ∈ literals, literal.startsBlank = true := by
      simpa using bare
    rw [matchSymbols_of_startsBlank someBlank]

/-- The literals of a compiled rule are not empty, and case matters for them. -/
theorem literals_of_compile {line : Text} {rule : Rule}
    (compiled : Compile.rule {} line = .ok rule) (only : rule.alternatives = [alternative])
    (areLiterals : ∀ symbol ∈ alternative.symbols, symbol.kind = .terminal) :
    rule.tried = [alternative] ∧ alternative.symbols ≠ [] ∧
      alternative.symbols = literalSymbols (alternative.symbols.map Symbol.name) ∧
      ∀ literal ∈ alternative.symbols.map Symbol.name, literal ≠ [] := by
  obtain ⟨-, ⟨regex, -, isPattern⟩ | fromCases⟩ := Rule.fromCases_or_pattern compiled
  · obtain rfl : alternative = { symbols := [.pattern regex] } := by
      simpa using only.symm.trans isPattern
    exact absurd (areLiterals _ List.mem_cons_self) Symbol.Kind.noConfusion
  · have member : alternative ∈ rule.alternatives := only ▸ List.mem_cons_self
    have written (symbol : Symbol) (isSymbol : symbol ∈ alternative.symbols) :
        symbol = .terminal symbol.name true ∧ symbol.name ≠ [] :=
      (fromCases.fromWords alternative member symbol isSymbol).eq_terminal
        (areLiterals symbol isSymbol)
    refine ⟨fromCases.tried_eq.trans only, fromCases.full.symbols_ne_nil alternative member, ?_, ?_⟩
    · rw [literalSymbols, List.map_map]
      calc alternative.symbols = alternative.symbols.map id := (List.map_id _).symm
        _ = alternative.symbols.map ((Symbol.terminal · true) ∘ Symbol.name) :=
          List.map_congr_left fun symbol isSymbol => (written symbol isSymbol).1
    · exact List.forall_mem_map.mpr fun symbol isSymbol => (written symbol isSymbol).2

/-- A parser for one rule alone starts from it. -/
theorem exists_parser_of_rule (rule : Rule) :
    ∃ setup parser, Setup.performAll {} [.addRule rule] = .ok setup ∧
      setup.build = .ok parser ∧ parser.start = rule := by
  let setup : Setup := { grammar := Grammar.empty.add rule }
  have startRule : setup.startRule? = some rule := rfl
  rcases setup.build_cases with ⟨parser, built, builtFrom⟩ | ⟨-, without⟩
  · refine ⟨setup, parser, rfl, built, ?_⟩
    exact Option.some.inj (builtFrom.startRule_eq.symm.trans startRule)
  · exact absurd (startRule.symm.trans without) (Option.some_ne_none rule)

/-- A rule that compiles to literals finds them in a text that joins them with spaces,
exactly if none of them starts with a blank. -/
theorem compiled_literals_found {line : Text} {rule : Rule} {alternative : Alternative}
    (compiled : Compile.rule {} line = .ok rule) (only : rule.alternatives = [alternative])
    (areLiterals : ∀ symbol ∈ alternative.symbols, symbol.kind = .terminal) :
    ∃ setup parser, Setup.performAll {} [.addRule rule] = .ok setup ∧
      setup.build = .ok parser ∧
      (parser.tryParse (Text.join [' '] (alternative.symbols.map Symbol.name))).result =
        .ok (if ∀ literal ∈ alternative.symbols.map Symbol.name, literal.startsBlank = false then
          some (Tree.ofRule rule.name ((alternative.symbols.map Symbol.name).map Tree.leaf))
        else none) := by
  obtain ⟨tried, someSymbol, written, nonempty⟩ := literals_of_compile compiled only areLiterals
  obtain ⟨setup, parser, assembled, built, rfl⟩ := exists_parser_of_rule rule
  exact ⟨setup, parser, assembled, built,
    tryParse_join tried written (mt List.map_eq_nil_iff.mp someSymbol) nonempty⟩

/-- A wide blank inside the first literal and a space at the end of the second one. -/
def innerBlanks : Alternative :=
  { symbols :=
      [.terminal "x\u3000y".toList true, .terminal "z ".toList true, .terminal "w".toList true] }

theorem innerBlanks_found :
    Compile.rule {} "<a> := x\u3000y z\\u0020 w".toList = .ok ⟨"<a>".toList, [innerBlanks]⟩ ∧
      ∃ setup parser, Setup.performAll {} [.addRule ⟨"<a>".toList, [innerBlanks]⟩] = .ok setup ∧
        setup.build = .ok parser ∧
        (parser.tryParse "x\u3000y z  w".toList).result =
          .ok (some (Tree.ofRule "<a>".toList
            [.leaf "x\u3000y".toList, .leaf "z ".toList, .leaf "w".toList])) := by
  have compiled : Compile.rule {} "<a> := x\u3000y z\\u0020 w".toList =
      .ok ⟨"<a>".toList, [innerBlanks]⟩ := rfl
  have areLiterals : ∀ symbol ∈ innerBlanks.symbols, symbol.kind = .terminal := by decide
  exact ⟨compiled, compiled_literals_found compiled rfl areLiterals⟩

/-- A literal with a blank at its front. -/
def leadingBlank : Alternative :=
  { symbols := [.terminal " x".toList true] }

/-- The blank is skipped, and what follows is shorter than the literal. -/
theorem leadingBlank_not_found :
    ¬ ∀ (line : Text) (rule : Rule) (alternative : Alternative),
      Compile.rule {} line = .ok rule → rule.alternatives = [alternative] →
      (∀ symbol ∈ alternative.symbols, symbol.kind = .terminal) →
      ∃ setup parser, Setup.performAll {} [.addRule rule] = .ok setup ∧
        setup.build = .ok parser ∧
        (parser.tryParse (Text.join [' '] (alternative.symbols.map Symbol.name))).result =
          .ok (some (Tree.ofRule rule.name
            ((alternative.symbols.map Symbol.name).map Tree.leaf))) := by
  intro found
  have compiled : Compile.rule {} "<a> := \\u0020x".toList =
      .ok ⟨"<a>".toList, [leadingBlank]⟩ := rfl
  obtain ⟨setup, parser, assembled, built, parses⟩ :=
    found _ _ leadingBlank compiled rfl (by decide)
  cases assembled
  cases built
  cases parses

end Parser

end BnfParsing
