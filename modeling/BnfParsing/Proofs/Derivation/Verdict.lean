import BnfParsing.Proofs.Derivation.Reading

/-!
Contract: the meaning of a grammar on a text, by rules instead of a search.

Nothing here counts levels: a verdict is whatever has a finite derivation by
the rules below, so a rule that only leads back to itself has none.

Owns: verdicts, and the relations between symbols, alternatives and rules on
one side and a text with its verdict on the other.

Does not own: how a verdict is computed.
-/

set_option autoImplicit false

namespace BnfParsing

/-- What applying a part of a grammar to a text comes to. -/
inductive Verdict (α : Type) where
  | found (value : α)
  /-- The text is not described. -/
  | failure
  /-- A rule is referred to that does not exist. -/
  | missingRule (name : Text)

namespace Verdict

variable {α β : Type}

/-- Changes the value that is found. -/
def map (change : α → β) : Verdict α → Verdict β
  | .found value => .found (change value)
  | .failure => .failure
  | .missingRule name => .missingRule name

/-- The verdict as the result of a search. -/
def result : Verdict α → Except Defect (Option α)
  | .found value => .ok (some value)
  | .failure => .ok none
  | .missingRule name => .error (.missingRule name)

end Verdict

variable (grammar : Grammar) (partialInput : Bool)

/-- A text without blanks in front holds the name of a rule, where that is
allowed. -/
def HoldsName (name cursor : Text) : Prop :=
  partialInput = true ∧ name <+: cursor

mutual

/-- Symbols are read from left to right, blanks in front of each being skipped. -/
inductive SymbolsVerdict : List Symbol → Text → Verdict Matched → Prop where
  | done (text : Text) : SymbolsVerdict [] text (.found ⟨[], text, false⟩)
  /-- An empty production ends the alternative, whatever follows it. -/
  | epsilon (symbols : List Symbol) (text : Text) :
      SymbolsVerdict (.epsilon :: symbols) text
        (.found ⟨[Tree.leaf []], Text.trimStart text, true⟩)
  | marker {name rest text : Text} {symbols : List Symbol} {verdict : Verdict Matched}
      (allowed : partialInput = true) (holds : Text.trimStart text = name ++ rest)
      (others : SymbolsVerdict symbols rest verdict) :
      SymbolsVerdict (.nonTerminal name :: symbols) text
        (verdict.map (Matched.cons (Tree.leaf name)))
  | missing {name text : Text} {symbols : List Symbol}
      (unmarked : ¬ HoldsName partialInput name (Text.trimStart text))
      (undefined : grammar.rule? name = none) :
      SymbolsVerdict (.nonTerminal name :: symbols) text (.missingRule name)
  | nested {name rest text : Text} {symbols : List Symbol} {rule : Rule} {child : Tree}
      {verdict : Verdict Matched}
      (unmarked : ¬ HoldsName partialInput name (Text.trimStart text))
      (defined : grammar.rule? name = some rule)
      (derived : RuleVerdict false rule (Text.trimStart text) (.found (child, rest)))
      (others : SymbolsVerdict symbols rest verdict) :
      SymbolsVerdict (.nonTerminal name :: symbols) text (verdict.map (Matched.cons child))
  | nestedFailure {name text : Text} {symbols : List Symbol} {rule : Rule}
      (unmarked : ¬ HoldsName partialInput name (Text.trimStart text))
      (defined : grammar.rule? name = some rule)
      (fails : RuleVerdict false rule (Text.trimStart text) .failure) :
      SymbolsVerdict (.nonTerminal name :: symbols) text .failure
  | nestedMissing {name absent text : Text} {symbols : List Symbol} {rule : Rule}
      (unmarked : ¬ HoldsName partialInput name (Text.trimStart text))
      (defined : grammar.rule? name = some rule)
      (fails : RuleVerdict false rule (Text.trimStart text) (.missingRule absent)) :
      SymbolsVerdict (.nonTerminal name :: symbols) text (.missingRule absent)
  | text {symbol : Symbol} {text : Text} {symbols : List Symbol} {length : Nat}
      {verdict : Verdict Matched}
      (consumes : (symbol.matchPrefix (Text.trimStart text)).consumed = some length)
      (others : SymbolsVerdict symbols ((Text.trimStart text).drop length) verdict) :
      SymbolsVerdict (symbol :: symbols) text
        (verdict.map (Matched.cons
          (Tree.ofMatch ((Text.trimStart text).take length)
            (symbol.groupTexts ((Text.trimStart text).take length)))))
  | mismatch {symbol : Symbol} {text : Text} {symbols : List Symbol}
      (readsText : symbol.ReadsText)
      (consumesNothing : (symbol.matchPrefix (Text.trimStart text)).consumed = none) :
      SymbolsVerdict (symbol :: symbols) text .failure

/-- The first alternative that succeeds is chosen. An outermost rule has to
leave nothing but blanks. -/
inductive ChoiceVerdict : Bool → List Alternative → Text → Verdict Matched → Prop where
  | exhausted (outermost : Bool) (text : Text) : ChoiceVerdict outermost [] text .failure
  | chosen {outermost : Bool} {first : Alternative} {others : List Alternative} {text : Text}
      {matched : Matched} (attempt : SymbolsVerdict first.symbols text (.found matched))
      (complete : outermost = true → Text.isAllBlank matched.rest) :
      ChoiceVerdict outermost (first :: others) text (.found matched)
  | leftOver {first : Alternative} {others : List Alternative} {text : Text}
      {matched : Matched} {verdict : Verdict Matched}
      (attempt : SymbolsVerdict first.symbols text (.found matched))
      (left : ¬ Text.isAllBlank matched.rest)
      (next : ChoiceVerdict true others text verdict) :
      ChoiceVerdict true (first :: others) text verdict
  | failed {outermost : Bool} {first : Alternative} {others : List Alternative} {text : Text}
      {verdict : Verdict Matched} (attempt : SymbolsVerdict first.symbols text .failure)
      (next : ChoiceVerdict outermost others text verdict) :
      ChoiceVerdict outermost (first :: others) text verdict
  | missing {outermost : Bool} {first : Alternative} {others : List Alternative}
      {text absent : Text} (attempt : SymbolsVerdict first.symbols text (.missingRule absent)) :
      ChoiceVerdict outermost (first :: others) text (.missingRule absent)

/-- A rule succeeds with its chosen alternative, unless that has consumed
nothing without reading an empty production itself. Then the rule fails, and no
other alternative is tried. -/
inductive RuleVerdict : Bool → Rule → Text → Verdict (Tree × Text) → Prop where
  | derived {outermost : Bool} {rule : Rule} {text : Text} {matched : Matched}
      (choice : ChoiceVerdict outermost rule.tried text (.found matched))
      (productive : matched.rest ≠ text ∨ matched.readEpsilon = true) :
      RuleVerdict outermost rule text
        (.found (Tree.ofRule rule.name matched.children, matched.rest))
  | unproductive {outermost : Bool} {rule : Rule} {text : Text} {matched : Matched}
      (choice : ChoiceVerdict outermost rule.tried text (.found matched))
      (consumesNothing : matched.rest = text) (noEpsilon : matched.readEpsilon = false) :
      RuleVerdict outermost rule text .failure
  | noAlternative {outermost : Bool} {rule : Rule} {text : Text}
      (choice : ChoiceVerdict outermost rule.tried text .failure) :
      RuleVerdict outermost rule text .failure
  | missing {outermost : Bool} {rule : Rule} {text absent : Text}
      (choice : ChoiceVerdict outermost rule.tried text (.missingRule absent)) :
      RuleVerdict outermost rule text (.missingRule absent)

end

/-- The verdict of the start rule on a whole text. -/
def StartVerdict (start : Rule) (input : Text) (verdict : Verdict Tree) : Prop :=
  ∃ settled, RuleVerdict grammar partialInput true start input settled ∧
    verdict = settled.map Prod.fst

end BnfParsing
