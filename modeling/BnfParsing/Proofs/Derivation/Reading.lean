import BnfParsing.Derivation.Parser
import BnfParsing.Proofs.Symbol.Consumption

/-!
Contract: how a single symbol is read at the front of a text.

Owns:
- the symbols that consume text themselves;
- the reading of a symbol, with the exact condition for each of its cases.

Does not own: how the readings of several symbols follow each other.
-/

set_option autoImplicit false

namespace BnfParsing

namespace Symbol

/-- Symbols that consume text themselves: neither an empty production nor a
reference. -/
def ReadsText (symbol : Symbol) : Prop :=
  symbol.kind ≠ .epsilon ∧ symbol.kind ≠ .nonTerminal

theorem role (symbol : Symbol) :
    symbol = .epsilon ∨ (∃ name, symbol = .nonTerminal name) ∨ symbol.ReadsText := by
  cases symbol with
  | epsilon => exact .inl rfl
  | nonTerminal name => exact .inr (.inl ⟨name, rfl⟩)
  | terminal literal caseSensitive => exact .inr (.inr ⟨by simp [kind], by simp [kind]⟩)
  | pattern regex => exact .inr (.inr ⟨by simp [kind], by simp [kind]⟩)
  | number name => exact .inr (.inr ⟨by simp [kind], by simp [kind]⟩)
  | word name => exact .inr (.inr ⟨by simp [kind], by simp [kind]⟩)

theorem readsText_of_consumed {symbol : Symbol} {text : Text} {length : Nat}
    (consumes : (symbol.matchPrefix text).consumed = some length) : symbol.ReadsText := by
  rcases symbol.role with rfl | ⟨name, rfl⟩ | readsText
  · simp [matchPrefix, PrefixMatch.consumed] at consumes
  · simp [matchPrefix, PrefixMatch.consumed] at consumes
  · exact readsText

end Symbol

/-- How a symbol is read at the front of a text. -/
inductive Reading where
  /-- The alternative is complete. -/
  | complete
  /-- A leaf covers the front of the text. -/
  | leaf (leaf : Tree) (rest : Text)
  /-- A rule has to derive the front of the text. -/
  | nested (rule : Rule)
  /-- The symbol refers to a rule that does not exist. -/
  | missing (name : Text)
  /-- The symbol does not match. -/
  | mismatch

namespace Parser

variable {parser : Parser}

/-- The reading of a symbol at the front of a text without blanks there. -/
def reading (parser : Parser) (cursor : Text) : Symbol → Reading
  | .epsilon => .complete
  | .nonTerminal name =>
      match parser.marker? name cursor with
      | some rest => .leaf (Tree.leaf name) rest
      | none =>
          match parser.grammar.rule? name with
          | some rule => .nested rule
          | none => .missing name
  | terminal =>
      match consume? terminal cursor with
      | some (leaf, rest) => .leaf leaf rest
      | none => .mismatch

theorem reading_of_readsText {symbol : Symbol} (readsText : symbol.ReadsText)
    (cursor : Text) :
    parser.reading cursor symbol =
      match consume? symbol cursor with
      | some (leaf, rest) => .leaf leaf rest
      | none => .mismatch := by
  unfold reading
  split
  · simp [Symbol.ReadsText, Symbol.kind] at readsText
  · simp [Symbol.ReadsText, Symbol.kind] at readsText
  · rfl

theorem marker?_eq_some {name cursor rest : Text} :
    parser.marker? name cursor = some rest ↔
      parser.partialInput = true ∧ cursor = name ++ rest := by
  simp only [marker?, Option.ite_none_right_eq_some, Option.some.injEq, Bool.and_eq_true,
    List.isPrefixOf_iff_prefix]
  constructor
  · rintro ⟨⟨allowed, more, rfl⟩, rfl⟩
    exact ⟨allowed, by rw [List.drop_left]⟩
  · rintro ⟨allowed, rfl⟩
    exact ⟨⟨allowed, List.prefix_append name rest⟩, List.drop_left⟩

theorem consume?_nil (symbol : Symbol) : consume? symbol [] = none := by
  unfold consume?
  rw [Symbol.consumed_nil]
  rfl

/-- When a symbol has which reading at the front of a text. -/
inductive ReadsAs (parser : Parser) (cursor : Text) : Symbol → Reading → Prop where
  | epsilon : ReadsAs parser cursor .epsilon .complete
  /-- The text holds the name of a rule. -/
  | marker {name rest : Text} (marked : parser.marker? name cursor = some rest) :
      ReadsAs parser cursor (.nonTerminal name) (.leaf (Tree.leaf name) rest)
  | nested {name : Text} {rule : Rule} (unmarked : parser.marker? name cursor = none)
      (defined : parser.grammar.rule? name = some rule) :
      ReadsAs parser cursor (.nonTerminal name) (.nested rule)
  | missing {name : Text} (unmarked : parser.marker? name cursor = none)
      (undefined : parser.grammar.rule? name = none) :
      ReadsAs parser cursor (.nonTerminal name) (.missing name)
  /-- The symbol consumes the front of the text. -/
  | text {symbol : Symbol} {length : Nat}
      (consumes : (symbol.matchPrefix cursor).consumed = some length) :
      ReadsAs parser cursor symbol
        (.leaf (Tree.ofMatch (cursor.take length) (symbol.groupTexts (cursor.take length)))
          (cursor.drop length))
  | mismatch {symbol : Symbol} (readsText : symbol.ReadsText)
      (consumesNothing : (symbol.matchPrefix cursor).consumed = none) :
      ReadsAs parser cursor symbol .mismatch

theorem reading_spec (parser : Parser) (cursor : Text) (symbol : Symbol) :
    parser.ReadsAs cursor symbol (parser.reading cursor symbol) := by
  rcases symbol.role with rfl | ⟨name, rfl⟩ | readsText
  · exact .epsilon
  · simp only [reading]
    cases marked : parser.marker? name cursor with
    | some rest => exact .marker marked
    | none =>
        cases defined : parser.grammar.rule? name with
        | some rule => exact .nested marked defined
        | none => exact .missing marked defined
  · rw [reading_of_readsText readsText]
    unfold consume?
    cases consumes : (symbol.matchPrefix cursor).consumed with
    | some length => exact .text consumes
    | none => exact .mismatch readsText consumes

theorem readsAs_iff {cursor : Text} {symbol : Symbol} {reading : Reading} :
    parser.ReadsAs cursor symbol reading ↔ parser.reading cursor symbol = reading := by
  constructor
  · intro readsAs
    cases readsAs with
    | epsilon => rfl
    | marker marked => simp [Parser.reading, marked]
    | nested unmarked defined => simp [Parser.reading, unmarked, defined]
    | missing unmarked undefined => simp [Parser.reading, unmarked, undefined]
    | text consumes =>
        rw [reading_of_readsText (Symbol.readsText_of_consumed consumes)]
        simp [consume?, consumes]
    | mismatch readsText consumesNothing =>
        rw [reading_of_readsText readsText]
        simp [consume?, consumesNothing]
  · intro read
    rw [← read]
    exact reading_spec parser cursor symbol

end Parser

end BnfParsing
