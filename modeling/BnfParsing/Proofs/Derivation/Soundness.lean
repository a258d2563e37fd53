import BnfParsing.Proofs.Derivation.Coverage
import Mathlib.Data.List.Forall2

/-!
Contract: a tree that is found follows the grammar and accounts for the whole
text.

Owns:
- when a child stands for a symbol, and when a node expands a rule;
- the invariant that every rule node built so far is such an expansion;
- the soundness of the trees that the search returns.

Does not own: which of several trees is found.
-/

set_option autoImplicit false

namespace BnfParsing

/-- The symbols of an alternative that are read: those up to the first empty
production, which ends it. -/
def Symbol.upToEpsilon : List Symbol → List Symbol
  | [] => []
  | symbol :: symbols =>
      if symbol.kind = .epsilon then [symbol] else symbol :: upToEpsilon symbols

namespace Parser

variable {parser : Parser} {nested : Rule → Text → Traced (Option (Tree × Text))}
variable {depth : Nat} {alternative : Alternative} {whole : Text}

/-- When a child stands for a symbol in a tree for the text `whole`. -/
inductive StandsFor (parser : Parser) (whole : Text) : Symbol → Tree → Prop where
  | epsilon : StandsFor parser whole .epsilon (Tree.leaf [])
  | reference (name : Text) (children : List Tree) :
      StandsFor parser whole (.nonTerminal name) (Tree.ofRule name children)
  | marker {name : Text} (allowed : parser.partialInput = true) :
      StandsFor parser whole (.nonTerminal name) (Tree.leaf name)
  /-- The symbol consumes the text of the leaf at some place of the whole text. -/
  | text {symbol : Symbol} {cursor : Text} {length : Nat} (within : cursor <:+ whole)
      (consumes : (symbol.matchPrefix cursor).consumed = some length) :
      StandsFor parser whole symbol
        (Tree.ofMatch (cursor.take length) (symbol.groupTexts (cursor.take length)))

/-- The node is named after a rule and has a child for every symbol that is read
in one of its alternatives. -/
def Expands (parser : Parser) (whole : Text) (node : Tree) : Prop :=
  ∃ rule ∈ parser.grammar.rules, ∃ chosen ∈ rule.alternatives,
    node = Tree.ofRule rule.name node.children ∧
      List.Forall₂ (parser.StandsFor whole) (Symbol.upToEpsilon chosen.symbols) node.children

/-- Every rule node of the tree expands its rule. -/
def Follows (parser : Parser) (whole : Text) (tree : Tree) : Prop :=
  ∀ node ∈ tree.nodes, node.kind = .rule → parser.Expands whole node

/-- Every tree derived from a rule within the whole text follows the grammar. -/
def AllFollow (parser : Parser) (whole : Text)
    (nested : Rule → Text → Traced (Option (Tree × Text))) : Prop :=
  ∀ rule ∈ parser.grammar.rules, ∀ cursor child rest, cursor <:+ whole →
    (nested rule cursor).result = .ok (some (child, rest)) →
    (∃ children, child = Tree.ofRule rule.name children) ∧ parser.Follows whole child

theorem follows_ofMatch (text : Text) (groups : List Text) :
    parser.Follows whole (Tree.ofMatch text groups) := by
  intro node member isRule
  exact absurd isRule (Tree.kind_of_mem_nodes_ofMatch member)

theorem follows_leaf (text : Text) : parser.Follows whole (Tree.leaf text) :=
  follows_ofMatch text []

theorem Reads.kind_ne_epsilon {cursor rest : Text} {symbol : Symbol} {child : Tree}
    (reads : parser.Reads nested cursor symbol child rest) : symbol.kind ≠ .epsilon := by
  cases reads with
  | marker => simp [Symbol.kind]
  | nested => simp [Symbol.kind]
  | text consumes => exact (Symbol.readsText_of_consumed consumes).1

theorem Reads.standsFor (nestedFollow : parser.AllFollow whole nested) {cursor rest : Text}
    {symbol : Symbol} {child : Tree} (within : cursor <:+ whole)
    (reads : parser.Reads nested cursor symbol child rest) :
    parser.StandsFor whole symbol child ∧ parser.Follows whole child := by
  cases reads with
  | @marker name _ allowed holds => exact ⟨.marker allowed, follows_leaf name⟩
  | @nested name _ rule _ defined derived =>
      obtain ⟨member, sameName⟩ := Grammar.rule?_eq_some defined
      obtain ⟨⟨children, rfl⟩, follows⟩ :=
        nestedFollow rule member cursor child rest within derived
      rw [sameName] at follows ⊢
      exact ⟨.reference name children, follows⟩
  | text consumes => exact ⟨.text within consumes, follows_ofMatch _ _⟩

/-- The children of a match stand for the symbols, one by one. -/
theorem matchSymbols_standFor (nestedCovers : AllCover nested)
    (nestedFollow : parser.AllFollow whole nested) {symbols : List Symbol} {text : Text}
    {matched : Matched} (within : text <:+ whole)
    (found : (parser.matchSymbols nested depth alternative symbols text).result =
      .ok (some matched)) :
    List.Forall₂ (parser.StandsFor whole) (Symbol.upToEpsilon symbols) matched.children ∧
      ∀ child ∈ matched.children, parser.Follows whole child := by
  induction symbols generalizing text matched with
  | nil =>
      simp only [matchSymbols_nil, Except.ok.injEq, Option.some.injEq] at found
      subst found
      exact ⟨.nil, by simp⟩
  | cons symbol symbols inductionHypothesis =>
      rcases matchSymbols_cons_eq_some found with
        ⟨rfl, rfl⟩ | ⟨child, rest, others, reads, othersFound, rfl⟩
      · refine ⟨.cons .epsilon .nil, ?_⟩
        intro child member
        simp only [List.mem_singleton] at member
        subst member
        exact follows_leaf []
      · have trimmedWithin : Text.trimStart text <:+ whole :=
          (List.dropWhile_suffix _).trans within
        have restWithin : rest <:+ whole :=
          (reads.covers nestedCovers).suffix.trans trimmedWithin
        obtain ⟨stands, follows⟩ := reads.standsFor nestedFollow trimmedWithin
        obtain ⟨othersStand, othersFollow⟩ := inductionHypothesis restWithin othersFound
        constructor
        · rw [Symbol.upToEpsilon, if_neg reads.kind_ne_epsilon]
          exact .cons stands othersStand
        · intro other member
          rcases List.mem_cons.mp member with rfl | inOthers
          · exact follows
          · exact othersFollow other inOthers

theorem follows_ofRule {rule : Rule} {chosen : Alternative} {children : List Tree}
    (ruleMember : rule ∈ parser.grammar.rules) (member : chosen ∈ rule.alternatives)
    (stand : List.Forall₂ (parser.StandsFor whole) (Symbol.upToEpsilon chosen.symbols) children)
    (childrenFollow : ∀ child ∈ children, parser.Follows whole child) :
    parser.Follows whole (Tree.ofRule rule.name children) := by
  intro node inside isRule
  rw [Tree.nodes_ofRule, List.mem_cons, Tree.mem_nodesAll] at inside
  rcases inside with rfl | ⟨child, childMember, inChild⟩
  · exact ⟨rule, ruleMember, chosen, member, rfl, stand⟩
  · exact childrenFollow child childMember node inChild isRule

theorem derive_allFollow (levels : Nat) :
    parser.AllFollow whole (derive parser levels depth) := by
  induction levels generalizing depth with
  | zero =>
      intro rule _ cursor child rest _ derived
      simp [derive_zero] at derived
  | succ levels inductionHypothesis =>
      intro rule ruleMember cursor child rest within derived
      obtain ⟨lower, chosen, matched, same, chooses, rfl, rfl⟩ := derive_eq_some derived
      obtain rfl : levels = lower := by omega
      obtain ⟨stand, childrenFollow⟩ := matchSymbols_standFor (derive_allCover levels)
        inductionHypothesis within chooses.matches_input
      exact ⟨⟨matched.children, rfl⟩,
        follows_ofRule ruleMember chooses.member stand childrenFollow⟩

/-- A returned tree has the start rule at its root, each of its rule nodes is
the expansion of a rule of the grammar, and its leaves with blanks around them
are the whole text. -/
theorem tryParse_sound {input : Text} {tree : Tree}
    (found : (parser.tryParse input).result = .ok (some tree)) :
    (∃ children, tree = Tree.ofRule parser.start.name children) ∧
      (∀ node ∈ tree.nodes, node.kind = .rule → parser.Expands input node) ∧
      Text.Spaced tree.leafTexts input := by
  obtain ⟨rest, derived⟩ := tryParse_eq_some.mp found
  obtain ⟨root, follows⟩ := derive_allFollow (parser.limit + 1) parser.start
    parser.start_mem input tree rest (List.suffix_refl input) derived
  exact ⟨root, follows, derive_spaced derived⟩

/-- Texts of letters `a`, each closed by a letter `b` or by the name of the rule
for it. -/
def balanced : Parser where
  grammar :=
    { rules :=
        [⟨"<S>".toList,
            [{ symbols :=
                [.terminal ['a'] true, .nonTerminal "<S>".toList, .nonTerminal "<T>".toList] },
              { symbols := [.epsilon] }]⟩,
          ⟨"<T>".toList, [{ symbols := [.terminal ['b'] true] }]⟩]
      names_nodup := by decide }
  start :=
    ⟨"<S>".toList,
      [{ symbols :=
          [.terminal ['a'] true, .nonTerminal "<S>".toList, .nonTerminal "<T>".toList] },
        { symbols := [.epsilon] }]⟩
  start_mem := List.mem_cons_self
  limit := 5
  partialInput := true
  level := .off

/-- The tree of ` a a <T> b`. -/
def balancedTree : Tree :=
  .ofRule "<S>".toList
    [.leaf ['a'],
      .ofRule "<S>".toList
        [.leaf ['a'], .ofRule "<S>".toList [.leaf []], .leaf "<T>".toList],
      .ofRule "<T>".toList [.leaf ['b']]]

theorem balancedTree_sound :
    (balanced.tryParse " a a <T> b".toList).result = .ok (some balancedTree) ∧
      (∀ node ∈ balancedTree.nodes, node.kind = .rule →
        balanced.Expands " a a <T> b".toList node) ∧
      Text.Spaced balancedTree.leafTexts " a a <T> b".toList := by
  have found : (balanced.tryParse " a a <T> b".toList).result = .ok (some balancedTree) := rfl
  exact ⟨found, (tryParse_sound found).2⟩

end Parser

end BnfParsing
