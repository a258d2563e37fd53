import BnfParsing.Proofs.Derivation.Coverage
import Mathlib.Data.Finset.Card
import Mathlib.Logic.Relation

/-!
Contract: without left recursion the nesting of rules is bounded by the size of
the grammar and the length of the text.

A chain of nested rules either moves on in the text or, where it stays at one
place, follows the relation of left calls. If that relation has no cycle, a rule
occurs at most once per place in the chain.

Owns: left calls, the rank of a rule among them, the bound on the levels that a
derivation needs, and the limit that is never reached.

Does not own: grammars with left recursion.
-/

set_option autoImplicit false

namespace BnfParsing

/-- The names of the references that have nothing but references in front. -/
def Symbol.leadingReferences : List Symbol → List Text
  | .nonTerminal name :: symbols => name :: leadingReferences symbols
  | _ => []

theorem Symbol.mem_leadingReferences {before after : List Symbol} {name : Text}
    (references : ∀ symbol ∈ before, symbol.kind = .nonTerminal) :
    name ∈ leadingReferences (before ++ .nonTerminal name :: after) := by
  induction before with
  | nil => exact List.mem_cons_self
  | cons symbol before inductionHypothesis =>
      have isReference : symbol.kind = .nonTerminal := references symbol List.mem_cons_self
      have othersReferences : ∀ other ∈ before, other.kind = .nonTerminal :=
        fun other member => references other (List.mem_cons_of_mem symbol member)
      cases symbol with
      | nonTerminal other => exact List.mem_cons_of_mem other (inductionHypothesis othersReferences)
      | terminal literal caseSensitive => simp [kind] at isReference
      | epsilon => simp [kind] at isReference
      | pattern regex => simp [kind] at isReference
      | number other => simp [kind] at isReference
      | word other => simp [kind] at isReference

theorem Text.length_le_byteLength (text : Text) : text.length ≤ byteLength text := by
  induction text with
  | nil => exact Nat.le_refl 0
  | cons character rest inductionHypothesis =>
      have positive := character.utf8Size_pos
      simp only [List.length_cons, byteLength]
      omega

namespace Grammar

variable {grammar : Grammar} {caller callee : Rule}

/-- A rule can apply another one before any symbol has consumed text. -/
def LeftCalls (grammar : Grammar) (caller callee : Rule) : Prop :=
  caller ∈ grammar.rules ∧ callee ∈ grammar.rules ∧
    ∃ alternative ∈ caller.alternatives,
      callee.name ∈ Symbol.leadingReferences alternative.symbols

/-- Some rule can come back to itself through left calls. -/
def LeftRecursive (grammar : Grammar) : Prop :=
  ∃ rule, Relation.TransGen grammar.LeftCalls rule rule

open Classical in
/-- The rules that left calls lead to, the rule itself included. -/
noncomputable def leftReach (grammar : Grammar) (rule : Rule) : Finset Rule :=
  grammar.rules.toFinset.filter fun other => Relation.ReflTransGen grammar.LeftCalls rule other

theorem leftReach_card_le (rule : Rule) :
    (grammar.leftReach rule).card ≤ grammar.rules.length := by
  classical
  have filtered : (grammar.leftReach rule).card ≤ grammar.rules.toFinset.card :=
    Finset.card_filter_le _ _
  exact filtered.trans (List.toFinset_card_le grammar.rules)

theorem leftReach_card_pos {rule : Rule} (member : rule ∈ grammar.rules) :
    0 < (grammar.leftReach rule).card := by
  apply Finset.card_pos.mpr
  refine ⟨rule, ?_⟩
  simp only [leftReach, Finset.mem_filter, List.mem_toFinset]
  exact ⟨member, .refl⟩

/-- Without left recursion a left call loses the caller for good. -/
theorem leftReach_card_lt (noLeftRecursion : ¬ grammar.LeftRecursive)
    (calls : grammar.LeftCalls caller callee) :
    (grammar.leftReach callee).card < (grammar.leftReach caller).card := by
  apply Finset.card_lt_card
  rw [Finset.ssubset_iff_of_subset]
  · refine ⟨caller, ?_, ?_⟩
    · simp only [leftReach, Finset.mem_filter, List.mem_toFinset]
      exact ⟨calls.1, .refl⟩
    · intro back
      simp only [leftReach, Finset.mem_filter] at back
      exact noLeftRecursion ⟨caller, Relation.TransGen.head' calls back.2⟩
  · intro rule member
    simp only [leftReach, Finset.mem_filter] at member ⊢
    exact ⟨member.1, Relation.ReflTransGen.head calls member.2⟩

/-- A rank that every left call lowers excludes left recursion. -/
theorem not_leftRecursive_of_rank (rank : Rule → Nat)
    (lowers : ∀ caller ∈ grammar.rules, ∀ callee ∈ grammar.rules,
      ∀ alternative ∈ caller.alternatives,
        callee.name ∈ Symbol.leadingReferences alternative.symbols →
        rank callee < rank caller) :
    ¬ grammar.LeftRecursive := by
  rintro ⟨rule, cycle⟩
  have ranked : ∀ {first last : Rule}, Relation.TransGen grammar.LeftCalls first last →
      rank last < rank first := by
    intro first last chain
    induction chain with
    | single calls =>
        obtain ⟨callerMember, calleeMember, alternative, member, leads⟩ := calls
        exact lowers _ callerMember _ calleeMember alternative member leads
    | tail chain calls inductionHypothesis =>
        obtain ⟨callerMember, calleeMember, alternative, member, leads⟩ := calls
        exact (lowers _ callerMember _ calleeMember alternative member leads).trans
          inductionHypothesis
  exact Nat.lt_irrefl _ (ranked cycle)

/-- The levels that suffice for a rule on a text of a given length. -/
noncomputable def levelsFor (grammar : Grammar) (length : Nat) (rule : Rule) : Nat :=
  grammar.rules.length * length + (grammar.leftReach rule).card

theorem levelsFor_lt_of_shorter {length shorter : Nat} (member : caller ∈ grammar.rules)
    (lt : shorter < length) :
    grammar.levelsFor shorter callee < grammar.levelsFor length caller := by
  have calleeBound := grammar.leftReach_card_le callee
  have callerPositive := leftReach_card_pos member
  have oneMore : grammar.rules.length * (shorter + 1) ≤ grammar.rules.length * length :=
    Nat.mul_le_mul_left _ lt
  unfold levelsFor
  rw [Nat.mul_add, Nat.mul_one] at oneMore
  omega

theorem levelsFor_lt_of_leftCalls {length other : Nat}
    (noLeftRecursion : ¬ grammar.LeftRecursive) (calls : grammar.LeftCalls caller callee)
    (le : other ≤ length) :
    grammar.levelsFor other callee < grammar.levelsFor length caller := by
  have lower := leftReach_card_lt noLeftRecursion calls
  have notMore : grammar.rules.length * other ≤ grammar.rules.length * length :=
    Nat.mul_le_mul_left _ le
  unfold levelsFor
  omega

end Grammar

namespace Parser

variable {parser : Parser} {nested : Rule → Text → Traced (Option (Tree × Text))}
variable {depth : Nat} {alternative : Alternative}

/-- Only a reference can be read without moving on in the text. -/
theorem Reads.progress (nestedCovers : AllCover nested) {cursor rest : Text} {symbol : Symbol}
    {child : Tree} (reads : parser.Reads nested cursor symbol child rest) :
    rest.length < cursor.length ∨
      (rest.length ≤ cursor.length ∧ symbol.kind = .nonTerminal) := by
  have notBack : rest.length ≤ cursor.length := (reads.covers nestedCovers).suffix.length_le
  cases reads with
  | marker => exact .inr ⟨notBack, rfl⟩
  | nested => exact .inr ⟨notBack, rfl⟩
  | text consumes =>
      obtain ⟨positive, bound⟩ := Symbol.consumed_bounds consumes
      left
      rw [List.length_drop]
      omega

theorem matchSymbols_progress (nestedCovers : AllCover nested) {symbols : List Symbol}
    {text : Text} {matched : Matched}
    (found : (parser.matchSymbols nested depth alternative symbols text).result =
      .ok (some matched))
    (noEpsilon : matched.readEpsilon = false) :
    matched.rest.length < text.length ∨
      (matched.rest.length ≤ text.length ∧
        ∀ symbol ∈ symbols, symbol.kind = .nonTerminal) := by
  induction symbols generalizing text matched with
  | nil =>
      simp only [matchSymbols_nil, Except.ok.injEq, Option.some.injEq] at found
      subst found
      exact .inr ⟨Nat.le_refl _, by simp⟩
  | cons symbol symbols inductionHypothesis =>
      rcases matchSymbols_cons_eq_some found with
        ⟨-, rfl⟩ | ⟨child, rest, others, reads, othersFound, rfl⟩
      · contradiction
      · have trimmed : (Text.trimStart text).length ≤ text.length :=
          (List.dropWhile_suffix _).length_le
        have rest_le : (others.cons child).rest = others.rest := rfl
        rw [rest_le]
        rcases inductionHypothesis othersFound noEpsilon with shorter | ⟨notLonger, references⟩
        · left
          rcases reads.progress nestedCovers with moved | ⟨stayed, _⟩ <;> omega
        · rcases reads.progress nestedCovers with moved | ⟨stayed, isReference⟩
          · left
            omega
          · refine .inr ⟨by omega, ?_⟩
            intro other member
            rcases List.mem_cons.mp member with rfl | inOthers
            · exact isReference
            · exact references other inOthers

/-- If the limit is reached below an alternative, then it is below a reference
further on in the text or below a left call. -/
theorem limitReached_below {rule : Rule} {input : Text} {reached : Nat}
    (nestedCovers : AllCover nested) (ruleMember : rule ∈ parser.grammar.rules)
    (member : alternative ∈ rule.alternatives)
    (failed : (parser.matchSymbols nested depth alternative alternative.symbols input).result =
      .error (.limitReached reached)) :
    ∃ callee ∈ parser.grammar.rules, ∃ cursor,
      (nested callee cursor).result = .error (.limitReached reached) ∧
      (cursor.length < input.length ∨
        (cursor.length ≤ input.length ∧ parser.grammar.LeftCalls rule callee)) := by
  obtain ⟨before, name, after, children, cursor, split, matched, cause⟩ :=
    matchSymbols_eq_error failed
  rcases cause with ⟨_, missing⟩ | ⟨callee, defined, fails⟩
  · simp at missing
  · obtain ⟨calleeMember, rfl⟩ := Grammar.rule?_eq_some defined
    refine ⟨callee, calleeMember, Text.trimStart cursor, fails, ?_⟩
    have trimmed : (Text.trimStart cursor).length ≤ cursor.length :=
      (List.dropWhile_suffix _).length_le
    rcases matchSymbols_progress nestedCovers matched rfl with moved | ⟨stayed, references⟩
    · left
      exact Nat.lt_of_le_of_lt trimmed moved
    · refine .inr ⟨Nat.le_trans trimmed stayed, ruleMember, calleeMember, alternative, member, ?_⟩
      rw [split]
      exact Symbol.mem_leadingReferences references

/-- Enough levels are never used up. -/
theorem derive_ne_limitReached (noLeftRecursion : ¬ parser.grammar.LeftRecursive)
    {levels reached : Nat} {rule : Rule} {input : Text}
    (ruleMember : rule ∈ parser.grammar.rules)
    (enough : parser.grammar.levelsFor input.length rule ≤ levels) :
    (derive parser levels depth rule input).result ≠ .error (.limitReached reached) := by
  induction levels generalizing depth rule input with
  | zero =>
      have positive := Grammar.leftReach_card_pos ruleMember
      unfold Grammar.levelsFor at enough
      omega
  | succ levels inductionHypothesis =>
      intro failed
      rcases derive_eq_error failed with ⟨noLevels, _⟩ | ⟨lower, chosen, same, member, matchFails⟩
      · omega
      · obtain rfl : levels = lower := by omega
        obtain ⟨callee, calleeMember, cursor, fails, moved | ⟨stayed, calls⟩⟩ :=
          limitReached_below (derive_allCover levels) ruleMember member matchFails
        · have fewer : parser.grammar.levelsFor cursor.length callee <
              parser.grammar.levelsFor input.length rule :=
            Grammar.levelsFor_lt_of_shorter ruleMember moved
          exact inductionHypothesis calleeMember (by omega) fails
        · have fewer : parser.grammar.levelsFor cursor.length callee <
              parser.grammar.levelsFor input.length rule :=
            Grammar.levelsFor_lt_of_leftCalls noLeftRecursion calls stayed
          exact inductionHypothesis calleeMember (by omega) fails

/-- A parser over `R` rules without left recursion never reaches a limit of at
least `R * (n + 1)` on a text of `n` bytes. -/
theorem tryParse_ne_limitReached (parser : Parser) (input : Text)
    (noLeftRecursion : ¬ parser.grammar.LeftRecursive)
    (enough : parser.grammar.rules.length * (Text.byteLength input + 1) ≤ parser.limit)
    (reached : Nat) :
    (parser.tryParse input).result ≠ .error (.limitReached reached) := by
  intro failed
  have lengthBound : parser.grammar.rules.length * input.length ≤
      parser.grammar.rules.length * Text.byteLength input :=
    Nat.mul_le_mul_left _ (Text.length_le_byteLength input)
  have reachBound := parser.grammar.leftReach_card_le parser.start
  rw [Nat.mul_add, Nat.mul_one] at enough
  have enoughLevels :
      parser.grammar.levelsFor input.length parser.start ≤ parser.limit + 1 := by
    unfold Grammar.levelsFor
    omega
  exact derive_ne_limitReached noLeftRecursion parser.start_mem enoughLevels
    (tryParse_eq_error.mp failed)

/-- Letters `x`, each with an optional letter `y` in front. -/
def markedLetters : Parser where
  grammar :=
    { rules :=
        [⟨"<S>".toList,
            [{ symbols :=
                [.nonTerminal "<T>".toList, .terminal ['x'] true, .nonTerminal "<S>".toList] },
              { symbols := [.nonTerminal "<T>".toList, .terminal ['x'] true] }]⟩,
          ⟨"<T>".toList,
            [{ symbols := [.terminal ['y'] true] }, { symbols := [.epsilon] }]⟩]
      names_nodup := by decide }
  start :=
    ⟨"<S>".toList,
      [{ symbols :=
          [.nonTerminal "<T>".toList, .terminal ['x'] true, .nonTerminal "<S>".toList] },
        { symbols := [.nonTerminal "<T>".toList, .terminal ['x'] true] }]⟩
  start_mem := List.mem_cons_self
  limit := 12
  partialInput := false
  level := .off

theorem markedLetters_ne_limitReached :
    ¬ markedLetters.grammar.LeftRecursive ∧
      markedLetters.grammar.rules.length * (Text.byteLength "y x x".toList + 1) ≤
        markedLetters.limit ∧
      (markedLetters.tryParse "y x x".toList).result ≠ .error (.limitReached 12) := by
  have noLeftRecursion : ¬ markedLetters.grammar.LeftRecursive :=
    Grammar.not_leftRecursive_of_rank
      (fun rule => if rule.name = "<S>".toList then 1 else 0) (by decide)
  have enough :
      markedLetters.grammar.rules.length * (Text.byteLength "y x x".toList + 1) ≤
        markedLetters.limit := by
    decide
  exact ⟨noLeftRecursion, enough,
    tryParse_ne_limitReached markedLetters "y x x".toList noLeftRecursion enough 12⟩

end Parser

end BnfParsing
