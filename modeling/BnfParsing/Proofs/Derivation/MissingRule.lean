import BnfParsing.Proofs.Derivation.Step
import BnfParsing.Proofs.Grammar.References
import Mathlib.Logic.Relation

/-!
Contract: a search misses a rule only where the grammar refers to one that does
not exist.

Owns: which rules a search can come to, the origin of a missing rule, and the
agreement of both with the dangling references of a grammar.

Does not own: whether a search comes to a dangling reference at all.
-/

set_option autoImplicit false

namespace BnfParsing

/-- A rule refers to another rule of the grammar. -/
def Grammar.Calls (grammar : Grammar) (caller callee : Rule) : Prop :=
  callee ∈ grammar.rules ∧ caller.RefersTo callee.name

/-- The references of one rule lead to another one in some number of steps. -/
def Grammar.Reaches (grammar : Grammar) : Rule → Rule → Prop :=
  Relation.ReflTransGen grammar.Calls

theorem Grammar.Reaches.mem {grammar : Grammar} {first last : Rule}
    (reaches : grammar.Reaches first last) (member : first ∈ grammar.rules) :
    last ∈ grammar.rules := by
  cases reaches with
  | refl => exact member
  | tail _ calls => exact calls.1

namespace Parser

variable {parser : Parser} {depth : Nat}

/-- The rule that is missed is referred to by a rule within reach. -/
theorem derive_missingRule {levels : Nat} {rule : Rule} {input name : Text}
    (failed : (derive parser levels depth rule input).result = .error (.missingRule name)) :
    ¬ parser.grammar.Defines name ∧
      ∃ caller, parser.grammar.Reaches rule caller ∧ caller.RefersTo name := by
  induction levels generalizing depth rule input with
  | zero => simp [derive_zero] at failed
  | succ levels inductionHypothesis =>
      rcases derive_eq_error failed with ⟨noLevels, _⟩ | ⟨lower, chosen, same, member, matchFails⟩
      · omega
      · obtain rfl : levels = lower := by omega
        obtain ⟨before, reference, after, children, cursor, split, _, cause⟩ :=
          matchSymbols_eq_error matchFails
        have refers : rule.RefersTo reference := ⟨chosen, member, by simp [split]⟩
        rcases cause with ⟨undefined, missed⟩ | ⟨callee, defined, nestedFails⟩
        · obtain rfl : name = reference := by simpa using missed
          exact ⟨Grammar.rule?_eq_none.mp undefined, rule, .refl, refers⟩
        · obtain ⟨calleeMember, sameName⟩ := Grammar.rule?_eq_some defined
          obtain ⟨undefined, caller, reaches, callerRefers⟩ := inductionHypothesis nestedFails
          have calls : parser.grammar.Calls rule callee := ⟨calleeMember, sameName ▸ refers⟩
          exact ⟨undefined, caller, .head calls reaches, callerRefers⟩

/-- A missing rule has no definition and is referred to by a rule that the start
rule reaches. -/
theorem tryParse_missingRule {input name : Text}
    (failed : (parser.tryParse input).result = .error (.missingRule name)) :
    ¬ parser.grammar.Defines name ∧
      ∃ caller, parser.grammar.Reaches parser.start caller ∧ caller.RefersTo name :=
  derive_missingRule (tryParse_eq_error.mp failed)

/-- Without a dangling reference no rule is ever missing. -/
theorem tryParse_ne_missingRule (closed : parser.grammar.Closed) (input name : Text) :
    (parser.tryParse input).result ≠ .error (.missingRule name) := by
  intro failed
  obtain ⟨undefined, caller, reaches, refers⟩ := tryParse_missingRule failed
  have member : caller ∈ parser.grammar.rules := Grammar.Reaches.mem reaches parser.start_mem
  exact undefined (closed caller member name refers)

end Parser

/-- The search for a dangling reference finds none exactly if every reference has
a rule, and otherwise the first one. Without one, no parser over the grammar
ever misses a rule; and a rule that is missed has no definition and is referred
to within reach of the start rule. -/
theorem Grammar.dangling_reference_exact (grammar : Grammar) :
    (grammar.danglingReference? = none ↔
      ∀ rule ∈ grammar.rules, ∀ alternative ∈ rule.alternatives, ∀ name,
        .nonTerminal name ∈ alternative.symbols → grammar.Defines name) ∧
    (∀ caller missing, grammar.danglingReference? = some (caller, missing) ↔
      grammar.FirstDangling caller missing) ∧
    (grammar.danglingReference? = none → ∀ parser : Parser, parser.grammar = grammar →
      ∀ input name, (parser.tryParse input).result ≠ .error (.missingRule name)) ∧
    ∀ parser : Parser, parser.grammar = grammar → ∀ input name,
      (parser.tryParse input).result = .error (.missingRule name) →
      ¬ grammar.Defines name ∧
        ∃ caller, grammar.Reaches parser.start caller ∧ caller.RefersTo name := by
  refine ⟨?_, fun caller missing => danglingReference?_eq_some, ?_, ?_⟩
  · rw [danglingReference?_eq_none]
    constructor
    · intro closed rule member alternative alternativeMember name refers
      exact closed rule member name ⟨alternative, alternativeMember, refers⟩
    · rintro closed rule member name ⟨alternative, alternativeMember, refers⟩
      exact closed rule member alternative alternativeMember name refers
  · rintro noneDangling parser rfl input name
    exact Parser.tryParse_ne_missingRule (danglingReference?_eq_none.mp noneDangling) input name
  · rintro parser rfl input name failed
    exact Parser.tryParse_missingRule failed

/-- A rule that another one refers to, with a reference of its own to no rule. -/
def Parser.unfinished : Parser where
  grammar :=
    { rules :=
        [⟨"<a>".toList,
            [{ symbols := [.terminal ['x'] true, .nonTerminal "<b>".toList] },
              { symbols := [.terminal ['y'] true] }]⟩,
          ⟨"<b>".toList,
            [{ symbols := [.terminal ['z'] true] },
              { symbols := [.nonTerminal "<a>".toList, .nonTerminal "<c>".toList] }]⟩]
      names_nodup := by decide }
  start :=
    ⟨"<a>".toList,
      [{ symbols := [.terminal ['x'] true, .nonTerminal "<b>".toList] },
        { symbols := [.terminal ['y'] true] }]⟩
  start_mem := List.mem_cons_self
  limit := 5
  partialInput := false
  level := .off

theorem Parser.unfinished_dangling_reference :
    Parser.unfinished.grammar.danglingReference? = some ("<b>".toList, "<c>".toList) ∧
      Parser.unfinished.grammar.FirstDangling "<b>".toList "<c>".toList ∧
      (Parser.unfinished.tryParse "x y".toList).result = .error (.missingRule "<c>".toList) ∧
      ∃ caller, Parser.unfinished.grammar.Reaches Parser.unfinished.start caller ∧
        caller.RefersTo "<c>".toList := by
  have dangles : Parser.unfinished.grammar.danglingReference? =
      some ("<b>".toList, "<c>".toList) := by decide
  have missed : (Parser.unfinished.tryParse "x y".toList).result =
      .error (.missingRule "<c>".toList) := rfl
  obtain ⟨_, first, _, origin⟩ := Grammar.dangling_reference_exact Parser.unfinished.grammar
  exact ⟨dangles, (first _ _).mp dangles, missed,
    (origin Parser.unfinished rfl _ _ missed).2⟩

end BnfParsing
