import BnfParsing.Proofs.Grammar.Editing
import BnfParsing.Setup

/-!
Contract: the parser that a setup is built into.

Owns: the rule a parser starts from, if there is one, and the parser or the
failure that building comes to.

Does not own: how a setup is put together.
-/

set_option autoImplicit false

namespace BnfParsing.Setup

/-- The chosen rule, or else the first one. -/
def startRule? (setup : Setup) : Option Rule :=
  match setup.start with
  | some name => setup.grammar.rule? name
  | none => setup.grammar.rules.head?

/-- What is reported if there is no rule to start from. -/
def startFailure (setup : Setup) : Failure :=
  match setup.start with
  | some name => .unknownStartRule name
  | none => .noStartRule

/-- A parser with the grammar and the settings of a setup, and its start rule. -/
structure BuiltFrom (parser : Parser) (setup : Setup) : Prop where
  grammar_eq : parser.grammar = setup.grammar
  startRule_eq : setup.startRule? = some parser.start
  limit_eq : parser.limit = setup.limit
  partialInput_eq : parser.partialInput = setup.partialInput
  level_eq : parser.level = setup.level

/-- Either there is a start rule and a parser, or neither. -/
theorem build_cases (setup : Setup) :
    (∃ parser, setup.build = .ok parser ∧ BuiltFrom parser setup) ∨
      (setup.build = .error setup.startFailure ∧ setup.startRule? = none) := by
  unfold build
  split
  case h_1 name chosen =>
    split
    case h_1 rule found =>
      refine .inl ⟨_, rfl, rfl, ?_, rfl, rfl, rfl⟩
      simp only [startRule?, chosen]
      exact found
    case h_2 absent =>
      refine .inr ⟨?_, ?_⟩
      · simp only [startFailure, chosen]
      · simp only [startRule?, chosen, absent]
  case h_2 unchosen =>
    split
    case h_1 rule first =>
      refine .inl ⟨_, rfl, rfl, ?_, rfl, rfl, rfl⟩
      simp only [startRule?, unchosen]
      exact first
    case h_2 absent =>
      refine .inr ⟨?_, ?_⟩
      · simp only [startFailure, unchosen]
      · simp only [startRule?, unchosen, absent]

theorem builtFrom_of_build {setup : Setup} {parser : Parser} (built : setup.build = .ok parser) :
    BuiltFrom parser setup := by
  rcases setup.build_cases with ⟨other, otherBuilt, builtFrom⟩ | ⟨failed, -⟩
  · rw [built] at otherBuilt
    cases otherBuilt
    exact builtFrom
  · rw [built] at failed
    cases failed

/-- The name of the start rule depends on the names of the rules alone. -/
theorem startRule?_map_name (setup : Setup) :
    setup.startRule?.map Rule.name =
      match setup.start with
      | some name => setup.grammar.names.find? (· == name)
      | none => setup.grammar.names.head? := by
  unfold startRule? Grammar.names
  cases setup.start with
  | none => exact List.head?_map.symm
  | some name =>
      simp only [List.find?_map]
      rfl

theorem startName_build (setup : Setup) :
    setup.build.map (fun parser => parser.start.name) =
      match setup.startRule?.map Rule.name with
      | some name => .ok name
      | none => .error setup.startFailure := by
  rcases setup.build_cases with ⟨parser, built, builtFrom⟩ | ⟨failed, absent⟩
  · rw [built, builtFrom.startRule_eq]
    rfl
  · rw [failed, absent]
    rfl

end BnfParsing.Setup
