import BnfParsing.Proofs.Derivation.Agreement
import BnfParsing.Proofs.Grammar.Merging
import BnfParsing.Proofs.Setup.Build

/-!
Contract: alternatives that stand in a rule again change no outcome.

Owns:
- grammars that differ in repeated alternatives alone, and the agreement of
  parsers over both;
- a source that is added twice, up to the outcomes of the parsers that are
  built.

Does not own: why a repeated alternative is never chosen.
-/

set_option autoImplicit false

namespace BnfParsing

namespace Grammar

variable {grammar other : Grammar} {name : Text}

/-- The rules of the second grammar are those of the first, apart from
alternatives that repeat earlier ones of their rule. -/
def WithoutRepeated (grammar other : Grammar) : Prop :=
  ∀ name, other.alternatives? name = grammar.alternatives? name ∨
    ∃ before repeated after,
      grammar.alternatives? name = some (before ++ repeated ++ after) ∧
      other.alternatives? name = some (before ++ after) ∧
      ∀ alternative ∈ repeated, alternative ∈ before

theorem withoutRepeated_extend (grammar : Grammar) (rules : List Rule) :
    ((grammar.extend rules).extend rules).WithoutRepeated (grammar.extend rules) := by
  intro name
  rcases alternatives?_extend_extend grammar rules name with
    ⟨once, twice⟩ | ⟨alternatives, repeated, once, twice, known⟩
  · exact .inl (once.trans twice.symm)
  · exact .inr ⟨alternatives, repeated, [], by rw [twice, List.append_nil],
      by rw [once, List.append_nil], known⟩

theorem withoutRepeated_edit {rule : Rule} {before after : List Alternative}
    {repeated : Alternative} (member : rule ∈ grammar.rules)
    (alternatives : rule.alternatives = before ++ repeated :: after) (known : repeated ∈ before) :
    grammar.WithoutRepeated (grammar.edit rule.name fun _ => before ++ after) := by
  intro name
  rw [alternatives?_edit]
  by_cases sameName : rule.name = name
  · subst sameName
    have current : grammar.alternatives? rule.name = some (before ++ [repeated] ++ after) := by
      rw [alternatives?, rule?_of_mem member, Option.map_some, alternatives, List.append_assoc]
      rfl
    refine .inr ⟨before, [repeated], after, current, ?_, by simpa using known⟩
    rw [if_pos rfl, current, Option.map_some]
  · exact .inl (if_neg sameName)

end Grammar

namespace Parser

variable {parser other : Parser}

theorem tryParse_eq_of_withoutRepeated
    (withoutRepeated : parser.grammar.WithoutRepeated other.grammar)
    (sameStart : other.start.name = parser.start.name) (sameLimit : other.limit = parser.limit)
    (samePartial : other.partialInput = parser.partialInput) (input : Text) :
    (other.tryParse input).result = (parser.tryParse input).result := by
  refine tryParse_eq_of_rules samePartial sameLimit sameStart (fun name rule found => ?_)
    (fun name undefined => ?_) input
  · rw [Grammar.rule?_eq_map_alternatives?, Option.map_eq_some_iff] at found
    obtain ⟨alternatives, current, rfl⟩ := found
    rw [Grammar.rule?_eq_map_alternatives?]
    rcases withoutRepeated name with same | ⟨before, repeated, after, first, second, known⟩
    · exact ⟨_, by rw [same, current, Option.map_some], .refl _⟩
    · obtain rfl : before ++ repeated ++ after = alternatives :=
        Option.some.inj (first.symm.trans current)
      exact ⟨_, by rw [second, Option.map_some],
        Rule.sameChoice_without_repeated name known after⟩
  · rw [Grammar.rule?_eq_map_alternatives?, Option.map_eq_none_iff] at undefined ⊢
    rcases withoutRepeated name with same | ⟨before, repeated, after, first, -⟩
    · rw [same, undefined]
    · simp [undefined] at first

end Parser

namespace Setup

variable {setup other : Setup}

/-- What the parser of a setup comes to on a text, if there is one. -/
def outcome (setup : Setup) (input : Text) : Except Failure (Except Defect (Option Tree)) :=
  setup.build.map fun parser => (parser.tryParse input).result

/-- The setup with other settings of the parser. -/
def withSettings (setup : Setup) (start : Option Text) (limit : Nat) (partialInput : Bool) :
    Setup :=
  { setup with start, limit, partialInput }

theorem outcome_eq_of_withoutRepeated
    (withoutRepeated : setup.grammar.WithoutRepeated other.grammar)
    (sameNames : other.grammar.names = setup.grammar.names) (sameStart : other.start = setup.start)
    (sameLimit : other.limit = setup.limit)
    (samePartial : other.partialInput = setup.partialInput) (input : Text) :
    other.outcome input = setup.outcome input := by
  have sameStartName : other.startRule?.map Rule.name = setup.startRule?.map Rule.name := by
    rw [startRule?_map_name, startRule?_map_name, sameNames, sameStart]
  rw [outcome, outcome]
  rcases setup.build_cases with ⟨parser, built, builtFrom⟩ | ⟨failed, absent⟩ <;>
    rcases other.build_cases with ⟨otherParser, otherBuilt, otherFrom⟩ | ⟨otherFailed, otherAbsent⟩
  · rw [builtFrom.startRule_eq, otherFrom.startRule_eq] at sameStartName
    have same : (otherParser.tryParse input).result = (parser.tryParse input).result := by
      refine Parser.tryParse_eq_of_withoutRepeated ?_ (Option.some.inj sameStartName) ?_ ?_ input
      · rwa [builtFrom.grammar_eq, otherFrom.grammar_eq]
      · rw [builtFrom.limit_eq, otherFrom.limit_eq, sameLimit]
      · rw [builtFrom.partialInput_eq, otherFrom.partialInput_eq, samePartial]
    rw [built, otherBuilt, Except.map, Except.map, same]
  · simp [builtFrom.startRule_eq, otherAbsent] at sameStartName
  · simp [absent, otherFrom.startRule_eq] at sameStartName
  · rw [failed, otherFailed, startFailure, startFailure, sameStart]

theorem addText_eq_ok {once : Setup} {text : Text} :
    setup.addText text = .ok once ↔
      ∃ rules, Source.rules setup.options text = .ok rules ∧
        once = { setup with grammar := setup.grammar.extend rules } := by
  rw [addText]
  cases Source.rules setup.options text with
  | error invalid => simp
  | ok rules => simp [eq_comm]

/-- A source that is added again changes no outcome, and neither does an
alternative that is there already: with it or without it, every text comes to the
same. -/
theorem repetition_keeps_outcome :
    (∀ (setup once : Setup) (text : Text), setup.addText text = .ok once →
      ∃ twice, once.addText text = .ok twice ∧
        ∀ start limit partialInput input,
          (twice.withSettings start limit partialInput).outcome input =
            (once.withSettings start limit partialInput).outcome input) ∧
    ∀ (parser other : Parser) (rule : Rule) (before : List Alternative) (repeated : Alternative)
      (after : List Alternative), rule ∈ parser.grammar.rules →
      rule.alternatives = before ++ repeated :: after → repeated ∈ before →
      other.grammar = parser.grammar.edit rule.name (fun _ => before ++ after) →
      other.start.name = parser.start.name → other.limit = parser.limit →
      other.partialInput = parser.partialInput →
      ∀ input, (other.tryParse input).result = (parser.tryParse input).result := by
  constructor
  · intro setup once text added
    obtain ⟨rules, compiled, rfl⟩ := addText_eq_ok.mp added
    refine ⟨_, addText_eq_ok.mpr ⟨rules, compiled, rfl⟩, fun start limit partialInput input => ?_⟩
    symm
    refine outcome_eq_of_withoutRepeated ?_ ?_ ?_ ?_ ?_ input
    · exact Grammar.withoutRepeated_extend setup.grammar rules
    · exact (Grammar.names_extend_extend setup.grammar rules).symm
    · rfl
    · rfl
    · rfl
  · intro parser other rule before repeated after member alternatives known sameGrammar sameStart
      sameLimit samePartial input
    exact Parser.tryParse_eq_of_withoutRepeated
      (sameGrammar ▸ Grammar.withoutRepeated_edit member alternatives known)
      sameStart sameLimit samePartial input

/-- The rules of letters, with a try-last alternative among them. -/
def letterSource : Text := "<s> := a <t> || b\n<t> := c | d".toList

/-- A setup that honours double bars and has one of the rules already. -/
def beforeLetters : Setup where
  grammar := .ofList [⟨"<t>".toList, [{ symbols := [.terminal ['e'] true] }]⟩]
  options := { stickyRules := true }

def afterLetters : Setup :=
  { beforeLetters with
    grammar := .ofList
      [⟨"<t>".toList,
          [{ symbols := [.terminal ['e'] true] }, { symbols := [.terminal ['c'] true] },
            { symbols := [.terminal ['d'] true] }]⟩,
        ⟨"<s>".toList,
          [{ symbols := [.terminal ['a'] true, .nonTerminal "<t>".toList] },
            { symbols := [.terminal ['b'] true], tryLast := true }]⟩] }

def firstLetters : List Alternative :=
  [{ symbols := [.terminal ['a'] true] }, { symbols := [.terminal ['b'] true], tryLast := true }]

def lastLetter : List Alternative :=
  [{ symbols := [.terminal ['c'] true] }]

/-- Letters, the first one of which comes again. -/
def letterAgain : Parser where
  grammar :=
    { rules := [⟨"<s>".toList, firstLetters ++ { symbols := [.terminal ['a'] true] } :: lastLetter⟩]
      names_nodup := by decide }
  start := ⟨"<s>".toList, firstLetters ++ { symbols := [.terminal ['a'] true] } :: lastLetter⟩
  start_mem := List.mem_cons_self
  limit := 1
  partialInput := false
  level := .off

def letterOnce : Parser where
  grammar := letterAgain.grammar.edit "<s>".toList fun _ => firstLetters ++ lastLetter
  start := ⟨"<s>".toList, firstLetters ++ lastLetter⟩
  start_mem := List.mem_cons_self
  limit := 1
  partialInput := false
  level := .off

theorem letters_keep_outcome :
    beforeLetters.addText letterSource = .ok afterLetters ∧
      (∃ twice, afterLetters.addText letterSource = .ok twice ∧ twice ≠ afterLetters ∧
        (twice.withSettings (some "<s>".toList) 3 false).outcome "a d".toList =
          (afterLetters.withSettings (some "<s>".toList) 3 false).outcome "a d".toList) ∧
      (letterOnce.tryParse "c".toList).result = (letterAgain.tryParse "c".toList).result := by
  have added : beforeLetters.addText letterSource = .ok afterLetters := by decide
  have changes : afterLetters.addText letterSource ≠ .ok afterLetters := by decide
  obtain ⟨sourceAgain, alternativeAgain⟩ := repetition_keeps_outcome
  obtain ⟨twice, addedAgain, sameOutcome⟩ := sourceAgain beforeLetters afterLetters _ added
  have isRepeated : { symbols := [.terminal ['a'] true] } ∈ firstLetters := List.mem_cons_self
  exact ⟨added, ⟨twice, addedAgain, fun same => changes (same ▸ addedAgain), sameOutcome _ _ _ _⟩,
    alternativeAgain letterAgain letterOnce letterAgain.start firstLetters _ lastLetter
      letterAgain.start_mem rfl isRepeated rfl rfl rfl rfl _⟩

end Setup

end BnfParsing
