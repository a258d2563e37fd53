import BnfParsing.Proofs.Derivation.Coverage
import BnfParsing.Proofs.Derivation.Limit
import BnfParsing.Proofs.Derivation.Verdict

/-!
Contract: the search under a limit and the rules without one say the same.

Owns:
- from a result of the search to a derivation of its verdict, by induction on
  the levels;
- from a derivation of a verdict to the levels that suffice for it, by induction
  on the derivation;
- the equivalence of both for the start rule.

Does not own: how many levels a given grammar needs.
-/

set_option autoImplicit false

namespace BnfParsing

namespace Verdict

variable {α β : Type}

theorem result_injective : Function.Injective (result : Verdict α → Except Defect (Option α)) := by
  intro left right same
  cases left <;> cases right <;> simp_all [result]

theorem result_map (change : α → β) (verdict : Verdict α) :
    (verdict.map change).result = verdict.result.map (Option.map change) := by
  cases verdict <;> rfl

theorem eq_missingRule_of_result {verdict : Verdict α} {failure : Defect}
    (failed : verdict.result = .error failure) :
    ∃ name, verdict = .missingRule name ∧ failure = .missingRule name := by
  cases verdict with
  | found value => simp [result] at failed
  | failure => simp [result] at failed
  | missingRule name =>
      simp only [result, Except.error.injEq] at failed
      exact ⟨name, rfl, failed.symm⟩

/-- Running out of levels is no verdict. -/
theorem result_ne_limit {verdict : Verdict α} {failure : Defect} (isLimit : failure.IsLimit) :
    verdict.result ≠ .error failure := by
  intro failed
  obtain ⟨reached, rfl⟩ := isLimit
  obtain ⟨name, _, limitIsMissing⟩ := eq_missingRule_of_result failed
  contradiction

theorem map_eq_result {result : Except Defect (Option α)} {change : α → β}
    {verdict : Verdict β} (same : result.map (Option.map change) = verdict.result) :
    ∃ inner : Verdict α, result = inner.result ∧ verdict = inner.map change := by
  rcases result with failure | _ | value
  · obtain ⟨name, rfl, rfl⟩ := eq_missingRule_of_result same.symm
    exact ⟨.missingRule name, rfl, rfl⟩
  · exact ⟨.failure, rfl, result_injective same.symm⟩
  · exact ⟨.found value, rfl, result_injective same.symm⟩

end Verdict

namespace Parser

variable {parser : Parser} {nested : Rule → Text → Traced (Option (Tree × Text))}
variable {depth : Nat} {alternative : Alternative}

theorem marker?_eq_none {name cursor : Text} :
    parser.marker? name cursor = none ↔ ¬ HoldsName parser.partialInput name cursor := by
  unfold HoldsName
  rw [Option.eq_none_iff_forall_not_mem]
  constructor
  · rintro unmarked ⟨allowed, rest, rfl⟩
    exact unmarked rest (marker?_eq_some.mpr ⟨allowed, rfl⟩)
  · rintro unmarked rest marked
    obtain ⟨allowed, rfl⟩ := marker?_eq_some.mp marked
    exact unmarked ⟨allowed, List.prefix_append name rest⟩

/-! ## From results to verdicts -/

/-- Every result of a nested rule is its verdict. -/
def AllSettle (parser : Parser) (nested : Rule → Text → Traced (Option (Tree × Text))) :
    Prop :=
  ∀ rule cursor verdict, (nested rule cursor).result = verdict.result →
    RuleVerdict parser.grammar parser.partialInput false rule cursor verdict

theorem symbolsVerdict_of_result (nestedSettle : parser.AllSettle nested)
    {symbols : List Symbol} {text : Text} {verdict : Verdict Matched}
    (result : (parser.matchSymbols nested depth alternative symbols text).result =
      verdict.result) :
    SymbolsVerdict parser.grammar parser.partialInput symbols text verdict := by
  induction symbols generalizing text verdict with
  | nil =>
      obtain rfl : verdict = .found ⟨[], text, false⟩ := Verdict.result_injective result.symm
      exact .done text
  | cons symbol symbols inductionHypothesis =>
      rw [matchSymbols_cons] at result
      have readsAs := parser.reading_spec (Text.trimStart text) symbol
      generalize parser.reading (Text.trimStart text) symbol = reading at readsAs result
      cases readsAs with
      | epsilon =>
          obtain rfl : verdict = .found ⟨[Tree.leaf []], Text.trimStart text, true⟩ :=
            Verdict.result_injective result.symm
          exact .epsilon symbols text
      | marker marked =>
          obtain ⟨allowed, holds⟩ := marker?_eq_some.mp marked
          obtain ⟨inner, innerResult, rfl⟩ := Verdict.map_eq_result result
          exact .marker allowed holds (inductionHypothesis innerResult)
      | @nested name rule unmarked defined =>
          have notHeld := marker?_eq_none.mp unmarked
          rcases derived : (nested rule (Text.trimStart text)).result
            with failure | _ | ⟨child, rest⟩
          · simp only [derived] at result
            obtain ⟨absent, rfl, rfl⟩ := Verdict.eq_missingRule_of_result result.symm
            exact .nestedMissing notHeld defined
              (nestedSettle rule (Text.trimStart text) (.missingRule absent) derived)
          · simp only [derived] at result
            obtain rfl : verdict = .failure := Verdict.result_injective result.symm
            exact .nestedFailure notHeld defined
              (nestedSettle rule (Text.trimStart text) .failure derived)
          · simp only [derived] at result
            obtain ⟨inner, innerResult, rfl⟩ := Verdict.map_eq_result result
            exact .nested notHeld defined
              (nestedSettle rule (Text.trimStart text) (.found (child, rest)) derived)
              (inductionHypothesis innerResult)
      | @missing name unmarked undefined =>
          obtain rfl : verdict = .missingRule name := Verdict.result_injective result.symm
          exact .missing (marker?_eq_none.mp unmarked) undefined
      | text consumes =>
          obtain ⟨inner, innerResult, rfl⟩ := Verdict.map_eq_result result
          exact .text consumes (inductionHypothesis innerResult)
      | mismatch readsText consumesNothing =>
          obtain rfl : verdict = .failure := Verdict.result_injective result.symm
          exact .mismatch readsText consumesNothing

theorem choiceVerdict_of_result (nestedSettle : parser.AllSettle nested)
    {alternatives : List Alternative} {input : Text} {verdict : Verdict Matched}
    (result : (parser.firstMatch nested depth input alternatives).result = verdict.result) :
    ChoiceVerdict parser.grammar parser.partialInput (depth == 0) alternatives input verdict := by
  induction alternatives with
  | nil =>
      obtain rfl : verdict = .failure := Verdict.result_injective result.symm
      exact .exhausted (depth == 0) input
  | cons first others inductionHypothesis =>
      rw [firstMatch_cons] at result
      rcases attempt : (parser.matchSymbols nested depth first first.symbols input).result
        with failure | _ | matched
      · simp only [attempt] at result
        obtain ⟨absent, rfl, rfl⟩ := Verdict.eq_missingRule_of_result result.symm
        have settles : (parser.matchSymbols nested depth first first.symbols input).result =
            (Verdict.missingRule absent : Verdict Matched).result := attempt
        exact .missing (symbolsVerdict_of_result nestedSettle settles)
      · simp only [attempt] at result
        have settles : (parser.matchSymbols nested depth first first.symbols input).result =
            (Verdict.failure : Verdict Matched).result := attempt
        exact .failed (symbolsVerdict_of_result nestedSettle settles)
          (inductionHypothesis result)
      · simp only [attempt] at result
        have settles : (parser.matchSymbols nested depth first first.symbols input).result =
            (Verdict.found matched).result := attempt
        have attemptVerdict := symbolsVerdict_of_result nestedSettle settles
        split at result
        case isTrue rejected =>
          obtain ⟨rfl, left⟩ := rejected
          exact .leftOver attemptVerdict left (inductionHypothesis result)
        case isFalse accepted =>
          obtain rfl : verdict = .found matched := Verdict.result_injective result.symm
          refine .chosen attemptVerdict ?_
          intro outermost
          simpa [beq_iff_eq.mp outermost] using accepted

/-- A result of deriving a rule is its verdict, whatever the number of levels. -/
theorem ruleVerdict_of_result {levels : Nat} {rule : Rule} {input : Text}
    {verdict : Verdict (Tree × Text)}
    (result : (derive parser levels depth rule input).result = verdict.result) :
    RuleVerdict parser.grammar parser.partialInput (depth == 0) rule input verdict := by
  induction levels generalizing depth rule input verdict with
  | zero => exact absurd result.symm (Verdict.result_ne_limit ⟨parser.limit, rfl⟩)
  | succ levels inductionHypothesis =>
      have nestedSettle : parser.AllSettle (derive parser levels (depth + 1)) :=
        fun rule cursor verdict nestedResult => inductionHypothesis nestedResult
      rw [derive_succ] at result
      rcases choice : (parser.firstMatch (derive parser levels (depth + 1)) depth input
        rule.tried).result with failure | _ | matched
      · simp only [choice] at result
        obtain ⟨absent, rfl, rfl⟩ := Verdict.eq_missingRule_of_result result.symm
        exact .missing (choiceVerdict_of_result nestedSettle choice)
      · simp only [choice] at result
        obtain rfl : verdict = .failure := Verdict.result_injective result.symm
        exact .noAlternative (choiceVerdict_of_result nestedSettle choice)
      · simp only [choice] at result
        have settles : (parser.firstMatch (derive parser levels (depth + 1)) depth input
            rule.tried).result = (Verdict.found matched).result := choice
        have choiceVerdict := choiceVerdict_of_result nestedSettle settles
        obtain ⟨chosen, _, matchesInput, _⟩ := firstMatch_eq_some choice
        have suffix : matched.rest <:+ input := matchSymbols_suffix matchesInput
        split at result
        case isTrue unproductive =>
          obtain rfl : verdict = .failure := Verdict.result_injective result.symm
          exact .unproductive choiceVerdict (suffix.eq_of_length unproductive.1) unproductive.2
        case isFalse productive =>
          obtain rfl : verdict = .found (Tree.ofRule rule.name matched.children, matched.rest) :=
            Verdict.result_injective result.symm
          refine .derived choiceVerdict ?_
          by_contra nothing
          rw [not_or, not_not, Bool.not_eq_true] at nothing
          exact productive ⟨congrArg List.length nothing.1, nothing.2⟩

/-! ## From verdicts to levels that suffice -/

/-- From some number of levels on, the symbols come to the verdict. -/
def SymbolsReached (parser : Parser) (symbols : List Symbol) (text : Text)
    (verdict : Verdict Matched) : Prop :=
  ∃ bound, ∀ levels, bound ≤ levels → ∀ depth alternative,
    (parser.matchSymbols (derive parser levels (depth + 1)) depth alternative symbols
      text).result = verdict.result

/-- From some number of levels on, the alternatives come to the verdict. -/
def ChoiceReached (parser : Parser) (outermost : Bool) (alternatives : List Alternative)
    (text : Text) (verdict : Verdict Matched) : Prop :=
  ∃ bound, ∀ levels, bound ≤ levels → ∀ depth, (depth == 0) = outermost →
    (parser.firstMatch (derive parser levels (depth + 1)) depth text alternatives).result =
      verdict.result

/-- From some number of levels on, the rule comes to the verdict. -/
def RuleReached (parser : Parser) (outermost : Bool) (rule : Rule) (text : Text)
    (verdict : Verdict (Tree × Text)) : Prop :=
  ∃ bound, ∀ levels, bound ≤ levels → ∀ depth, (depth == 0) = outermost →
    (derive parser levels depth rule text).result = verdict.result

namespace SymbolsReached

variable {symbol : Symbol} {symbols : List Symbol} {text rest : Text} {rule : Rule}
variable {child : Tree} {verdict : Verdict Matched}

theorem leaf
    (readsAs : parser.ReadsAs (Text.trimStart text) symbol (.leaf child rest))
    (others : parser.SymbolsReached symbols rest verdict) :
    parser.SymbolsReached (symbol :: symbols) text (verdict.map (Matched.cons child)) := by
  obtain ⟨bound, reaches⟩ := others
  refine ⟨bound, ?_⟩
  intro levels enough depth alternative
  rw [matchSymbols_cons, readsAs_iff.mp readsAs, Verdict.result_map]
  simp only [reaches levels enough depth alternative]

theorem nestedRule
    (readsAs : parser.ReadsAs (Text.trimStart text) symbol (.nested rule))
    (derived : parser.RuleReached false rule (Text.trimStart text) (.found (child, rest)))
    (others : parser.SymbolsReached symbols rest verdict) :
    parser.SymbolsReached (symbol :: symbols) text (verdict.map (Matched.cons child)) := by
  obtain ⟨ruleBound, ruleReaches⟩ := derived
  obtain ⟨othersBound, othersReach⟩ := others
  refine ⟨max ruleBound othersBound, ?_⟩
  intro levels enough depth alternative
  rw [matchSymbols_cons, readsAs_iff.mp readsAs, Verdict.result_map]
  simp only [ruleReaches levels (by omega) (depth + 1) rfl, Verdict.result,
    othersReach levels (by omega) depth alternative]

theorem nestedFailure
    (readsAs : parser.ReadsAs (Text.trimStart text) symbol (.nested rule))
    (fails : parser.RuleReached false rule (Text.trimStart text) .failure) :
    parser.SymbolsReached (symbol :: symbols) text .failure := by
  obtain ⟨bound, reaches⟩ := fails
  refine ⟨bound, ?_⟩
  intro levels enough depth alternative
  rw [matchSymbols_cons, readsAs_iff.mp readsAs]
  simp only [reaches levels enough (depth + 1) rfl, Verdict.result]

theorem nestedMissing {absent : Text}
    (readsAs : parser.ReadsAs (Text.trimStart text) symbol (.nested rule))
    (fails : parser.RuleReached false rule (Text.trimStart text) (.missingRule absent)) :
    parser.SymbolsReached (symbol :: symbols) text (.missingRule absent) := by
  obtain ⟨bound, reaches⟩ := fails
  refine ⟨bound, ?_⟩
  intro levels enough depth alternative
  rw [matchSymbols_cons, readsAs_iff.mp readsAs]
  simp only [reaches levels enough (depth + 1) rfl, Verdict.result]

theorem missing {absent : Text}
    (readsAs : parser.ReadsAs (Text.trimStart text) symbol (.missing absent)) :
    parser.SymbolsReached (symbol :: symbols) text (.missingRule absent) := by
  refine ⟨0, ?_⟩
  intro levels _ depth alternative
  rw [matchSymbols_cons, readsAs_iff.mp readsAs]
  rfl

theorem mismatch
    (readsAs : parser.ReadsAs (Text.trimStart text) symbol .mismatch) :
    parser.SymbolsReached (symbol :: symbols) text .failure := by
  refine ⟨0, ?_⟩
  intro levels _ depth alternative
  rw [matchSymbols_cons, readsAs_iff.mp readsAs]
  rfl

end SymbolsReached

namespace ChoiceReached

variable {outermost : Bool} {first : Alternative} {others : List Alternative} {text : Text}
variable {verdict : Verdict Matched} {matched : Matched}

theorem chosen (attempt : parser.SymbolsReached first.symbols text (.found matched))
    (complete : outermost = true → Text.isAllBlank matched.rest) :
    parser.ChoiceReached outermost (first :: others) text (.found matched) := by
  obtain ⟨bound, reaches⟩ := attempt
  refine ⟨bound, ?_⟩
  intro levels enough depth isOutermost
  have accepted : ¬ (depth = 0 ∧ ¬ Text.isAllBlank matched.rest) := by
    rintro ⟨rfl, left⟩
    exact left (complete isOutermost.symm)
  rw [firstMatch_cons]
  simp only [reaches levels enough depth first, Verdict.result, if_neg accepted]

theorem leftOver (attempt : parser.SymbolsReached first.symbols text (.found matched))
    (left : ¬ Text.isAllBlank matched.rest)
    (next : parser.ChoiceReached true others text verdict) :
    parser.ChoiceReached true (first :: others) text verdict := by
  obtain ⟨bound, reaches⟩ := attempt
  obtain ⟨nextBound, nextReaches⟩ := next
  refine ⟨max bound nextBound, ?_⟩
  intro levels enough depth isOutermost
  have rejected : depth = 0 ∧ ¬ Text.isAllBlank matched.rest :=
    ⟨beq_iff_eq.mp isOutermost, left⟩
  rw [firstMatch_cons]
  simp only [reaches levels (by omega) depth first, Verdict.result, if_pos rejected,
    nextReaches levels (by omega) depth isOutermost]

theorem failed (attempt : parser.SymbolsReached first.symbols text .failure)
    (next : parser.ChoiceReached outermost others text verdict) :
    parser.ChoiceReached outermost (first :: others) text verdict := by
  obtain ⟨bound, reaches⟩ := attempt
  obtain ⟨nextBound, nextReaches⟩ := next
  refine ⟨max bound nextBound, ?_⟩
  intro levels enough depth isOutermost
  rw [firstMatch_cons]
  simp only [reaches levels (by omega) depth first, Verdict.result,
    nextReaches levels (by omega) depth isOutermost]

theorem missing {absent : Text}
    (attempt : parser.SymbolsReached first.symbols text (.missingRule absent)) :
    parser.ChoiceReached outermost (first :: others) text (.missingRule absent) := by
  obtain ⟨bound, reaches⟩ := attempt
  refine ⟨bound, ?_⟩
  intro levels enough depth _
  rw [firstMatch_cons]
  simp only [reaches levels enough depth first, Verdict.result]

end ChoiceReached

theorem ChoiceReached.suffix {outermost : Bool} {alternatives : List Alternative} {text : Text}
    {matched : Matched}
    (choice : parser.ChoiceReached outermost alternatives text (.found matched)) :
    matched.rest <:+ text := by
  obtain ⟨bound, reaches⟩ := choice
  obtain ⟨depth, isOutermost⟩ : ∃ depth, (depth == 0) = outermost := by
    cases outermost
    · exact ⟨1, rfl⟩
    · exact ⟨0, rfl⟩
  obtain ⟨chosen, _, matchesInput, _⟩ :=
    firstMatch_eq_some (reaches bound (Nat.le_refl bound) depth isOutermost)
  exact matchSymbols_suffix matchesInput

/-- The verdict of a rule from that of its alternatives, one level up. -/
theorem ChoiceReached.rule {outermost : Bool} {rule : Rule} {text : Text}
    {choiceVerdict : Verdict Matched} {verdict : Verdict (Tree × Text)}
    (choice : parser.ChoiceReached outermost rule.tried text choiceVerdict)
    (concludes :
      (match choiceVerdict.result with
        | .error failure => .error failure
        | .ok none => .ok none
        | .ok (some matched) =>
            if matched.rest.length = text.length ∧ matched.readEpsilon = false then .ok none
            else .ok (some (Tree.ofRule rule.name matched.children, matched.rest))) =
        verdict.result) :
    parser.RuleReached outermost rule text verdict := by
  obtain ⟨bound, reaches⟩ := choice
  refine ⟨bound + 1, ?_⟩
  intro levels enough depth isOutermost
  obtain ⟨lower, rfl⟩ : ∃ lower, levels = lower + 1 := ⟨levels - 1, by omega⟩
  rw [derive_succ, reaches lower (by omega) depth isOutermost]
  exact concludes

mutual

theorem symbolsReached_of_verdict {symbols : List Symbol} {text : Text}
    {verdict : Verdict Matched} :
    SymbolsVerdict parser.grammar parser.partialInput symbols text verdict →
    parser.SymbolsReached symbols text verdict
  | .done text => ⟨0, fun _ _ _ _ => rfl⟩
  | .epsilon symbols text => ⟨0, fun _ _ _ _ => rfl⟩
  | .marker allowed holds others =>
      .leaf (.marker (marker?_eq_some.mpr ⟨allowed, holds⟩)) (symbolsReached_of_verdict others)
  | .missing unmarked undefined =>
      .missing (.missing (marker?_eq_none.mpr unmarked) undefined)
  | .nested unmarked defined derived others =>
      .nestedRule (.nested (marker?_eq_none.mpr unmarked) defined)
        (ruleReached_of_verdict derived) (symbolsReached_of_verdict others)
  | .nestedFailure unmarked defined fails =>
      .nestedFailure (.nested (marker?_eq_none.mpr unmarked) defined)
        (ruleReached_of_verdict fails)
  | .nestedMissing unmarked defined fails =>
      .nestedMissing (.nested (marker?_eq_none.mpr unmarked) defined)
        (ruleReached_of_verdict fails)
  | .text consumes others => .leaf (.text consumes) (symbolsReached_of_verdict others)
  | .mismatch readsText consumesNothing => .mismatch (.mismatch readsText consumesNothing)

theorem choiceReached_of_verdict {outermost : Bool} {alternatives : List Alternative}
    {text : Text} {verdict : Verdict Matched} :
    ChoiceVerdict parser.grammar parser.partialInput outermost alternatives text verdict →
    parser.ChoiceReached outermost alternatives text verdict
  | .exhausted outermost text => ⟨0, fun _ _ _ _ => rfl⟩
  | .chosen attempt complete => .chosen (symbolsReached_of_verdict attempt) complete
  | .leftOver attempt left next =>
      .leftOver (symbolsReached_of_verdict attempt) left (choiceReached_of_verdict next)
  | .failed attempt next =>
      .failed (symbolsReached_of_verdict attempt) (choiceReached_of_verdict next)
  | .missing attempt => .missing (symbolsReached_of_verdict attempt)

theorem ruleReached_of_verdict {outermost : Bool} {rule : Rule} {text : Text}
    {verdict : Verdict (Tree × Text)} :
    RuleVerdict parser.grammar parser.partialInput outermost rule text verdict →
    parser.RuleReached outermost rule text verdict
  | @RuleVerdict.derived _ _ _ _ _ matched choice productive => by
      have reached := choiceReached_of_verdict choice
      refine reached.rule (if_neg ?_)
      -- the rest is a suffix of the text, so its length alone tells it apart
      rintro ⟨sameLength, noEpsilon⟩
      rcases productive with shorter | epsilon
      · exact shorter (reached.suffix.eq_of_length sameLength)
      · simp [noEpsilon] at epsilon
  | .unproductive choice consumesNothing noEpsilon =>
      (choiceReached_of_verdict choice).rule
        (if_pos ⟨congrArg List.length consumesNothing, noEpsilon⟩)
  | .noAlternative choice => (choiceReached_of_verdict choice).rule rfl
  | .missing choice => (choiceReached_of_verdict choice).rule rfl

end

/-- The bound on the levels, taken as the limit, makes the search come to the
verdict. -/
theorem RuleReached.exists_limit {rule : Rule} {input : Text} {verdict : Verdict (Tree × Text)}
    (reached : parser.RuleReached true rule input verdict) :
    ∃ limit, (derive (parser.withLimit limit) (limit + 1) 0 rule input).result =
      verdict.result := by
  obtain ⟨bound, reaches⟩ := reached
  have derived : (derive parser (bound + 1) 0 rule input).result = verdict.result :=
    reaches (bound + 1) (by omega) 0 rfl
  have agrees :
      Agrees Defect.IsLimit (derive parser (bound + 1) 0 rule input).result
        (derive (parser.withLimit bound) (bound + 1) 0 rule input).result :=
    derive_agrees (Nat.le_refl _) bound (.refl rule) input
  have notLimit : ∀ failure, failure.IsLimit →
      (derive parser (bound + 1) 0 rule input).result ≠ .error failure := by
    intro failure isLimit
    rw [derived]
    exact Verdict.result_ne_limit isLimit
  exact ⟨bound, (agrees.eq_of_not_excused notLimit).trans derived⟩

/-- A verdict has a derivation exactly if some limit makes the search come to
it. -/
theorem startVerdict_iff_exists_limit (parser : Parser) (input : Text)
    (verdict : Verdict Tree) :
    StartVerdict parser.grammar parser.partialInput parser.start input verdict ↔
      ∃ limit, ((parser.withLimit limit).tryParse input).result = verdict.result := by
  constructor
  · rintro ⟨settled, derivation, rfl⟩
    obtain ⟨limit, derived⟩ := (ruleReached_of_verdict derivation).exists_limit
    refine ⟨limit, ?_⟩
    rw [tryParse_result, Verdict.result_map, ← derived]
    rfl
  · rintro ⟨limit, result⟩
    rw [tryParse_result] at result
    obtain ⟨settled, settledResult, rfl⟩ := Verdict.map_eq_result result
    exact ⟨settled, ruleVerdict_of_result settledResult, rfl⟩

end Parser

end BnfParsing
