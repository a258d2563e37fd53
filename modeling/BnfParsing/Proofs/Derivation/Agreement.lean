import BnfParsing.Proofs.Derivation.Choice
import BnfParsing.Proofs.Derivation.Coverage
import BnfParsing.Proofs.Grammar.References

/-!
Contract: two searches side by side, over parsers that read symbols alike.

The searches may go through two grammars. What they need is a relation between
the rules of both: related rules come to the same choice, and at every place of
the text their symbols are read alike, where going on with nested rules means
going on with related ones.

Owns: agreement of results up to excused defects of the first search, and its
way from nested rules through symbols and alternatives to whole derivations.

Does not own: why two searches read symbols alike.
-/

set_option autoImplicit false

namespace BnfParsing

/-- The second result is the first one, unless the first is an excused defect. -/
def Agrees {α : Type} (excused : Defect → Prop) (first second : Except Defect α) : Prop :=
  (∃ failure, excused failure ∧ first = .error failure) ∨ second = first

namespace Agrees

variable {α β : Type} {excused : Defect → Prop} {first second : Except Defect α}

theorem refl (result : Except Defect α) : Agrees excused result result := .inr rfl

theorem map (change : α → β) (agrees : Agrees excused first second) :
    Agrees excused (first.map change) (second.map change) := by
  rcases agrees with ⟨failure, isExcused, rfl⟩ | rfl
  · exact .inl ⟨failure, isExcused, rfl⟩
  · exact .inr rfl

theorem eq_of_not_excused (agrees : Agrees excused first second)
    (notExcused : ∀ failure, excused failure → first ≠ .error failure) : second = first := by
  rcases agrees with ⟨failure, isExcused, failed⟩ | same
  · exact absurd failed (notExcused failure isExcused)
  · exact same

/-- If nothing is excused, agreement is equality. -/
theorem eq (agrees : Agrees (fun _ => False) first second) : second = first :=
  agrees.eq_of_not_excused fun _ isExcused => isExcused.elim

end Agrees

namespace Parser

variable {parser other : Parser} {excused : Defect → Prop} {related : Rule → Rule → Prop}
variable {nested otherNested : Rule → Text → Traced (Option (Tree × Text))}
variable {depth otherDepth : Nat} {alternative otherAlternative : Alternative} {whole : Text}

/-- Two readings that go on alike, unless the first is an excused defect. -/
inductive SameReading (excused : Defect → Prop) (related : Rule → Rule → Prop) :
    Reading → Reading → Prop where
  | settled (reading : Reading) (unnested : ∀ rule, reading ≠ .nested rule) :
      SameReading excused related reading reading
  | nested {rule otherRule : Rule} (isRelated : related rule otherRule) :
      SameReading excused related (.nested rule) (.nested otherRule)
  | excused {name : Text} (isExcused : excused (.missingRule name)) (reading : Reading) :
      SameReading excused related (.missing name) reading

/-- Two parsers read a symbol alike at every place of a text. -/
def ReadsAlike (excused : Defect → Prop) (related : Rule → Rule → Prop) (whole : Text)
    (parser other : Parser) (symbol : Symbol) : Prop :=
  ∀ cursor, cursor <:+ whole →
    SameReading excused related (parser.reading cursor symbol) (other.reading cursor symbol)

theorem readsAlike_of_readsText {symbol : Symbol} (readsText : symbol.ReadsText) :
    ReadsAlike excused related whole parser other symbol := by
  intro cursor _
  rw [reading_of_readsText readsText, reading_of_readsText readsText]
  exact .settled _ (by split <;> simp)

/-- References are read alike if those that the text does not hold literally are. -/
theorem readsAlike_nonTerminal {name : Text}
    (sameMarker : ∀ cursor, cursor <:+ whole → other.marker? name cursor =
      parser.marker? name cursor)
    (defined : ∀ rule, parser.grammar.rule? name = some rule →
      ∃ otherRule, other.grammar.rule? name = some otherRule ∧ related rule otherRule)
    (undefined : parser.grammar.rule? name = none →
      excused (.missingRule name) ∨ other.grammar.rule? name = none) :
    ReadsAlike excused related whole parser other (.nonTerminal name) := by
  intro cursor within
  simp only [reading, sameMarker cursor within]
  cases parser.marker? name cursor with
  | some rest => exact .settled _ (by simp)
  | none =>
      cases found : parser.grammar.rule? name with
      | some rule =>
          obtain ⟨otherRule, otherFound, isRelated⟩ := defined rule found
          simp only [otherFound]
          exact .nested isRelated
      | none =>
          rcases undefined found with isExcused | otherUndefined
          · exact .excused isExcused _
          · simp only [otherUndefined]
            exact .settled _ (by simp)

/-- Over related rules every symbol is read alike, if a name without a rule is excused
or has none in the second grammar either. -/
theorem readsAlike_of_rules (samePartial : other.partialInput = parser.partialInput)
    (defined : ∀ name rule, parser.grammar.rule? name = some rule →
      ∃ otherRule, other.grammar.rule? name = some otherRule ∧ related rule otherRule)
    (undefined : ∀ name, parser.grammar.rule? name = none →
      excused (.missingRule name) ∨ other.grammar.rule? name = none) (symbol : Symbol) :
    ReadsAlike excused related whole parser other symbol := by
  rcases symbol.role with rfl | ⟨name, rfl⟩ | readsText
  · exact fun _ _ => .settled .complete (by simp)
  · refine readsAlike_nonTerminal (fun cursor _ => ?_) (defined name) (undefined name)
    rw [marker?, marker?, samePartial]
  · exact readsAlike_of_readsText readsText

/-- A relation between rules that two searches over a text keep. -/
structure Simulates (excused : Defect → Prop) (related : Rule → Rule → Prop) (whole : Text)
    (parser other : Parser) : Prop where
  sameChoice : ∀ {rule otherRule}, related rule otherRule → rule.SameChoice otherRule
  readsAlike : ∀ {rule otherRule}, related rule otherRule →
    ∀ alternative ∈ rule.alternatives, ∀ symbol ∈ alternative.symbols,
      ReadsAlike excused related whole parser other symbol

/-- Parsers simulate each other if every rule of the first grammar has its like in
the second, and a name without a rule is excused or has none there either. -/
theorem simulates_of_rules (samePartial : other.partialInput = parser.partialInput)
    (defined : ∀ name rule, parser.grammar.rule? name = some rule →
      ∃ otherRule, other.grammar.rule? name = some otherRule ∧ rule.SameChoice otherRule)
    (undefined : ∀ name, parser.grammar.rule? name = none →
      excused (.missingRule name) ∨ other.grammar.rule? name = none) :
    Simulates excused Rule.SameChoice whole parser other :=
  ⟨id, fun _ _ _ symbol _ => readsAlike_of_rules samePartial defined undefined symbol⟩

/-- Nested rules that are related come to agreeing results within the text. -/
def NestedAgree (excused : Defect → Prop) (related : Rule → Rule → Prop) (whole : Text)
    (nested otherNested : Rule → Text → Traced (Option (Tree × Text))) : Prop :=
  ∀ rule otherRule cursor, related rule otherRule → cursor <:+ whole →
    Agrees excused (nested rule cursor).result (otherNested otherRule cursor).result

theorem matchSymbols_agrees (nestedCovers : AllCover nested)
    (nestedAgree : NestedAgree excused related whole nested otherNested)
    {symbols : List Symbol}
    (alike : ∀ symbol ∈ symbols, ReadsAlike excused related whole parser other symbol)
    {text : Text} (within : text <:+ whole) :
    Agrees excused
      (parser.matchSymbols nested depth alternative symbols text).result
      (other.matchSymbols otherNested otherDepth otherAlternative symbols text).result := by
  induction symbols generalizing text with
  | nil => exact .refl _
  | cons symbol symbols inductionHypothesis =>
      rw [List.forall_mem_cons] at alike
      have trimmedWithin : Text.trimStart text <:+ whole :=
        (List.dropWhile_suffix _).trans within
      have behind : ∀ {child rest},
          parser.Reads nested (Text.trimStart text) symbol child rest →
          Agrees excused
            (parser.matchSymbols nested depth alternative symbols rest).result
            (other.matchSymbols otherNested otherDepth otherAlternative symbols rest).result :=
        fun reads => inductionHypothesis alike.2
          ((reads.covers nestedCovers).suffix.trans trimmedWithin)
      rw [matchSymbols_cons, matchSymbols_cons]
      have sameReading := alike.1 (Text.trimStart text) trimmedWithin
      generalize read : parser.reading (Text.trimStart text) symbol = reading at sameReading ⊢
      generalize other.reading (Text.trimStart text) symbol = otherReading at sameReading ⊢
      cases sameReading with
      | settled reading unnested =>
          cases reading with
          | complete => exact .refl _
          | leaf child rest => exact (behind (reads_of_reading_leaf read)).map _
          | nested rule => exact absurd rfl (unnested rule)
          | missing name => exact .refl _
          | mismatch => exact .refl _
      | @nested rule otherRule isRelated =>
          -- a nested rule that agrees is followed by symbols that agree
          rcases nestedAgree rule otherRule (Text.trimStart text) isRelated trimmedWithin with
            ⟨failure, isExcused, failed⟩ | same
          · simp only [failed]
            exact .inl ⟨failure, isExcused, rfl⟩
          · simp only [same]
            rcases derived : (nested rule (Text.trimStart text)).result
              with failure | _ | ⟨child, rest⟩
            · exact .refl _
            · exact .refl _
            · exact (behind (reads_of_reading_nested read derived)).map _
      | excused isExcused => exact .inl ⟨_, isExcused, rfl⟩

theorem firstMatch_agrees (nestedCovers : AllCover nested)
    (nestedAgree : NestedAgree excused related whole nested otherNested)
    (sameOutermost : depth = 0 ↔ otherDepth = 0) {alternatives : List Alternative}
    (alike : ∀ alternative ∈ alternatives, ∀ symbol ∈ alternative.symbols,
      ReadsAlike excused related whole parser other symbol)
    {input : Text} (within : input <:+ whole) :
    Agrees excused (parser.firstMatch nested depth input alternatives).result
      (other.firstMatch otherNested otherDepth input alternatives).result := by
  induction alternatives with
  | nil => exact .refl _
  | cons first others inductionHypothesis =>
      rw [List.forall_mem_cons] at alike
      have othersAgree := inductionHypothesis alike.2
      have attempts :
          Agrees excused
            (parser.matchSymbols nested depth first first.symbols input).result
            (other.matchSymbols otherNested otherDepth first first.symbols input).result :=
        matchSymbols_agrees nestedCovers nestedAgree alike.1 within
      rw [firstMatch_cons, firstMatch_cons]
      rcases attempts with ⟨failure, isExcused, failed⟩ | same
      · simp only [failed]
        exact .inl ⟨failure, isExcused, rfl⟩
      · simp only [same, ← sameOutermost]
        rcases (parser.matchSymbols nested depth first first.symbols input).result
          with failure | _ | matched
        · exact .refl _
        · exact othersAgree
        · simp only
          split
          · exact othersAgree
          · exact .refl _

/-- Rules that come to the same choice at the depth of the second search derive alike,
if the rules nested in them do. -/
theorem derive_succ_agrees_of_sameChoiceAt {levels otherLevels : Nat}
    (nestedAgree : NestedAgree excused related whole (derive parser levels (depth + 1))
      (derive other otherLevels (otherDepth + 1)))
    (sameOutermost : depth = 0 ↔ otherDepth = 0) {rule otherRule : Rule}
    (sameChoice : Rule.SameChoiceAt otherDepth rule otherRule)
    (alike : ∀ alternative ∈ rule.alternatives, ∀ symbol ∈ alternative.symbols,
      ReadsAlike excused related whole parser other symbol)
    {input : Text} (within : input <:+ whole) :
    Agrees excused (derive parser (levels + 1) depth rule input).result
      (derive other (otherLevels + 1) otherDepth otherRule input).result := by
  have choices :
      Agrees excused
        (parser.firstMatch (derive parser levels (depth + 1)) depth input rule.tried).result
        (other.firstMatch (derive other otherLevels (otherDepth + 1)) otherDepth input
          rule.tried).result :=
    firstMatch_agrees (derive_allCover levels) nestedAgree sameOutermost
      (fun alternative member => alike alternative (Rule.mem_tried.mp member)) within
  rw [derive_succ, derive_succ, sameChoice.name_eq, sameChoice.choice_eq]
  rcases choices with ⟨failure, isExcused, failed⟩ | same
  · simp only [failed]
    exact .inl ⟨failure, isExcused, rfl⟩
  · simp only [same]
    exact .refl _

theorem derive_succ_agrees {levels otherLevels : Nat}
    (simulates : Simulates excused related whole parser other)
    (nestedAgree : NestedAgree excused related whole (derive parser levels (depth + 1))
      (derive other otherLevels (otherDepth + 1)))
    (sameOutermost : depth = 0 ↔ otherDepth = 0) {rule otherRule : Rule}
    (isRelated : related rule otherRule) {input : Text} (within : input <:+ whole) :
    Agrees excused (derive parser (levels + 1) depth rule input).result
      (derive other (otherLevels + 1) otherDepth otherRule input).result :=
  derive_succ_agrees_of_sameChoiceAt nestedAgree sameOutermost
    ((simulates.sameChoice isRelated).sameChoiceAt otherDepth)
    (simulates.readsAlike isRelated) within

/-- Parsers that simulate each other derive alike, within the same number of
levels. -/
theorem derive_agrees_of_simulates (simulates : Simulates excused related whole parser other)
    (sameLimit : other.limit = parser.limit) (levels : Nat) {rule otherRule : Rule}
    (isRelated : related rule otherRule) {input : Text} (within : input <:+ whole) :
    Agrees excused (derive parser levels depth rule input).result
      (derive other levels depth otherRule input).result := by
  induction levels generalizing depth rule otherRule input with
  | zero =>
      rw [derive_zero, derive_zero, sameLimit]
      exact .refl _
  | succ levels inductionHypothesis =>
      exact derive_succ_agrees simulates
        (fun _ _ _ nestedRelated nestedWithin => inductionHypothesis nestedRelated nestedWithin)
        Iff.rfl isRelated within

theorem tryParse_agrees_of_simulates {input : Text}
    (simulates : Simulates excused related input parser other)
    (sameLimit : other.limit = parser.limit) (startRelated : related parser.start other.start) :
    Agrees excused (parser.tryParse input).result (other.tryParse input).result := by
  rw [tryParse_result, tryParse_result, sameLimit]
  exact (derive_agrees_of_simulates simulates sameLimit _ startRelated
    (List.suffix_refl input)).map _

/-- Parsers over grammars with rules of the same choice come to agreeing results if
they start from rules of one name. -/
theorem tryParse_agrees_of_rules (samePartial : other.partialInput = parser.partialInput)
    (sameLimit : other.limit = parser.limit) (sameStart : other.start.name = parser.start.name)
    (defined : ∀ name rule, parser.grammar.rule? name = some rule →
      ∃ otherRule, other.grammar.rule? name = some otherRule ∧ rule.SameChoice otherRule)
    (undefined : ∀ name, parser.grammar.rule? name = none →
      excused (.missingRule name) ∨ other.grammar.rule? name = none) (input : Text) :
    Agrees excused (parser.tryParse input).result (other.tryParse input).result := by
  refine tryParse_agrees_of_simulates (simulates_of_rules samePartial defined undefined)
    sameLimit ?_
  obtain ⟨otherRule, otherFound, sameChoice⟩ :=
    defined _ _ (Grammar.rule?_of_mem parser.start_mem)
  rw [← sameStart, Grammar.rule?_of_mem other.start_mem, Option.some.injEq] at otherFound
  exact otherFound ▸ sameChoice

/-- If the rules correspond to each other one by one, the results are the same. -/
theorem tryParse_eq_of_rules (samePartial : other.partialInput = parser.partialInput)
    (sameLimit : other.limit = parser.limit) (sameStart : other.start.name = parser.start.name)
    (defined : ∀ name rule, parser.grammar.rule? name = some rule →
      ∃ otherRule, other.grammar.rule? name = some otherRule ∧ rule.SameChoice otherRule)
    (undefined : ∀ name, parser.grammar.rule? name = none → other.grammar.rule? name = none)
    (input : Text) :
    (other.tryParse input).result = (parser.tryParse input).result :=
  Agrees.eq <| tryParse_agrees_of_rules samePartial sameLimit sameStart defined
    (fun name missing => .inr (undefined name missing)) input

end Parser

end BnfParsing
