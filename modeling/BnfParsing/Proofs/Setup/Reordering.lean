import BnfParsing.Proofs.Setup.Build
import BnfParsing.Proofs.Setup.Steps

/-!
Contract: the settings of a parser do not depend on when they are made.

Each step concerns either the sources, with the options they are read under, or
one setting. Steps may change places with steps of other concerns: neither the
setup nor the parser shows it.

Owns:
- what a step concerns, and steps in another order;
- the start rule, the limit and the sources of a parser in terms of its steps;
- rules that were added before a change of the options.

Does not own: what a step does.
-/

set_option autoImplicit false

namespace BnfParsing.Setup

/-! ## Steps in another order -/

/-- What a step is about. Options belong to the sources, since they only apply to
those behind them. -/
inductive Concern where
  | sources
  | start
  | limit
  | partialInput
  | level
deriving DecidableEq

def Step.concern : Step → Concern
  | .start _ => .start
  | .limit _ => .limit
  | .partialInput _ => .partialInput
  | .level _ => .level
  | _ => .sources

/-- The same steps, those of each concern in the same order. -/
structure Reordering (first second : List Step) : Prop where
  perm : first.Perm second
  keepsOrder : ∀ concern, first.filter (·.concern = concern) = second.filter (·.concern = concern)

variable {setup : Setup} {first second : List Step} {step change : Step}

/-- Every step has a concern, so steps of each concern in the same order are the
same steps. -/
theorem Reordering.of_filter (sameOrder : ∀ concern : Concern,
    first.filter (·.concern = concern) = second.filter (·.concern = concern)) :
    Reordering first second := by
  classical
  refine ⟨List.perm_iff_count.mpr fun step => ?_, sameOrder⟩
  have counted : ∀ steps : List Step,
      (steps.filter (·.concern = step.concern)).count step = steps.count step := by
    intro steps
    exact List.count_filter (by simp)
  rw [← counted first, sameOrder, counted second]

theorem edits_of_concern_ne (options : CompileOptions) (other : step.concern ≠ .sources) :
    step.edits options = .ok [] ∧ step.optionsAfter options = options := by
  cases step with
  | start name => exact ⟨rfl, rfl⟩
  | limit levels => exact ⟨rfl, rfl⟩
  | partialInput allowed => exact ⟨rfl, rfl⟩
  | level wanted => exact ⟨rfl, rfl⟩
  | _ => exact absurd rfl other

theorem editsOf_filter (options : CompileOptions) (steps : List Step) :
    editsOf options (steps.filter (·.concern = .sources)) = editsOf options steps := by
  induction steps generalizing options with
  | nil => rfl
  | cons step steps inductionHypothesis =>
      by_cases about : step.concern = .sources
      · rw [List.filter_cons_of_pos (by simpa using about), editsOf, editsOf, inductionHypothesis]
      · obtain ⟨noEdits, sameOptions⟩ := edits_of_concern_ne options about
        rw [List.filter_cons_of_neg (by simpa using about), inductionHypothesis, editsOf, noEdits,
          sameOptions]
        show _ = (do
          let more ← editsOf options steps
          return [] ++ more)
        cases editsOf options steps <;> rfl

theorem foldl_optionsAfter_filter (options : CompileOptions) (steps : List Step) :
    (steps.filter (·.concern = .sources)).foldl Step.optionsAfter options =
      steps.foldl Step.optionsAfter options := by
  induction steps generalizing options with
  | nil => rfl
  | cons step steps inductionHypothesis =>
      by_cases about : step.concern = .sources
      · rw [List.filter_cons_of_pos (by simpa using about), List.foldl_cons, List.foldl_cons,
          inductionHypothesis]
      · rw [List.filter_cons_of_neg (by simpa using about), List.foldl_cons, inductionHypothesis,
          (edits_of_concern_ne options about).2]

theorem lastSet_filter {α : Type} {value? : Step → Option α} {concern : Concern}
    (sets : ∀ step, step.concern ≠ concern → value? step = none) (steps : List Step) :
    lastSet value? (steps.filter (·.concern = concern)) = lastSet value? steps := by
  have ignored : (fun step : Step => if decide (step.concern = concern) then value? step else none) =
      value? := by
    funext step
    by_cases about : step.concern = concern
    · simp [about]
    · simp [about, sets step about]
  unfold lastSet
  rw [List.filterMap_filter, ignored]

theorem settings_of_concern_ne (step : Step) :
    (step.concern ≠ .start → step.start? = none) ∧
      (step.concern ≠ .limit → step.limit? = none) ∧
      (step.concern ≠ .partialInput → step.partialInput? = none) ∧
      (step.concern ≠ .level → step.level? = none) := by
  cases step <;> simp [Step.concern, Step.start?, Step.limit?, Step.partialInput?, Step.level?]

namespace Reordering

theorem editsOf_eq (reordering : Reordering first second) (options : CompileOptions) :
    editsOf options second = editsOf options first := by
  rw [← editsOf_filter, ← reordering.keepsOrder, editsOf_filter]

theorem lastSet_eq {α : Type} {value? : Step → Option α} {concern : Concern}
    (reordering : Reordering first second)
    (sets : ∀ step, step.concern ≠ concern → value? step = none) :
    lastSet value? second = lastSet value? first := by
  rw [← lastSet_filter sets, ← reordering.keepsOrder, lastSet_filter sets]

theorem applyAll_eq (reordering : Reordering first second) (setup : Setup) :
    setup.applyAll second = setup.applyAll first := by
  have sameOptions : second.foldl Step.optionsAfter setup.options =
      first.foldl Step.optionsAfter setup.options := by
    rw [← foldl_optionsAfter_filter, ← reordering.keepsOrder, foldl_optionsAfter_filter]
  funext edits
  unfold applyAll
  rw [sameOptions, reordering.lastSet_eq fun step => (settings_of_concern_ne step).1,
    reordering.lastSet_eq fun step => (settings_of_concern_ne step).2.1,
    reordering.lastSet_eq fun step => (settings_of_concern_ne step).2.2.1,
    reordering.lastSet_eq fun step => (settings_of_concern_ne step).2.2.2]

theorem performAll_eq (reordering : Reordering first second) (setup : Setup) :
    setup.performAll second = setup.performAll first := by
  rw [Setup.performAll_eq, Setup.performAll_eq, reordering.editsOf_eq, reordering.applyAll_eq]

end Reordering

/-! ## The parser in terms of its steps -/

/-- The name of the start rule: the chosen one, provided that it is among those
that are added, or else the first one that is added. -/
def startName (chosen : Option Text) (added : List Text) : Except Failure Text :=
  match chosen with
  | some name => if name ∈ added then .ok name else .error (.unknownStartRule name)
  | none =>
      match added.head? with
      | some name => .ok name
      | none => .error .noStartRule

theorem startName_build_of_replays {placements : List Placement}
    (replays : setup.grammar.Replays placements) :
    setup.build.map (fun parser => parser.start.name) =
      startName setup.start (Placement.definedNames placements) := by
  rw [startName_build]
  unfold startRule? startFailure startName
  cases setup.start with
  | none =>
      have first := replays.head?_names
      rw [Grammar.names, List.head?_map] at first
      cases added : (Placement.definedNames placements).head? with
      | none =>
          rw [added] at first
          simp [first]
      | some name =>
          rw [added] at first
          simp [first]
  | some name =>
      cases found : setup.grammar.rule? name with
      | none =>
          have notAdded : name ∉ Placement.definedNames placements := by
            rw [← replays.defines_iff, ← Grammar.rule?_eq_none]
            exact found
          simp [found, notAdded]
      | some rule =>
          obtain ⟨member, rfl⟩ := Grammar.rule?_eq_some found
          have added : rule.name ∈ Placement.definedNames placements :=
            replays.defines_iff.mp ⟨rule, member, rfl⟩
          simp [found, added]

/-- The names of the rules that changes add, as often as they add them. -/
def addedNames (edits : List Grammar.Edit) : List Text :=
  Placement.definedNames (edits.flatMap Grammar.Edit.placements)

/-! ## Changes of the options -/

/-- A step that sets an option for the sources behind it. -/
inductive Step.SetsOption : Step → Prop where
  | stickyRules (honoured : Bool) : SetsOption (.stickyRules honoured)
  | caseSensitive (sensitive : Bool) : SetsOption (.caseSensitive sensitive)

theorem exists_perform_of_setsOption (sets : change.SetsOption) (setup : Setup) :
    ∃ options, setup.perform change = .ok ({ setup with options := options }, []) := by
  cases sets with
  | stickyRules honoured => exact ⟨_, rfl⟩
  | caseSensitive sensitive => exact ⟨_, rfl⟩

/-- Settings commute with everything that they are independent of. Steps in another
order build the same parser or fail alike. The start rule is the last chosen one,
wherever its rule is added, or else the first rule; the limit is the last one that is
not zero, or else fifty. A change of the options leaves the rules before it alone. -/
theorem reordered_steps_build_alike :
    (∀ (setup : Setup) (first second : List Step), Reordering first second →
      setup.performAll second = setup.performAll first ∧
      ∀ firstFinal secondFinal, setup.performAll first = .ok firstFinal →
        setup.performAll second = .ok secondFinal → secondFinal.build = firstFinal.build) ∧
    (∀ (steps : List Step) (final : Setup), ({} : Setup).performAll steps = .ok final →
      ∃ edits, editsOf {} steps = .ok edits ∧
        final.build.map (fun parser => parser.start.name) =
          startName (lastSet Step.start? steps) (addedNames edits) ∧
        ∀ parser, final.build = .ok parser →
          parser.grammar = Grammar.empty.run edits ∧
          parser.grammar.rule? parser.start.name = some parser.start ∧
          parser.limit = (lastSet Step.limit? steps).getD 50 ∧
          parser.partialInput = (lastSet Step.partialInput? steps).getD false) ∧
    ∀ (setup final : Setup) (before : List Step) (change : Step) (after : List Step),
      change.SetsOption → setup.performAll (before ++ change :: after) = .ok final →
      ∃ middle changed edits, setup.performAll before = .ok middle ∧
        middle.perform change = .ok (changed, []) ∧ changed.grammar = middle.grammar ∧
        editsOf changed.options after = .ok edits ∧ final.grammar = middle.grammar.run edits ∧
        ∀ rule ∈ middle.grammar.rules, ∃ kept, final.grammar.rule? rule.name = some kept ∧
          rule.alternatives.Sublist kept.alternatives := by
  refine ⟨?_, ?_, ?_⟩
  · intro setup first second reordering
    have same := reordering.performAll_eq setup
    refine ⟨same, ?_⟩
    intro firstFinal secondFinal firstPerformed secondPerformed
    rw [same, firstPerformed] at secondPerformed
    cases secondPerformed
    rfl
  · intro steps final performed
    -- The start rule is looked up in the final grammar, so all additions count for it.
    obtain ⟨edits, planned, rfl⟩ := performAll_eq_ok_iff.mp performed
    have replays : (Grammar.empty.run edits).Replays (edits.flatMap Grammar.Edit.placements) :=
      Grammar.replays_run [] edits
    refine ⟨edits, planned, ?_, ?_⟩
    · rw [startName_build_of_replays replays]
      show startName ((lastSet Step.start? steps).or none) _ = _
      rw [Option.or_none, addedNames]
    · intro parser built
      have builtFrom := builtFrom_of_build built
      exact ⟨builtFrom.grammar_eq, Grammar.rule?_of_mem parser.start_mem, builtFrom.limit_eq,
        builtFrom.partialInput_eq⟩
  · intro setup final before change after sets performed
    obtain ⟨middle, done, rest⟩ := performAll_append_eq_ok_iff.mp performed
    obtain ⟨options, changed⟩ := exists_perform_of_setsOption sets middle
    rw [performAll, changed] at rest
    -- Behind the change, the grammar is only edited, and no edit takes an alternative away.
    obtain ⟨edits, planned, rfl⟩ := performAll_eq_ok_iff.mp rest
    refine ⟨middle, _, edits, done, changed, rfl, planned, rfl, ?_⟩
    intro rule member
    exact Grammar.exists_rule?_run member edits

/-- A start rule that is chosen before it is there, a limit that is set twice, and a
double bar before and behind the option to honour it. -/
def letterSteps : List Step :=
  [.start "<t>".toList, .addText "<s> := a || b".toList, .limit 7, .stickyRules true,
    .addLine "<t> := a || b".toList, .limit 0, .partialInput true]

def reorderedLetterSteps : List Step :=
  [.limit 7, .partialInput true, .addText "<s> := a || b".toList, .stickyRules true, .limit 0,
    .addLine "<t> := a || b".toList, .start "<t>".toList]

/-- An alternative with a double bar that is not honoured. -/
def plainBars : Alternative :=
  { symbols := [.terminal ['a'] true, .terminal "||".toList true, .terminal ['b'] true] }

def letterEdits : List Grammar.Edit :=
  [.extend [⟨"<s>".toList, [plainBars]⟩],
    .add ⟨"<t>".toList,
      [{ symbols := [.terminal ['a'] true] },
        { symbols := [.terminal ['b'] true], tryLast := true }]⟩]

theorem reordered_letters_build_alike :
    Reordering letterSteps reorderedLetterSteps ∧
    ∃ final, ({} : Setup).performAll letterSteps = .ok final ∧
      ({} : Setup).performAll reorderedLetterSteps = .ok final ∧
      final.build.map (fun parser => parser.start.name) = .ok "<t>".toList ∧
      (∀ parser, final.build = .ok parser → parser.limit = 7 ∧ parser.partialInput = true) ∧
      ∃ kept, final.grammar.rule? "<s>".toList = some kept ∧
        [plainBars].Sublist kept.alternatives := by
  have reordering : Reordering letterSteps reorderedLetterSteps := by
    apply Reordering.of_filter
    intro concern
    cases concern <;> rfl
  have performed : ({} : Setup).performAll letterSteps =
      .ok (({} : Setup).applyAll letterSteps letterEdits) := by decide
  obtain ⟨sameSetup, fromSteps, optionChange⟩ := reordered_steps_build_alike
  obtain ⟨same, -⟩ := sameSetup {} _ _ reordering
  obtain ⟨edits, planned, startName, settings⟩ := fromSteps _ _ performed
  have plannedEdits : editsOf {} letterSteps = .ok letterEdits := by decide
  rw [plannedEdits] at planned
  cases planned
  refine ⟨reordering, _, performed, same.trans performed, startName.trans (by decide), ?_, ?_⟩
  · intro parser built
    obtain ⟨-, -, limit, partialInput⟩ := settings parser built
    exact ⟨limit, partialInput⟩
  · obtain ⟨middle, changed, edits, done, -, -, -, -, kept⟩ :=
      optionChange {} _ (letterSteps.take 3) (.stickyRules true) (letterSteps.drop 4)
        (.stickyRules true) performed
    cases done
    exact kept _ List.mem_cons_self

end BnfParsing.Setup
