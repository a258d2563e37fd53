import BnfParsing.Proofs.Grammar.Editing
import BnfParsing.Proofs.Traversal
import BnfParsing.Setup

/-!
Contract: what the steps of a setup do to each of its parts.

A step changes the grammar, the options for later sources, or one setting, and
nothing else. So the parts of a setup can be followed one by one: the grammar is
edited, the options are replaced, and each setting is the last one that was made.

Owns:
- the changes of the grammar that a step makes, which depend on the options alone;
- the setting that a step makes;
- a setup after one step and after several, part by part.

Does not own: the parser that a setup is built into.
-/

set_option autoImplicit false

namespace BnfParsing.Setup

namespace Step

/-- The changes of a grammar that a step makes under options. -/
def edits (options : CompileOptions) : Step → Except Failure (List Grammar.Edit)
  | .addText text => ((Source.rules options text).mapError .invalidRule).map ([.extend ·])
  | .addBytes bytes =>
      match Source.decode? bytes with
      | some text => ((Source.rules options text).mapError .invalidRule).map ([.extend ·])
      | none => .error (.unreadable Failure.notUtf8)
  | .addLine line =>
      ((Compile.rule options (Text.trim line)).mapError .invalidRule).map ([.add ·])
  | .addRule rule => .ok [.add rule]
  | .addRules rules => .ok [.extend rules]
  | .insertRule position rule => .ok [.insert position rule]
  | .addCase name case =>
      ((Compile.alternative options case).mapError .invalidRule).map ([.addCase 0 name ·])
  | .insertCase position name case =>
      ((Compile.alternative options case).mapError .invalidRule).map ([.addCase position name ·])
  | _ => .ok []

/-- The options for the sources behind a step. -/
def optionsAfter (options : CompileOptions) : Step → CompileOptions
  | .stickyRules honoured => { options with stickyRules := honoured }
  | .caseSensitive sensitive => { options with caseSensitive := sensitive }
  | _ => options

/-- The choice of a start rule. -/
def start? : Step → Option Text
  | .start name => some name
  | _ => none

/-- The limit that a step sets. Zero is none. -/
def limit? : Step → Option Nat
  | .limit levels => if levels = 0 then none else some levels
  | _ => none

def partialInput? : Step → Option Bool
  | .partialInput allowed => some allowed
  | _ => none

def level? : Step → Option LogLevel
  | .level wanted => some wanted
  | _ => none

/-- The setup with the changes of its grammar and the settings of a step. -/
def applyTo (step : Step) (setup : Setup) (edits : List Grammar.Edit) : Setup :=
  { grammar := setup.grammar.run edits
    start := step.start?.or setup.start
    limit := step.limit?.getD setup.limit
    partialInput := step.partialInput?.getD setup.partialInput
    options := step.optionsAfter setup.options
    level := step.level?.getD setup.level }

end Step

theorem insertCase_eq (setup : Setup) (position : Nat) (name case : Text) :
    (setup.insertCase position name case).map Prod.fst =
      ((Compile.alternative setup.options case).mapError .invalidRule).map fun alternative =>
        { setup with grammar := (setup.grammar.addCase position name alternative).1 } := by
  unfold insertCase
  cases Compile.alternative setup.options case with
  | error invalid => rfl
  | ok alternative =>
      simp only [Grammar.addCase]
      cases setup.grammar.contains name <;> rfl

/-- A step edits the grammar and makes its setting, or else it fails for want of
its changes. -/
theorem perform_eq (setup : Setup) (step : Step) :
    (setup.perform step).map Prod.fst =
      (step.edits setup.options).map (step.applyTo setup) := by
  cases step with
  | addText text =>
      rw [perform, addText, Step.edits]
      cases Source.rules setup.options text <;> rfl
  | addBytes bytes =>
      rw [perform, addBytes, Step.edits]
      cases Source.decode? bytes with
      | none => rfl
      | some text =>
          simp only [addText]
          cases Source.rules setup.options text <;> rfl
  | addLine line =>
      rw [perform, addLine, Step.edits]
      cases Compile.rule setup.options (Text.trim line) <;> rfl
  | addCase name case =>
      rw [perform, insertCase_eq, Step.edits]
      cases Compile.alternative setup.options case <;> rfl
  | insertCase position name case =>
      rw [perform, insertCase_eq, Step.edits]
      cases Compile.alternative setup.options case <;> rfl
  | limit levels =>
      cases levels with
      | zero => rfl
      | succ levels => rfl
  | _ => rfl

theorem perform_eq_error_iff {setup : Setup} {step : Step} {failure : Failure} :
    setup.perform step = .error failure ↔ step.edits setup.options = .error failure := by
  have same : (setup.perform step).map Prod.fst = .error failure ↔
      (step.edits setup.options).map (step.applyTo setup) = .error failure := by
    rw [perform_eq]
  rwa [map_eq_error_iff, map_eq_error_iff] at same

/-! ## Several steps -/

/-- The changes of a grammar that steps make, each under the options that it
meets. -/
def editsOf (options : CompileOptions) : List Step → Except Failure (List Grammar.Edit)
  | [] => .ok []
  | step :: steps => do
      let edits ← step.edits options
      let more ← editsOf (step.optionsAfter options) steps
      return edits ++ more

/-- The last of the values that steps set. -/
def lastSet {α : Type} (value? : Step → Option α) (steps : List Step) : Option α :=
  (steps.filterMap value?).getLast?

/-- The setup with the changes of its grammar and the last settings of steps. -/
def applyAll (setup : Setup) (steps : List Step) (edits : List Grammar.Edit) : Setup :=
  { grammar := setup.grammar.run edits
    start := (lastSet Step.start? steps).or setup.start
    limit := (lastSet Step.limit? steps).getD setup.limit
    partialInput := (lastSet Step.partialInput? steps).getD setup.partialInput
    options := steps.foldl Step.optionsAfter setup.options
    level := (lastSet Step.level? steps).getD setup.level }

theorem lastSet_cons {α : Type} (value? : Step → Option α) (step : Step) (steps : List Step) :
    lastSet value? (step :: steps) = (lastSet value? steps).or (value? step) := by
  unfold lastSet
  rw [List.filterMap_cons]
  cases value? step with
  | none => exact (Option.or_none).symm
  | some value => rw [List.getLast?_cons, Option.or_some]

theorem performAll_cons (setup : Setup) (step : Step) (steps : List Step) :
    setup.performAll (step :: steps) =
      (step.edits setup.options).bind fun edits => (step.applyTo setup edits).performAll steps := by
  have firstStep : setup.performAll (step :: steps) =
      ((setup.perform step).map Prod.fst).bind fun changed => changed.performAll steps := by
    rw [performAll]
    cases setup.perform step <;> rfl
  rw [firstStep, perform_eq]
  cases step.edits setup.options <;> rfl

theorem applyAll_cons (setup : Setup) (step : Step) (steps : List Step)
    (edits more : List Grammar.Edit) :
    setup.applyAll (step :: steps) (edits ++ more) =
      (step.applyTo setup edits).applyAll steps more := by
  simp only [applyAll, Step.applyTo, lastSet_cons, Option.or_assoc, Option.getD_or,
    List.foldl_cons, Grammar.run, List.foldl_append]

/-- Steps edit the grammar one after the other, and their last settings count. -/
theorem performAll_eq (setup : Setup) (steps : List Step) :
    setup.performAll steps = (editsOf setup.options steps).map (setup.applyAll steps) := by
  induction steps generalizing setup with
  | nil => rfl
  | cons step steps inductionHypothesis =>
      rw [performAll_cons, editsOf]
      cases step.edits setup.options with
      | error failure => rfl
      | ok edits =>
          show (step.applyTo setup edits).performAll steps =
            (do
              let more ← editsOf (step.optionsAfter setup.options) steps
              return edits ++ more).map (setup.applyAll (step :: steps))
          rw [inductionHypothesis]
          show (editsOf (step.optionsAfter setup.options) steps).map _ = _
          cases editsOf (step.optionsAfter setup.options) steps with
          | error failure => rfl
          | ok more => exact congrArg Except.ok (applyAll_cons setup step steps edits more).symm

theorem performAll_eq_ok_iff {setup final : Setup} {steps : List Step} :
    setup.performAll steps = .ok final ↔
      ∃ edits, editsOf setup.options steps = .ok edits ∧ setup.applyAll steps edits = final := by
  rw [performAll_eq]
  cases editsOf setup.options steps <;> simp [Except.map]

theorem performAll_append_eq_ok_iff {setup final : Setup} {first second : List Step} :
    setup.performAll (first ++ second) = .ok final ↔
      ∃ middle, setup.performAll first = .ok middle ∧ middle.performAll second = .ok final := by
  induction first generalizing setup with
  | nil => simp [performAll]
  | cons step first inductionHypothesis =>
      rw [List.cons_append, performAll_cons, performAll_cons]
      cases step.edits setup.options with
      | error failure => simp [Except.bind]
      | ok edits => exact inductionHypothesis

end BnfParsing.Setup
