import BnfParsing.Proofs.Grammar.Entries
import BnfParsing.Proofs.Setup.Steps
import BnfParsing.Setup.Session

/-!
Contract: failures in a session leave no trace.

A step fails for what it brings along, read under the options of the setup: for a
source, a line or a case that does not compile, or for bytes that are no text. It
fails before anything is merged, and the session goes on with the setup it had.

Owns:
- the steps that are refused, and for what;
- sources with a line that does not compile;
- sessions without some of the requests that fail.

Does not own: which lines compile.
-/

set_option autoImplicit false

namespace BnfParsing.Setup

/-! ## Steps that are refused -/

/-- What is wrong with a step under options. -/
inductive Refused (options : CompileOptions) : Step → Failure → Prop where
  | text {text : Text} {invalid : InvalidRule}
      (fault : Source.FirstFault options (Source.entries text) invalid) :
      Refused options (.addText text) (.invalidRule invalid)
  | bytes {bytes : ByteArray} {text : Text} {invalid : InvalidRule}
      (decoded : Source.decode? bytes = some text)
      (fault : Source.FirstFault options (Source.entries text) invalid) :
      Refused options (.addBytes bytes) (.invalidRule invalid)
  | encoding {bytes : ByteArray} (undecoded : Source.decode? bytes = none) :
      Refused options (.addBytes bytes) (.unreadable Failure.notUtf8)
  | line {line : Text} {invalid : InvalidRule}
      (fault : Compile.rule options (Text.trim line) = .error invalid) :
      Refused options (.addLine line) (.invalidRule invalid)
  | frontCase {name case : Text} {invalid : InvalidRule}
      (fault : Compile.alternative options case = .error invalid) :
      Refused options (.addCase name case) (.invalidRule invalid)
  | innerCase {position : Nat} {name case : Text} {invalid : InvalidRule}
      (fault : Compile.alternative options case = .error invalid) :
      Refused options (.insertCase position name case) (.invalidRule invalid)

variable {setup : Setup} {options : CompileOptions} {step : Step} {failure : Failure}

theorem refused_of_edits (failed : step.edits options = .error failure) :
    Refused options step failure := by
  cases step with
  | addText text =>
      obtain ⟨invalid, fault, rfl⟩ := map_mapError_eq_error_iff.mp failed
      exact .text (Source.rules_eq_error_iff.mp fault)
  | addBytes bytes =>
      rw [Step.edits] at failed
      cases decoded : Source.decode? bytes with
      | none =>
          rw [decoded] at failed
          cases failed
          exact .encoding decoded
      | some text =>
          rw [decoded] at failed
          obtain ⟨invalid, fault, rfl⟩ := map_mapError_eq_error_iff.mp failed
          exact .bytes decoded (Source.rules_eq_error_iff.mp fault)
  | addLine line =>
      obtain ⟨invalid, fault, rfl⟩ := map_mapError_eq_error_iff.mp failed
      exact .line fault
  | addCase name case =>
      obtain ⟨invalid, fault, rfl⟩ := map_mapError_eq_error_iff.mp failed
      exact .frontCase fault
  | insertCase position name case =>
      obtain ⟨invalid, fault, rfl⟩ := map_mapError_eq_error_iff.mp failed
      exact .innerCase fault
  | _ => cases failed

theorem Refused.edits (refused : Refused options step failure) :
    step.edits options = .error failure := by
  cases refused with
  | text fault =>
      exact map_mapError_eq_error_iff.mpr ⟨_, Source.rules_eq_error_iff.mpr fault, rfl⟩
  | bytes decoded fault =>
      rw [Step.edits, decoded]
      exact map_mapError_eq_error_iff.mpr ⟨_, Source.rules_eq_error_iff.mpr fault, rfl⟩
  | encoding undecoded => rw [Step.edits, undecoded]
  | line fault => exact map_mapError_eq_error_iff.mpr ⟨_, fault, rfl⟩
  | frontCase fault => exact map_mapError_eq_error_iff.mpr ⟨_, fault, rfl⟩
  | innerCase fault => exact map_mapError_eq_error_iff.mpr ⟨_, fault, rfl⟩

theorem perform_eq_error_iff_refused :
    setup.perform step = .error failure ↔ Refused setup.options step failure := by
  rw [perform_eq_error_iff]
  exact ⟨refused_of_edits, Refused.edits⟩

/-! ## Sessions -/

theorem after_of_error (failed : setup.perform step = .error failure) :
    setup.after step = setup := by
  rw [after, failed]

theorem respond_of_error (failed : setup.perform step = .error failure) :
    setup.respond (.change step) = (setup, .refused failure setup.build) := by
  simp only [respond, failed, after_of_error failed]

theorem respond_change_iff :
    setup.respond (.change step) = (setup, .refused failure setup.build) ↔
      Refused setup.options step failure := by
  rw [← perform_eq_error_iff_refused]
  constructor
  · intro responded
    cases done : setup.perform step with
    | error reason =>
        rw [respond_of_error done] at responded
        cases responded
        rfl
    | ok result =>
        simp [respond, done] at responded
  · exact respond_of_error

/-- A request that fails leaves the setup as it is. -/
theorem fst_respond_of_isFailure {request : Request}
    (failed : (setup.respond request).2.isFailure) : (setup.respond request).1 = setup := by
  cases request with
  | ask query => rfl
  | change step =>
      cases done : setup.perform step with
      | error reason => rw [respond_of_error done]
      | ok result => simp [respond, done, Answer.isFailure] at failed

/-- Requests with what they come to in a session. -/
def exchanges (setup : Setup) (requests : List Request) : List (Request × Answer) :=
  requests.zip (setup.session requests).2

theorem session_cons (setup : Setup) (request : Request) (requests : List Request) :
    setup.session (request :: requests) =
      (((setup.respond request).1.session requests).1,
        (setup.respond request).2 :: ((setup.respond request).1.session requests).2) := rfl

theorem exchanges_cons (setup : Setup) (request : Request) (requests : List Request) :
    setup.exchanges (request :: requests) =
      (request, (setup.respond request).2) :: (setup.respond request).1.exchanges requests := rfl

theorem session_of_keeps (setup : Setup) {keeps : Request × Answer → Bool}
    (dropsFailures : ∀ exchange, keeps exchange = false → exchange.2.isFailure)
    (requests : List Request) :
    setup.session (((setup.exchanges requests).filter keeps).map Prod.fst) =
      ((setup.session requests).1, ((setup.exchanges requests).filter keeps).map Prod.snd) := by
  induction requests generalizing setup with
  | nil => rfl
  | cons request requests inductionHypothesis =>
      rw [exchanges_cons, session_cons]
      cases kept : keeps (request, (setup.respond request).2) with
      | true =>
          rw [List.filter_cons_of_pos kept, List.map_cons, List.map_cons]
          show setup.session (request :: _) = _
          rw [session_cons, inductionHypothesis]
      | false =>
          -- The request is left out, so the others meet the setup as it was before.
          have sameSetup := fst_respond_of_isFailure (dropsFailures _ kept)
          rw [List.filter_cons_of_neg (by simp [kept]), sameSetup]
          exact inductionHypothesis setup

/-- Failures leave no trace. Without any of the requests that fail, a session comes
to the same setup and answers the others as before. A step is refused exactly for a
source, a line or a case that does not compile or for bytes that are no text, and a
source with a line that does not compile adds nothing at all. -/
theorem failures_leave_no_trace :
    (∀ (setup : Setup) (requests : List Request) (keeps : Request × Answer → Bool),
      (∀ exchange, keeps exchange = false → exchange.2.isFailure) →
      setup.session (((setup.exchanges requests).filter keeps).map Prod.fst) =
        ((setup.session requests).1, ((setup.exchanges requests).filter keeps).map Prod.snd)) ∧
    (∀ (setup : Setup) (step : Step) (failure : Failure),
      setup.respond (.change step) = (setup, .refused failure setup.build) ↔
        Refused setup.options step failure) ∧
    ∀ (setup : Setup) (text line : Text) (fault : InvalidRule), line ∈ Text.lines text →
      Source.content line ≠ [] →
      Compile.rule setup.options (Source.content line) = .error fault →
      ∃ failure, setup.respond (.change (.addText text)) =
          (setup, .refused failure setup.build) ∧
        ∀ bytes, Source.decode? bytes = some text →
          setup.respond (.change (.addBytes bytes)) =
            (setup, .refused failure setup.build) := by
  refine ⟨?_, ?_, ?_⟩
  · intro setup requests keeps dropsFailures
    exact setup.session_of_keeps dropsFailures requests
  · intro setup step failure
    exact respond_change_iff
  · intro setup text line fault member notBlank lineFails
    obtain ⟨invalid, failed⟩ := Source.exists_error_of_line member notBlank lineFails
    have firstFault := Source.rules_eq_error_iff.mp failed
    refine ⟨.invalidRule invalid, respond_change_iff.mpr (.text firstFault), ?_⟩
    intro bytes decoded
    exact respond_change_iff.mpr (.bytes decoded firstFault)

/-- A source whose second line is no rule. -/
def faultyLetters : Text := "<t> := b\n<u> c".toList

def faultyLine : InvalidRule :=
  { rule := "<u> c".toList
    span := ⟨0, 5⟩
    fault := .missingSeparator }

/-- A case with two spaces side by side. -/
def faultyCase : InvalidRule :=
  { rule := "b  c".toList
    span := ⟨2, 2⟩
    fault := .emptyTerminal }

def letterRequests : List Request :=
  [.change (.addLine "<s> := a".toList), .change (.addText faultyLetters),
    .change (.addCase "<s>".toList faultyCase.rule), .ask (.rule "<t>".toList)]

def succeeds (exchange : Request × Answer) : Bool :=
  !exchange.2.isFailure

theorem letters_without_failures :
    ({} : Setup).session [.change (.addLine "<s> := a".toList), .ask (.rule "<t>".toList)] =
        ((({} : Setup).session letterRequests).1,
          (((({} : Setup).exchanges letterRequests).filter succeeds).map Prod.snd)) ∧
      ({} : Setup).respond (.change (.addCase "<s>".toList faultyCase.rule)) =
        ({}, .refused (.invalidRule faultyCase) (build {})) ∧
      ∃ failure, ({} : Setup).respond (.change (.addText faultyLetters)) =
        ({}, .refused failure (build {})) := by
  obtain ⟨withoutFailures, refused, badLine⟩ := failures_leave_no_trace
  have dropsFailures : ∀ exchange, succeeds exchange = false → exchange.2.isFailure := by
    intro exchange dropped
    simpa [succeeds] using dropped
  have kept : ((({} : Setup).exchanges letterRequests).filter succeeds).map Prod.fst =
      [.change (.addLine "<s> := a".toList), .ask (.rule "<t>".toList)] := rfl
  refine ⟨?_, ?_, ?_⟩
  · rw [← kept]
    exact withoutFailures {} letterRequests succeeds dropsFailures
  · have caseFails : Compile.alternative {} faultyCase.rule = .error faultyCase := by decide
    exact (refused {} _ _).mpr (.frontCase caseFails)
  · have lineFails : Compile.rule {} (Source.content "<u> c".toList) = .error faultyLine := by decide
    obtain ⟨failure, responded, -⟩ :=
      badLine {} faultyLetters "<u> c".toList faultyLine (by decide) (by decide) lineFails
    exact ⟨failure, responded⟩

end BnfParsing.Setup
