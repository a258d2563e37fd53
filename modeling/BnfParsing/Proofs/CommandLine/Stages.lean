import BnfParsing.CommandLine.Interpret
import BnfParsing.Proofs.Setup.Build
import BnfParsing.Proofs.Setup.Steps

/-!
Contract: of all that is wrong with a request, the command reports what its first stage
finds, and it writes nothing but complete results.

A stage is described by what the library does with the files and the options of the
request: the options become steps of a setup, in which the grammar file is one step
among others. Several stages may find something wrong in the same request; a stage that
needs the result of an earlier one finds nothing where there is no such result.

Owns:
- the steps of a setup that a request stands for;
- the stages, what each can find, and their exit codes;
- the first stage that finds something, and the requests in which none does.

Does not own: how arguments are read, or what is logged.
-/

set_option autoImplicit false

namespace BnfParsing.Interpret

/-- The steps that make the settings of a request. -/
def Request.settings (request : Request) : List Setup.Step :=
  [.partialInput request.partialInput, .level (level request.verbosity)]
    ++ (request.limit.map Setup.Step.limit).toList
    ++ (request.startRule.map Setup.Step.start).toList

/-- The steps of a setup for a request whose grammar file holds these bytes. -/
def Request.steps (request : Request) (bytes : ByteArray) : List Setup.Step :=
  .stickyRules request.stickyRules :: .addBytes bytes :: request.settings

variable {world : World} {request : Request} {problem : Problem}

/-! ## What the stages find -/

/-- The stages of the command. -/
inductive Stage where
  /-- The name of the format. -/
  | format
  /-- The grammar file is read and compiled. -/
  | grammar
  /-- The parser is built, from its start rule on. -/
  | build
  /-- The text is read. -/
  | input
  /-- The text is parsed. -/
  | search
deriving DecidableEq, Repr

namespace Stage

/-- The place of a stage among the others. -/
def number : Stage → Nat
  | .format => 0
  | .grammar => 1
  | .build => 2
  | .input => 3
  | .search => 4

/-- The exit codes for what a stage finds. -/
def codes : Stage → List Nat
  | .format => [5]
  | .grammar => [3, 7]
  | .build => [9]
  | .input => [3]
  | .search => [2, 6, 8]

end Stage

/-- The grammar file holds what a setup accepts as its step. -/
inductive Prepares (world : World) (request : Request) (setup : Setup) : Prop where
  | steps {bytes : ByteArray} (read : world.read request.grammar = .ok bytes)
      (performed : Setup.performAll {} (request.steps bytes) = .ok setup)

/-- The text of the input file, or of standard input if no file is named. -/
inductive Supplies (world : World) (request : Request) (text : Text) : Prop where
  | file {path : Text} {bytes : ByteArray} (named : request.inputFile = some path)
      (read : world.read path = .ok bytes) (decoded : Source.decode? bytes = some text)
  | standard (unnamed : request.inputFile = none)
      (decoded : Source.decode? world.input = some text)

/-- What a stage finds wrong with a request, whatever other stages find. -/
inductive FailsAt (world : World) (request : Request) : Stage → Problem → Prop where
  | format (unknown : Format.ofName? request.format = none) :
      FailsAt world request .format (.unknownFormat request.format)
  | unreadableGrammar {cause : Text} (unread : world.read request.grammar = .error cause) :
      FailsAt world request .grammar (.failure (.unreadable cause))
  | grammar {bytes : ByteArray} {failure : Failure}
      (read : world.read request.grammar = .ok bytes)
      (refused : Setup.performAll {} (request.steps bytes) = .error failure) :
      FailsAt world request .grammar (.failure failure)
  | build {setup : Setup} {failure : Failure} (prepares : Prepares world request setup)
      (unbuilt : setup.build = .error failure) :
      FailsAt world request .build (.failure failure)
  | unreadableFile {path cause : Text} (named : request.inputFile = some path)
      (unread : world.read path = .error cause) :
      FailsAt world request .input (.unreadableFile path cause)
  | undecodedFile {path : Text} {bytes : ByteArray} (named : request.inputFile = some path)
      (read : world.read path = .ok bytes) (undecoded : Source.decode? bytes = none) :
      FailsAt world request .input (.unreadableFile path Failure.notUtf8)
  | undecodedInput (unnamed : request.inputFile = none)
      (undecoded : Source.decode? world.input = none) :
      FailsAt world request .input (.unreadableInput Failure.notUtf8)
  | search {setup : Setup} {parser : Parser} {text : Text} {failure : Failure}
      (prepares : Prepares world request setup) (built : setup.build = .ok parser)
      (supplies : Supplies world request text)
      (failed : (parser.parse text).2 = .error failure) :
      FailsAt world request .search (.failure failure)

/-- A stage finds nothing wrong. -/
def Passes (world : World) (request : Request) (stage : Stage) : Prop :=
  ∀ found, ¬ FailsAt world request stage found

/-- The first stage that finds something wrong, with what it finds. -/
structure FirstFailure (world : World) (request : Request) (stage : Stage) (problem : Problem) :
    Prop where
  fails : FailsAt world request stage problem
  first : ∀ earlier, earlier.number < stage.number → Passes world request earlier

/-- Every stage has its result, and the last one a tree that is written as `output`. -/
inductive Completes (world : World) (request : Request) (output : Text) : Prop where
  | render {format : Format} {setup : Setup} {parser : Parser} {text : Text} {tree : Tree}
      (named : Format.ofName? request.format = some format)
      (prepares : Prepares world request setup) (built : setup.build = .ok parser)
      (supplies : Supplies world request text) (derived : (parser.parse text).2 = .ok tree)
      (written : format.render tree = output)

/-! ## The command in terms of its stages -/

/-- The settings that a request makes after the grammar file. -/
def Request.settle (request : Request) (setup : Setup) : Setup :=
  { setup with
    partialInput := request.partialInput
    level := level request.verbosity
    limit :=
      match request.limit with
      | none => setup.limit
      | some levels => if levels = 0 then setup.limit else levels
    start := request.startRule }

/-- Steps that make settings cannot fail. -/
theorem performAll_settings (request : Request) (setup : Setup) (unchosen : setup.start = none) :
    setup.performAll request.settings = .ok (request.settle setup) := by
  obtain ⟨_, _, _, _, _, _⟩ := setup
  obtain ⟨_, _, _, startRule, _, _, limit, _⟩ := request
  obtain rfl := unchosen
  rcases limit with _ | _ | levels
  · cases startRule <;> rfl
  · cases startRule <;> rfl
  · cases startRule <;> rfl

theorem start_addBytes {setup changed : Setup} {bytes : ByteArray}
    (added : setup.addBytes bytes = .ok changed) : changed.start = setup.start := by
  rw [Setup.addBytes] at added
  split at added
  case h_1 text decoded =>
    rw [Setup.addText] at added
    split at added
    case h_1 => cases added; rfl
    case h_2 => cases added
  case h_2 => cases added

/-- Of the steps for a request only the grammar file can be refused. -/
theorem performAll_steps (request : Request) (bytes : ByteArray) :
    Setup.performAll {} (request.steps bytes) =
      (Setup.addBytes { options := { stickyRules := request.stickyRules } } bytes).map
        request.settle := by
  have performed : Setup.performAll {} (request.steps bytes) =
      (Setup.addBytes { options := { stickyRules := request.stickyRules } } bytes).bind fun setup =>
        setup.performAll request.settings := by
    show ((Setup.addBytes { options := { stickyRules := request.stickyRules } } bytes).map
      (·, ([] : List LogRecord))).bind (fun change => change.1.performAll request.settings) = _
    cases Setup.addBytes { options := { stickyRules := request.stickyRules } } bytes <;> rfl
  rw [performed]
  cases added : Setup.addBytes { options := { stickyRules := request.stickyRules } } bytes with
  | error failure => rfl
  | ok setup => exact performAll_settings request setup (start_addBytes added)

theorem parser_eq (world : World) (request : Request) :
    parser world request =
      ((world.read request.grammar).mapError fun cause => Problem.failure (.unreadable cause)).bind
        fun bytes => ((Setup.performAll {} (request.steps bytes)).bind Setup.build).mapError
          Problem.failure := by
  rw [parser]
  cases world.read request.grammar with
  | error cause => rfl
  | ok bytes =>
      show _ = ((Setup.performAll {} (request.steps bytes)).bind Setup.build).mapError
        Problem.failure
      rw [performAll_steps]
      show (do
        let setup ← (Setup.addBytes { options := { stickyRules := request.stickyRules } }
          bytes).mapError Problem.failure
        (request.settle setup).build.mapError Problem.failure) = _
      cases Setup.addBytes { options := { stickyRules := request.stickyRules } } bytes <;> rfl

theorem parser_eq_ok_iff {found : Parser} :
    parser world request = .ok found ↔
      ∃ setup, Prepares world request setup ∧ setup.build = .ok found := by
  simp only [parser_eq, bind_eq_ok_iff, mapError_eq_ok_iff]
  constructor
  · rintro ⟨bytes, read, setup, performed, built⟩
    exact ⟨setup, .steps read performed, built⟩
  · rintro ⟨setup, ⟨read, performed⟩, built⟩
    exact ⟨_, read, setup, performed, built⟩

/-- There is no parser exactly if the grammar file or the start rule is at fault. -/
theorem parser_eq_error_iff :
    parser world request = .error problem ↔
      FailsAt world request .grammar problem ∨ FailsAt world request .build problem := by
  simp only [parser_eq, bind_eq_error_iff, mapError_eq_error_iff, mapError_eq_ok_iff]
  constructor
  · rintro (⟨cause, unread, rfl⟩ |
      ⟨bytes, read, failure, refused | ⟨setup, performed, unbuilt⟩, rfl⟩)
    · exact .inl (.unreadableGrammar unread)
    · exact .inl (.grammar read refused)
    · exact .inr (.build (.steps read performed) unbuilt)
  · rintro (fails | fails)
    · cases fails with
      | unreadableGrammar unread => exact .inl ⟨_, unread, rfl⟩
      | grammar read refused => exact .inr ⟨_, read, _, .inl refused, rfl⟩
    · cases fails with
      | build prepares unbuilt =>
          obtain ⟨read, performed⟩ := prepares
          exact .inr ⟨_, read, _, .inr ⟨_, performed, unbuilt⟩, rfl⟩

theorem input_eq_ok_iff {text : Text} :
    input world request = .ok text ↔ Supplies world request text := by
  constructor
  · intro supplied
    unfold input at supplied
    split at supplied
    case h_1 path named =>
      split at supplied
      case h_1 => cases supplied
      case h_2 bytes read =>
        split at supplied
        case h_1 text decoded => cases supplied; exact .file named read decoded
        case h_2 => cases supplied
    case h_2 unnamed =>
      split at supplied
      case h_1 text decoded => cases supplied; exact .standard unnamed decoded
      case h_2 => cases supplied
  · intro supplies
    unfold input
    cases supplies with
    | file named read decoded => simp only [named, read, decoded]
    | standard unnamed decoded => simp only [unnamed, decoded]

theorem input_eq_error_iff :
    input world request = .error problem ↔ FailsAt world request .input problem := by
  constructor
  · intro failed
    unfold input at failed
    split at failed
    case h_1 path named =>
      split at failed
      case h_1 cause unread => cases failed; exact .unreadableFile named unread
      case h_2 bytes read =>
        split at failed
        case h_1 => cases failed
        case h_2 undecoded => cases failed; exact .undecodedFile named read undecoded
    case h_2 unnamed =>
      split at failed
      case h_1 => cases failed
      case h_2 undecoded => cases failed; exact .undecodedInput unnamed undecoded
  · intro fails
    unfold input
    cases fails with
    | unreadableFile named unread => simp only [named, unread]
    | undecodedFile named read undecoded => simp only [named, read, undecoded]
    | undecodedInput unnamed undecoded => simp only [unnamed, undecoded]

theorem passes_format_iff :
    Passes world request .format ↔ ∃ format, Format.ofName? request.format = some format := by
  rw [← Option.ne_none_iff_exists']
  constructor
  · exact fun passes unknown => passes _ (.format unknown)
  · rintro named found ⟨unknown⟩
    exact named unknown

theorem passes_parser_iff :
    Passes world request .grammar ∧ Passes world request .build ↔
      ∃ found, parser world request = .ok found := by
  constructor
  · rintro ⟨grammarPasses, buildPasses⟩
    cases outcome : parser world request with
    | error found =>
        rcases parser_eq_error_iff.mp outcome with fails | fails
        · exact absurd fails (grammarPasses found)
        · exact absurd fails (buildPasses found)
    | ok found => exact ⟨found, rfl⟩
  · rintro ⟨parser, isParser⟩
    constructor
    · intro found fails
      have failed := parser_eq_error_iff.mpr (.inl fails)
      rw [isParser] at failed
      cases failed
    · intro found fails
      have failed := parser_eq_error_iff.mpr (.inr fails)
      rw [isParser] at failed
      cases failed

theorem passes_input_iff :
    Passes world request .input ↔ ∃ text, input world request = .ok text := by
  constructor
  · intro passes
    cases outcome : input world request with
    | error found => exact absurd (input_eq_error_iff.mp outcome) (passes found)
    | ok text => exact ⟨text, rfl⟩
  · rintro ⟨text, isText⟩ found fails
    rw [input_eq_error_iff.mpr fails] at isText
    cases isText

/-- A parser is built only where the grammar file is in order. -/
theorem FailsAt.passes_grammar (fails : FailsAt world request .build problem) :
    Passes world request .grammar := by
  cases fails with
  | build prepares unbuilt =>
      obtain ⟨read, performed⟩ := prepares
      intro found otherFails
      cases otherFails with
      | unreadableGrammar unread =>
          rw [read] at unread
          cases unread
      | grammar otherRead refused =>
          rw [read] at otherRead
          cases otherRead
          rw [performed] at refused
          cases refused

/-- The command goes from one stage to the next, apart from what it notes on the way. -/
theorem snd_perform (world : World) (request : Request) :
    (perform world request).2 =
      match Format.ofName? request.format with
      | none => .error (.unknownFormat request.format)
      | some format =>
          (parser world request).bind fun parser =>
            (input world request).bind fun text =>
              ((parser.parse text).2.mapError Problem.failure).map format.render := by
  unfold perform
  cases Format.ofName? request.format with
  | none => rfl
  | some format =>
      dsimp only
      cases parser world request with
      | error found => rfl
      | ok parser =>
          cases input world request with
          | error found => rfl
          | ok text =>
              show _ = ((parser.parse text).2.mapError Problem.failure).map format.render
              dsimp only
              rcases parser.parse text with ⟨events, failure | tree⟩
              · rfl
              · rfl

theorem perform_eq_ok_iff {output : Text} :
    (perform world request).2 = .ok output ↔ Completes world request output := by
  rw [snd_perform]
  constructor
  · intro completed
    cases named : Format.ofName? request.format with
    | none => rw [named] at completed; cases completed
    | some format =>
        simp only [named, bind_eq_ok_iff, map_eq_ok_iff, mapError_eq_ok_iff] at completed
        obtain ⟨parser, isParser, text, isInput, tree, derived, written⟩ := completed
        obtain ⟨setup, prepares, built⟩ := parser_eq_ok_iff.mp isParser
        exact .render named prepares built (input_eq_ok_iff.mp isInput) derived written
  · rintro ⟨named, prepares, built, supplies, derived, written⟩
    simp only [named, bind_eq_ok_iff, map_eq_ok_iff, mapError_eq_ok_iff]
    exact ⟨_, parser_eq_ok_iff.mpr ⟨_, prepares, built⟩, _, input_eq_ok_iff.mpr supplies, _,
      derived, written⟩

theorem firstFailure_of_perform (failed : (perform world request).2 = .error problem) :
    ∃ stage, FirstFailure world request stage problem := by
  rw [snd_perform] at failed
  cases named : Format.ofName? request.format with
  | none =>
      rw [named] at failed
      cases failed
      exact ⟨.format, .format named, fun _ before => absurd before (Nat.not_lt_zero _)⟩
  | some format =>
      have formatPasses : Passes world request .format := passes_format_iff.mpr ⟨format, named⟩
      simp only [named, bind_eq_error_iff, map_eq_error_iff, mapError_eq_error_iff] at failed
      rcases failed with noParser |
        ⟨parser, isParser, noText | ⟨text, isText, failure, failed, rfl⟩⟩
      · rcases parser_eq_error_iff.mp noParser with fails | fails
        · refine ⟨.grammar, fails, fun earlier before => ?_⟩
          cases earlier with
          | format => exact formatPasses
          | _ => exact absurd before (by decide)
        · refine ⟨.build, fails, fun earlier before => ?_⟩
          cases earlier with
          | format => exact formatPasses
          | grammar => exact fails.passes_grammar
          | _ => exact absurd before (by decide)
      · have parserPasses := passes_parser_iff.mpr ⟨parser, isParser⟩
        refine ⟨.input, input_eq_error_iff.mp noText, fun earlier before => ?_⟩
        cases earlier with
        | format => exact formatPasses
        | grammar => exact parserPasses.1
        | build => exact parserPasses.2
        | _ => exact absurd before (by decide)
      · have parserPasses := passes_parser_iff.mpr ⟨parser, isParser⟩
        obtain ⟨setup, prepares, built⟩ := parser_eq_ok_iff.mp isParser
        refine ⟨.search, .search prepares built (input_eq_ok_iff.mp isText) failed,
          fun earlier before => ?_⟩
        cases earlier with
        | format => exact formatPasses
        | grammar => exact parserPasses.1
        | build => exact parserPasses.2
        | input => exact passes_input_iff.mpr ⟨text, isText⟩
        | search => exact absurd before (by decide)

theorem FirstFailure.perform {stage : Stage} (failure : FirstFailure world request stage problem) :
    (perform world request).2 = .error problem := by
  obtain ⟨fails, first⟩ := failure
  rw [snd_perform]
  cases stage with
  | format =>
      cases fails with
      | format unknown => rw [unknown]
  | grammar =>
      obtain ⟨format, named⟩ := passes_format_iff.mp (first .format (by decide))
      rw [named, parser_eq_error_iff.mpr (.inl fails)]
      rfl
  | build =>
      obtain ⟨format, named⟩ := passes_format_iff.mp (first .format (by decide))
      rw [named, parser_eq_error_iff.mpr (.inr fails)]
      rfl
  | input =>
      obtain ⟨format, named⟩ := passes_format_iff.mp (first .format (by decide))
      obtain ⟨parser, isParser⟩ :=
        passes_parser_iff.mp ⟨first .grammar (by decide), first .build (by decide)⟩
      rw [named, isParser, input_eq_error_iff.mpr fails]
      rfl
  | search =>
      obtain ⟨format, named⟩ := passes_format_iff.mp (first .format (by decide))
      cases fails with
      | search prepares built supplies failed =>
          rw [named, parser_eq_ok_iff.mpr ⟨_, prepares, built⟩, input_eq_ok_iff.mpr supplies]
          simp only [Except.bind, failed]
          rfl

theorem Completes.passes {output : Text} (completes : Completes world request output)
    (stage : Stage) : Passes world request stage := by
  obtain ⟨named, prepares, built, supplies, derived, -⟩ := completes
  have isParser := parser_eq_ok_iff.mpr ⟨_, prepares, built⟩
  have isInput := input_eq_ok_iff.mpr supplies
  cases stage with
  | format => exact passes_format_iff.mpr ⟨_, named⟩
  | grammar => exact (passes_parser_iff.mpr ⟨_, isParser⟩).1
  | build => exact (passes_parser_iff.mpr ⟨_, isParser⟩).2
  | input => exact passes_input_iff.mpr ⟨_, isInput⟩
  | search =>
      intro found fails
      cases fails with
      | search otherPrepares otherBuilt otherSupplies failed =>
          -- the parser and the text are the same ones, and the search has one outcome
          have sameParser := parser_eq_ok_iff.mpr ⟨_, otherPrepares, otherBuilt⟩
          have sameInput := input_eq_ok_iff.mpr otherSupplies
          rw [isParser] at sameParser
          rw [isInput] at sameInput
          cases sameParser
          cases sameInput
          rw [derived] at failed
          cases failed

/-! ## Exit codes -/

/-- What a grammar file is refused for. -/
theorem codeOfFailure_of_performAll {bytes : ByteArray} {failure : Failure}
    (refused : Setup.performAll {} (request.steps bytes) = .error failure) :
    Problem.codeOfFailure failure ∈ Stage.grammar.codes := by
  rw [performAll_steps, map_eq_error_iff, Setup.addBytes] at refused
  split at refused
  case h_1 text decoded =>
    rw [Setup.addText] at refused
    split at refused
    case h_1 => cases refused
    case h_2 invalid faulty =>
      cases refused
      show 7 ∈ [3, 7]
      decide
  case h_2 undecoded =>
    cases refused
    show 3 ∈ [3, 7]
    decide

/-- What a search ends with if there is no tree. -/
theorem failure_of_parse {parser : Parser} {text : Text} {failure : Failure}
    (failed : (parser.parse text).2 = .error failure) :
    failure = .notDerived ∨ (∃ name, failure = .defect (.missingRule name)) ∨
      ∃ limit, failure = .defect (.limitReached limit) := by
  rw [Parser.parse] at failed
  dsimp only at failed
  split at failed
  case h_1 found ended =>
    cases failed
    cases found with
    | missingRule name => exact .inr (.inl ⟨name, rfl⟩)
    | limitReached limit => exact .inr (.inr ⟨limit, rfl⟩)
  case h_2 => cases failed; exact .inl rfl
  case h_3 => cases failed

/-- Each stage has exit codes of its own kind for what it finds. -/
theorem FailsAt.code_mem {stage : Stage} (fails : FailsAt world request stage problem) :
    problem.code ∈ stage.codes := by
  cases fails with
  | grammar read refused => exact codeOfFailure_of_performAll refused
  | @build setup failure prepares unbuilt =>
      rcases setup.build_cases with ⟨parser, built, -⟩ | ⟨failed, -⟩
      · rw [built] at unbuilt
        cases unbuilt
      · rw [failed] at unbuilt
        cases unbuilt
        unfold Setup.startFailure
        cases setup.start <;> exact List.mem_cons_self
  | @search setup parser text failure prepares built supplies failed =>
      rcases failure_of_parse failed with rfl | ⟨name, rfl⟩ | ⟨limit, rfl⟩
      · exact List.mem_cons_self
      · exact List.mem_cons_of_mem _ List.mem_cons_self
      · exact List.mem_cons_of_mem _ (List.mem_cons_of_mem _ List.mem_cons_self)
  | _ => exact List.mem_cons_self

/-- A request that is accepted is either carried out completely, which writes the tree of
its text and nothing else, or there is a first stage that finds something wrong. Then
nothing is written, and the exit code tells what this stage has found, whatever later
stages would have found. -/
theorem first_failure_decides {world : World} {arguments : List Text} {request : Request}
    (accepted : Request.ofArguments arguments = .ok request) :
    (∀ output, Completes world request output →
      (run world arguments).code = 0 ∧ (run world arguments).output = output) ∧
    (∀ stage problem, FirstFailure world request stage problem →
      (run world arguments).code = problem.code ∧ problem.code ∈ stage.codes ∧
        (run world arguments).output = []) ∧
    ((∃ output, Completes world request output) ↔ ∀ stage, Passes world request stage) ∧
    ((∃ output, Completes world request output) ∨
      ∃ stage problem, FirstFailure world request stage problem) := by
  have ran : (run world arguments).code =
        (match (perform world request).2 with | .ok _ => 0 | .error problem => problem.code) ∧
      (run world arguments).output =
        (match (perform world request).2 with | .ok output => output | .error _ => []) := by
    rw [run, accepted]
    dsimp only
    rcases perform world request with ⟨records, problem | output⟩
    · exact ⟨rfl, rfl⟩
    · exact ⟨rfl, rfl⟩
  refine ⟨fun output completes => ?_, fun stage problem failure => ?_, ⟨?_, fun passes => ?_⟩, ?_⟩
  · rw [ran.1, ran.2, perform_eq_ok_iff.mpr completes]
    exact ⟨rfl, rfl⟩
  · rw [ran.1, ran.2, failure.perform]
    exact ⟨rfl, failure.fails.code_mem, rfl⟩
  · rintro ⟨output, completes⟩
    exact completes.passes
  · cases outcome : (perform world request).2 with
    | error problem =>
        obtain ⟨stage, failure⟩ := firstFailure_of_perform outcome
        exact absurd failure.fails (passes stage problem)
    | ok output => exact ⟨output, perform_eq_ok_iff.mp outcome⟩
  · cases outcome : (perform world request).2 with
    | error problem =>
        obtain ⟨stage, failure⟩ := firstFailure_of_perform outcome
        exact .inr ⟨stage, problem, failure⟩
    | ok output => exact .inl ⟨output, perform_eq_ok_iff.mp outcome⟩

/-- A working directory with one grammar file, and a text on standard input. -/
def desk : World where
  read := World.readFrom [("g".toList, "<S> := a <S> | a".toUTF8)]
  input := "a a".toUTF8

/-- Neither the format nor the grammar file nor the input file exists: the exit code tells
of the format. With the grammar file on the desk the text is parsed and written. -/
theorem desk_runs :
    Request.ofArguments ["-fjson".toList, "-gh".toList, "-ii".toList] =
        .ok { grammar := "h".toList, inputFile := some "i".toList, format := "json".toList } ∧
      ¬ Passes desk
        { grammar := "h".toList, inputFile := some "i".toList, format := "json".toList } .grammar ∧
      ¬ Passes desk
        { grammar := "h".toList, inputFile := some "i".toList, format := "json".toList } .input ∧
      (run desk ["-fjson".toList, "-gh".toList, "-ii".toList]).code = 5 ∧
      (run desk ["-fjson".toList, "-gh".toList, "-ii".toList]).output = [] ∧
      Request.ofArguments ["-ftxt".toList, "-gg".toList] =
        .ok { grammar := "g".toList, format := "txt".toList } ∧
      (run desk ["-ftxt".toList, "-gg".toList]).code = 0 ∧
      (run desk ["-ftxt".toList, "-gg".toList]).output = "<S>\n a\n <S>\n  a\n".toList := by
  have messy : Request.ofArguments ["-fjson".toList, "-gh".toList, "-ii".toList] =
      .ok { grammar := "h".toList, inputFile := some "i".toList, format := "json".toList } := rfl
  have formatFails : FirstFailure desk
      { grammar := "h".toList, inputFile := some "i".toList, format := "json".toList }
      .format (.unknownFormat "json".toList) :=
    ⟨.format (by decide), fun _ before => absurd before (Nat.not_lt_zero _)⟩
  obtain ⟨failed, -, silent⟩ := (first_failure_decides messy).2.1 _ _ formatFails
  have tidy : Request.ofArguments ["-ftxt".toList, "-gg".toList] =
      .ok { grammar := "g".toList, format := "txt".toList } := rfl
  have performed : (perform desk { grammar := "g".toList, format := "txt".toList }).2.toOption =
      some "<S>\n a\n <S>\n  a\n".toList := by
    decide +kernel
  have completes : Completes desk { grammar := "g".toList, format := "txt".toList }
      "<S>\n a\n <S>\n  a\n".toList := by
    apply perform_eq_ok_iff.mp
    cases outcome : (perform desk { grammar := "g".toList, format := "txt".toList }).2 with
    | error problem => rw [outcome] at performed; cases performed
    | ok output => rw [outcome] at performed; exact congrArg Except.ok (Option.some.inj performed)
  obtain ⟨succeeded, written⟩ := (first_failure_decides tidy).1 _ completes
  exact ⟨messy, fun passes => passes _ (.unreadableGrammar rfl),
    fun passes => passes _ (.unreadableFile rfl rfl), failed, silent, tidy, succeeded, written⟩

end BnfParsing.Interpret
