import BnfParsing.Grammar.Source
import BnfParsing.Proofs.Grammar.Merging
import BnfParsing.Proofs.Text.Lines
import BnfParsing.Proofs.Traversal

/-!
Contract: a source is compiled from its entries.

Lines are numbered, stripped and trimmed before anything is compiled, so a source
comes down to its entries: the contents of the lines that are not blank, each with
the number of its line.

Owns:
- entries, and a source compiled from them;
- the content of a line with other blanks around it and another comment;
- entries in terms of what stands between the newlines of a text.

Does not own: how the content of a line compiles.
-/

set_option autoImplicit false

namespace BnfParsing

namespace InvalidRule

/-- The error with its line further down. -/
def lower (count : Nat) (invalid : InvalidRule) : InvalidRule :=
  { invalid with line := invalid.line.map (· + count) }

/-- The error without the number of its line. -/
def withoutLine (invalid : InvalidRule) : InvalidRule :=
  { invalid with line := none }

end InvalidRule

namespace Source

/-- What a line holds apart from its comment and the blanks around it. -/
def content (line : Text) : Text :=
  Text.trim (stripComment line)

/-- A line with content. -/
structure Entry where
  number : Nat
  content : Text
deriving DecidableEq

/-- The lines with content, counted from a number on. -/
def entriesFrom : (number : Nat) → List Text → List Entry
  | _, [] => []
  | number, line :: rest =>
      if content line = [] then entriesFrom (number + 1) rest
      else ⟨number, content line⟩ :: entriesFrom (number + 1) rest

/-- The lines of a text with content, counted from one. -/
def entries (text : Text) : List Entry :=
  entriesFrom 1 (Text.lines text)

namespace Entry

/-- The rule of an entry, or what is wrong with its line. -/
def compile (options : CompileOptions) (entry : Entry) : Except InvalidRule Rule :=
  (Compile.rule options entry.content).mapError (·.atLine entry.number)

/-- The entry on a line further down. -/
def lower (count : Nat) (entry : Entry) : Entry :=
  { entry with number := entry.number + count }

theorem compile_lower (options : CompileOptions) (count : Nat) (entry : Entry) :
    (entry.lower count).compile options =
      (entry.compile options).mapError (InvalidRule.lower count) := by
  unfold compile
  rw [lower]
  cases Compile.rule options entry.content <;> rfl

/-- An entry without a rule names its line. -/
theorem line_of_compile {options : CompileOptions} {entry : Entry} {invalid : InvalidRule}
    (failed : entry.compile options = .error invalid) : invalid.line = some entry.number := by
  rw [compile] at failed
  cases compiled : Compile.rule options entry.content with
  | ok rule =>
      rw [compiled] at failed
      cases failed
  | error fault =>
      rw [compiled] at failed
      cases failed
      rfl

end Entry

variable {options : CompileOptions}

/-! ## Sources from entries -/

theorem compileFrom_eq_mapM (number : Nat) (lines : List Text) :
    compileFrom options number lines = (entriesFrom number lines).mapM (Entry.compile options) := by
  induction lines generalizing number with
  | nil => rfl
  | cons line rest inductionHypothesis =>
      rw [compileFrom, entriesFrom]
      show (if (content line).isEmpty = true then _ else _) = _
      by_cases blank : content line = []
      · rw [if_pos blank, blank]
        exact inductionHypothesis (number + 1)
      · rw [if_neg blank, if_neg (by simpa using blank), List.mapM_cons, inductionHypothesis]
        rfl

theorem rules_eq_mapM (options : CompileOptions) (text : Text) :
    rules options text = (entries text).mapM (Entry.compile options) :=
  compileFrom_eq_mapM 1 (Text.lines text)

/-- The first entry without a rule, and what is wrong with it. -/
def FirstFault (options : CompileOptions) (entries : List Entry) (invalid : InvalidRule) : Prop :=
  ∃ before entry after, entries = before ++ entry :: after ∧
    (∀ earlier ∈ before, ∃ rule, earlier.compile options = .ok rule) ∧
    entry.compile options = .error invalid

theorem rules_eq_error_iff {text : Text} {invalid : InvalidRule} :
    rules options text = .error invalid ↔ FirstFault options (entries text) invalid := by
  rw [rules_eq_mapM, mapM_eq_error_iff]
  rfl

theorem exists_entry_of_mem {line : Text} {lines : List Text} (member : line ∈ lines)
    (notBlank : content line ≠ []) (number : Nat) :
    ∃ entry ∈ entriesFrom number lines, entry.content = content line := by
  induction lines generalizing number with
  | nil => exact absurd member List.not_mem_nil
  | cons first rest inductionHypothesis =>
      rw [entriesFrom]
      rcases List.mem_cons.mp member with rfl | inRest
      · rw [if_neg notBlank]
        exact ⟨_, List.mem_cons_self, rfl⟩
      · obtain ⟨entry, isEntry, sameContent⟩ := inductionHypothesis inRest (number + 1)
        split
        · exact ⟨entry, isEntry, sameContent⟩
        · exact ⟨entry, List.mem_cons_of_mem _ isEntry, sameContent⟩

/-- One line without a rule is enough for a source to have none. -/
theorem exists_error_of_line {text line : Text} {fault : InvalidRule}
    (member : line ∈ Text.lines text) (notBlank : content line ≠ [])
    (invalid : Compile.rule options (content line) = .error fault) :
    ∃ invalid, rules options text = .error invalid := by
  obtain ⟨entry, isEntry, sameContent⟩ := exists_entry_of_mem member notBlank 1
  cases compiled : rules options text with
  | error invalid => exact ⟨invalid, rfl⟩
  | ok found =>
      rw [rules_eq_mapM] at compiled
      obtain ⟨rule, entryCompiled⟩ := exists_ok_of_mapM_eq_ok compiled isEntry
      rw [Entry.compile, sameContent, invalid] at entryCompiled
      cases entryCompiled

/-! ## Entries of texts -/

theorem entriesFrom_append (number : Nat) (first second : List Text) :
    entriesFrom number (first ++ second) =
      entriesFrom number first ++ entriesFrom (number + first.length) second := by
  induction first generalizing number with
  | nil => rfl
  | cons line first inductionHypothesis =>
      have sameNumber : number + 1 + first.length = number + (line :: first).length := by
        rw [List.length_cons]
        omega
      rw [List.cons_append, entriesFrom, entriesFrom, inductionHypothesis, sameNumber]
      split <;> rfl

theorem entriesFrom_add (count number : Nat) (lines : List Text) :
    entriesFrom (number + count) lines = (entriesFrom number lines).map (Entry.lower count) := by
  induction lines generalizing number with
  | nil => rfl
  | cons line rest inductionHypothesis =>
      have next : number + count + 1 = number + 1 + count := by omega
      rw [entriesFrom, entriesFrom, next, inductionHypothesis]
      split <;> rfl

/-! ## Blanks and comments around a line -/

/-- Nothing, or a number sign with anything behind it. -/
def IsComment (comment : Text) : Prop :=
  comment = [] ∨ ∃ note, comment = '#' :: note

theorem stripComment_comment {comment : Text} (isComment : IsComment comment) :
    stripComment comment = [] := by
  rcases isComment with rfl | ⟨note, rfl⟩ <;> rfl

theorem stripComment_append_of_not_mem {front : Text} (uncommented : '#' ∉ front) (rest : Text) :
    stripComment (front ++ rest) = front ++ stripComment rest := by
  refine List.takeWhile_append_of_pos fun character member => ?_
  rw [decide_eq_true_eq]
  rintro rfl
  exact uncommented member

theorem stripComment_append_of_mem {line : Text} (commented : '#' ∈ line) (rest : Text) :
    stripComment (line ++ rest) = stripComment line := by
  obtain ⟨front, note, rfl, uncommented⟩ := List.eq_append_cons_of_mem commented
  rw [List.append_assoc, stripComment_append_of_not_mem uncommented,
    stripComment_append_of_not_mem uncommented]
  rfl

/-- Blanks around a line and a comment behind it are no part of its content. -/
theorem content_append {front back comment : Text} (frontBlank : Text.isAllBlank front)
    (backBlank : Text.isAllBlank back) (isComment : IsComment comment) (line : Text) :
    content (front ++ line ++ back ++ comment) = content line := by
  have uncommented : ∀ {blanks : Text}, Text.isAllBlank blanks → '#' ∉ blanks := by
    intro blanks allBlank member
    exact absurd (List.all_eq_true.mp allBlank '#' member) (by decide)
  rw [content, content, List.append_assoc, List.append_assoc,
    stripComment_append_of_not_mem (uncommented frontBlank)]
  by_cases commented : '#' ∈ line
  · rw [stripComment_append_of_mem commented, ← List.append_nil (front ++ _)]
    exact Text.trim_blanks_append_blanks frontBlank rfl _
  · have stripped : stripComment line = line := by
      have whole := stripComment_append_of_not_mem commented []
      rwa [List.append_nil, stripComment_comment (.inl rfl), List.append_nil] at whole
    rw [stripComment_append_of_not_mem commented,
      stripComment_append_of_not_mem (uncommented backBlank), stripComment_comment isComment,
      List.append_nil, stripped, ← List.append_assoc]
    exact Text.trim_blanks_append_blanks frontBlank backBlank line

theorem content_withoutReturn (reversed : Text) :
    content (Text.withoutReturn reversed).reverse = content reversed.reverse := by
  unfold Text.withoutReturn
  split
  next rest =>
    have returned : content ([] ++ rest.reverse ++ ['\r'] ++ []) = content rest.reverse :=
      content_append rfl rfl (.inl rfl) rest.reverse
    rw [List.reverse_cons, ← returned, List.nil_append, List.append_nil]
  next => rfl

/-- Entries only depend on what stands between the newlines. -/
theorem entriesFrom_linesFrom (number : Nat) (reversed text : Text) :
    entriesFrom number (Text.linesFrom reversed text) =
      entriesFrom number ((List.splitOn '\n' text).modifyHead (reversed.reverse ++ ·)) := by
  induction text generalizing number reversed with
  | nil =>
      rw [Text.linesFrom, List.splitOn_nil, List.modifyHead_cons, List.append_nil]
      by_cases empty : reversed = []
      · rw [empty]
        rfl
      · rw [if_neg (by simpa using empty)]
  | cons character rest inductionHypothesis =>
      rw [List.splitOn_cons_eq_if_modifyHead]
      by_cases newline : character = '\n'
      · subst newline
        have others : (List.splitOn '\n' rest).modifyHead ([].reverse ++ ·) =
            List.splitOn '\n' rest := by
          cases List.splitOn '\n' rest <;> rfl
        -- A carriage return in front of the newline goes with the blanks of its line.
        rw [Text.linesFrom, if_pos (beq_self_eq_true '\n'), List.modifyHead_cons, List.append_nil, entriesFrom,
          entriesFrom, content_withoutReturn, inductionHypothesis, others]
      · have step : Text.linesFrom reversed (character :: rest) =
            Text.linesFrom (character :: reversed) rest := by
          rw [Text.linesFrom]
          exact newline
        rw [step, inductionHypothesis, if_neg (by simpa using newline)]
        cases List.splitOn '\n' rest <;> simp

theorem entries_eq_splitOn (text : Text) :
    entries text = entriesFrom 1 (Text.splitOn '\n' text) := by
  have parts : (List.splitOn '\n' text).modifyHead ([].reverse ++ ·) = List.splitOn '\n' text := by
    cases List.splitOn '\n' text <;> rfl
  rw [entries, Text.lines, entriesFrom_linesFrom, parts, Text.splitOn_eq]

end Source

end BnfParsing
