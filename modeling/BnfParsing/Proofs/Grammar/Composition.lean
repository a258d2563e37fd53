import BnfParsing.Proofs.Grammar.Entries

/-!
Contract: a grammar is composed of what its lines hold.

Lines are compiled one by one and their rules merged in order. A newline inside a
text therefore divides its grammar as well: the rules behind it can be merged among
themselves first. A line that is dressed differently, in blanks and a comment, or
dressed without holding anything, moves line numbers at most.

Owns:
- the grammar of two texts with a newline between them;
- lines in other dress, and lines of dress alone.

Does not own: entries, or the merging of rules.
-/

set_option autoImplicit false

namespace BnfParsing

theorem InvalidRule.lower_eq_atLine {invalid : InvalidRule} {line : Nat}
    (placed : invalid.line = some line) (count : Nat) :
    invalid.lower count = invalid.atLine (line + count) := by
  unfold lower atLine
  rw [placed, Option.map_some]

namespace Source

variable {options : CompileOptions} {lines dressed : List Text}

/-! ## Both sides of a newline -/

/-- Behind a newline, lines are counted on. -/
theorem entries_append_newline (first second : Text) :
    entries (first ++ '\n' :: second) =
      entries first ++ (entries second).map (Entry.lower (first.count '\n' + 1)) := by
  simp only [entries_eq_splitOn, Text.splitOn_eq]
  rw [List.splitOn_append_cons_self, entriesFrom_append, Text.length_splitOn, entriesFrom_add]

theorem rules_append_newline (options : CompileOptions) (first second : Text) :
    rules options (first ++ '\n' :: second) = do
      let front ← rules options first
      let back ← (rules options second).mapError (.lower (first.count '\n' + 1))
      return front ++ back := by
  have lowered : Entry.compile options ∘ Entry.lower (first.count '\n' + 1) =
      fun entry => (entry.compile options).mapError (.lower (first.count '\n' + 1)) := by
    funext entry
    exact Entry.compile_lower options _ entry
  simp only [rules_eq_mapM]
  rw [entries_append_newline, List.mapM_append, List.mapM_map, lowered, mapM_mapError]

/-- The rules behind a newline may be merged among themselves first. -/
theorem grammar_append_newline (options : CompileOptions) (first second : Text) :
    grammar options (first ++ '\n' :: second) = do
      let front ← grammar options first
      let back ← (grammar options second).mapError (.lower (first.count '\n' + 1))
      return front.extend back.rules := by
  simp only [grammar, rules_append_newline]
  cases rules options first with
  | error invalid => rfl
  | ok front =>
      cases rules options second with
      | error invalid => rfl
      | ok back =>
          -- Merging the rules of the second text among themselves makes no difference.
          show Except.ok (Grammar.ofList (front ++ back)) =
            .ok ((Grammar.ofList front).extend (Grammar.ofList back).rules)
          rw [Grammar.extend_ofList_rules, Grammar.ofList, Grammar.extend_append, Grammar.ofList]

/-- A source without a grammar is at fault on some line. -/
theorem exists_line_of_grammar {text : Text} {invalid : InvalidRule}
    (failed : grammar options text = .error invalid) : ∃ line, invalid.line = some line := by
  have noRules : rules options text = .error invalid := by
    unfold grammar at failed
    cases compiled : rules options text with
    | ok found =>
        rw [compiled] at failed
        cases failed
    | error fault =>
        rw [compiled] at failed
        cases failed
        rfl
  rw [rules_eq_mapM, mapM_eq_error_iff] at noRules
  obtain ⟨before, entry, after, -, -, atEntry⟩ := noRules
  exact ⟨entry.number, Entry.line_of_compile atEntry⟩

/-! ## Lines in other dress -/

/-- Blanks for both sides of a line and a comment for its end, all without a
newline. -/
structure Dressing where
  front : Text
  back : Text
  comment : Text
  front_blank : Text.isAllBlank front
  back_blank : Text.isAllBlank back
  isComment : IsComment comment
  noNewline : '\n' ∉ front ++ back ++ comment

/-- The line in its dress. -/
def Dressing.dress (dressing : Dressing) (line : Text) : Text :=
  dressing.front ++ line ++ dressing.back ++ dressing.comment

/-- Lines that are dressed, with lines of dress alone between them. -/
inductive Redressed : List Text → List Text → Prop where
  | nil : Redressed [] []
  | inserted {lines dressed : List Text} (dressing : Dressing)
      (others : Redressed lines dressed) : Redressed lines (dressing.dress [] :: dressed)
  | kept {lines dressed : List Text} (line : Text) (dressing : Dressing)
      (others : Redressed lines dressed) :
      Redressed (line :: lines) (dressing.dress line :: dressed)

theorem content_dress (dressing : Dressing) (line : Text) :
    content (dressing.dress line) = content line :=
  content_append dressing.front_blank dressing.back_blank dressing.isComment line

namespace Redressed

theorem map_content_entriesFrom (redressed : Redressed lines dressed) (number other : Nat) :
    (entriesFrom other dressed).map Entry.content =
      (entriesFrom number lines).map Entry.content := by
  induction redressed generalizing number other with
  | nil => rfl
  | inserted dressing _ inductionHypothesis =>
      have noContent : content [] = [] := rfl
      rw [entriesFrom, content_dress, if_pos noContent]
      exact inductionHypothesis number (other + 1)
  | kept line dressing _ inductionHypothesis =>
      rw [entriesFrom, entriesFrom, content_dress]
      by_cases blank : content line = []
      · rw [if_pos blank, if_pos blank]
        exact inductionHypothesis (number + 1) (other + 1)
      · rw [if_neg blank, if_neg blank, List.map_cons, List.map_cons,
          inductionHypothesis (number + 1) (other + 1)]

theorem noNewline (redressed : Redressed lines dressed)
    (noneInLines : ∀ line ∈ lines, '\n' ∉ line) : ∀ line ∈ dressed, '\n' ∉ line := by
  have dress : ∀ (dressing : Dressing) (line : Text),
      '\n' ∉ line → '\n' ∉ dressing.dress line := by
    intro dressing line noneInLine inDress
    have noneInDressing := dressing.noNewline
    simp only [Dressing.dress, List.mem_append] at inDress noneInDressing
    tauto
  induction redressed with
  | nil => exact noneInLines
  | inserted dressing _ inductionHypothesis =>
      rw [List.forall_mem_cons]
      exact ⟨dress dressing [] List.not_mem_nil, inductionHypothesis noneInLines⟩
  | kept line dressing _ inductionHypothesis =>
      rw [List.forall_mem_cons] at noneInLines ⊢
      exact ⟨dress dressing line noneInLines.1, inductionHypothesis noneInLines.2⟩

theorem ne_nil (redressed : Redressed lines dressed) (nonempty : lines ≠ []) : dressed ≠ [] := by
  cases redressed with
  | nil => exact nonempty
  | inserted => exact List.cons_ne_nil _ _
  | kept => exact List.cons_ne_nil _ _

theorem splitOn_join {text : Text} (redressed : Redressed (Text.splitOn '\n' text) dressed) :
    Text.splitOn '\n' (Text.join ['\n'] dressed) = dressed := by
  rw [Text.splitOn_eq] at redressed ⊢
  apply Text.splitOn_join
  · exact redressed.ne_nil (List.splitOn_ne_nil '\n' text)
  · apply redressed.noNewline
    intro line member
    exact Text.not_mem_of_mem_splitOn member

end Redressed

/-- But for line numbers, a grammar comes from the contents of its lines. -/
theorem grammar_mapError_withoutLine (options : CompileOptions) (text : Text) :
    (grammar options text).mapError InvalidRule.withoutLine =
      (((entries text).map Entry.content).mapM fun content =>
        (Compile.rule options content).mapError InvalidRule.withoutLine).map Grammar.ofList := by
  have unplaced : (fun entry : Entry => (entry.compile options).mapError InvalidRule.withoutLine) =
      (fun content => (Compile.rule options content).mapError InvalidRule.withoutLine) ∘
        Entry.content := by
    funext entry
    unfold Entry.compile
    rw [Function.comp_apply]
    cases Compile.rule options entry.content <;> rfl
  rw [List.mapM_map, ← unplaced, mapM_mapError, ← rules_eq_mapM, grammar]
  cases rules options text <;> rfl

/-- A grammar text is composed of its lines. Two texts with a newline between them
compile if both do, to the first grammar with the rules of the second merged in; the
error is the one of the first text or else the one of the second, further down. And
apart from the line numbers of errors, neither the dress of a line nor a line of
dress alone makes a difference. -/
theorem grammar_composed_of_lines (options : CompileOptions) :
    (∀ first second : Text,
      ((∃ whole, grammar options (first ++ '\n' :: second) = .ok whole) ↔
        (∃ front, grammar options first = .ok front) ∧
          ∃ back, grammar options second = .ok back) ∧
      (∀ front back, grammar options first = .ok front → grammar options second = .ok back →
        grammar options (first ++ '\n' :: second) = .ok (front.extend back.rules)) ∧
      (∀ invalid, grammar options first = .error invalid →
        grammar options (first ++ '\n' :: second) = .error invalid) ∧
      ∀ front invalid, grammar options first = .ok front →
        grammar options second = .error invalid →
        ∃ line, invalid.line = some line ∧
          grammar options (first ++ '\n' :: second) =
            .error (invalid.atLine (line + (first.count '\n' + 1)))) ∧
    ∀ (text : Text) (dressed : List Text), Redressed (Text.splitOn '\n' text) dressed →
      (grammar options (Text.join ['\n'] dressed)).mapError InvalidRule.withoutLine =
        (grammar options text).mapError InvalidRule.withoutLine := by
  constructor
  · intro first second
    rw [grammar_append_newline]
    refine ⟨?_, ?_, ?_, ?_⟩
    · cases grammar options first <;> cases grammar options second <;>
        simp [bind, Except.bind, pure, Except.pure, Except.mapError]
    · intro front back frontCompiles backCompiles
      rw [frontCompiles, backCompiles]
      rfl
    · intro invalid frontFails
      rw [frontFails]
      rfl
    · intro front invalid frontCompiles backFails
      obtain ⟨line, placed⟩ := exists_line_of_grammar backFails
      refine ⟨line, placed, ?_⟩
      rw [frontCompiles, backFails, ← InvalidRule.lower_eq_atLine placed]
      rfl
  · intro text dressed redressed
    rw [grammar_mapError_withoutLine, grammar_mapError_withoutLine, entries_eq_splitOn,
      entries_eq_splitOn, redressed.splitOn_join, redressed.map_content_entriesFrom 1 1]

/-- Two rules, of which the second refers to the first. -/
def numbers : Text := "<n> := 1\n<m> := <n>".toList

/-- Alternatives for the first of them, and a new rule. -/
def moreNumbers : Text := "<n> := 2 | 3\n\n<k> := <m>".toList

/-- A rule, a comment and a line that is no rule. -/
def faultyNumbers : Text := "<n> := 4\n# five\n<n> 5".toList

def numbersGrammar : Grammar :=
  .ofList [⟨"<n>".toList, [{ symbols := [.terminal ['1'] true] }]⟩,
    ⟨"<m>".toList, [{ symbols := [.nonTerminal "<n>".toList] }]⟩]

def moreNumbersGrammar : Grammar :=
  .ofList [⟨"<n>".toList,
      [{ symbols := [.terminal ['2'] true] }, { symbols := [.terminal ['3'] true] }]⟩,
    ⟨"<k>".toList, [{ symbols := [.nonTerminal "<m>".toList] }]⟩]

def numbersFault : InvalidRule :=
  { line := some 3
    rule := "<n> 5".toList
    span := ⟨0, 5⟩
    fault := .missingSeparator }

def dressedNumbers : List Text :=
  ["  # first".toList, "\t<n> := 1 # one".toList, [], "<m> := <n>\r".toList]

theorem redressed_numbers : Redressed (Text.splitOn '\n' numbers) dressedNumbers :=
  .inserted ⟨"  ".toList, [], "# first".toList, by decide, by decide, .inr ⟨_, rfl⟩, by decide⟩ <|
  .kept _ ⟨['\t'], [' '], "# one".toList, by decide, by decide, .inr ⟨_, rfl⟩, by decide⟩ <|
  .inserted ⟨[], [], [], by decide, by decide, .inl rfl, by decide⟩ <|
  .kept _ ⟨[], ['\r'], [], by decide, by decide, .inl rfl, by decide⟩ .nil

theorem numbers_composed_of_lines :
    grammar {} numbers = .ok numbersGrammar ∧ grammar {} moreNumbers = .ok moreNumbersGrammar ∧
    grammar {} (numbers ++ '\n' :: moreNumbers) =
      .ok (numbersGrammar.extend moreNumbersGrammar.rules) ∧
    grammar {} faultyNumbers = .error numbersFault ∧
    grammar {} (faultyNumbers ++ '\n' :: numbers) = .error numbersFault ∧
    grammar {} (numbers ++ '\n' :: faultyNumbers) = .error (numbersFault.atLine 5) ∧
    Redressed (Text.splitOn '\n' numbers) dressedNumbers ∧
    (grammar {} (Text.join ['\n'] dressedNumbers)).mapError InvalidRule.withoutLine =
      .ok numbersGrammar := by
  have compiles : grammar {} numbers = .ok numbersGrammar := by decide
  have moreCompile : grammar {} moreNumbers = .ok moreNumbersGrammar := by decide
  have fails : grammar {} faultyNumbers = .error numbersFault := by decide
  obtain ⟨composed, inDress⟩ := grammar_composed_of_lines {}
  obtain ⟨-, merged, -, -⟩ := composed numbers moreNumbers
  obtain ⟨-, -, firstFails, -⟩ := composed faultyNumbers numbers
  obtain ⟨-, -, -, secondFails⟩ := composed numbers faultyNumbers
  obtain ⟨line, placed, furtherDown⟩ := secondFails _ _ compiles fails
  cases placed
  have sameInDress := inDress numbers dressedNumbers redressed_numbers
  rw [compiles] at sameInDress
  exact ⟨compiles, moreCompile, merged _ _ compiles moreCompile, fails, firstFails _ fails,
    furtherDown, redressed_numbers, sameInDress⟩

end Source

end BnfParsing
