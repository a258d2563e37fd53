import BnfParsing.Proofs.Grammar.Entries
import BnfParsing.Proofs.Grammar.Pieces
import BnfParsing.Proofs.Grammar.SingleCase
import BnfParsing.Proofs.Grammar.Spans

/-!
Contract: where the fault of a rule is, and what it is about.

Owns: the part of a rule that each fault blames, and that the span covers it, for
rules, alternatives and sources.

Does not own: spans, or the drawing under the rule.
-/

set_option autoImplicit false

namespace BnfParsing

open Text (byteLength)

/-! ## Faults -/

/-- What a fault blames: the part of a rule that it is about. -/
def Fault.Blames (rule slice : Text) : Fault → Prop
  | .missingSeparator => slice = rule
  | .multipleSeparators => slice = Compile.separator
  | .emptyLeftHandSide => Text.isAllBlank slice
  | .emptyRightHandSide => Text.isAllBlank slice
  | .emptyAlternative => Text.isAllBlank slice ∨ slice = ['|'] ∨ slice = ['|', '|']
  | .emptyTerminal => ∀ character ∈ slice, character = ' '
  | .unseparatedSymbols word => slice = word
  | .invalidPattern =>
      ∃ front back, rule = front ++ Compile.separator ++ back ∧
        ¬ Compile.separator <:+: front ∧ ¬ Compile.separator <:+: back ∧ slice = Text.trim back
  | .malformedEscape excerpt => ['\\', 'u'] <+: excerpt ∧ excerpt <:+: slice

/-- A fault that was found in a part of a rule and is at what it blames. -/
def RightSide.Located.AtBlamed (rule part : Text) (located : RightSide.Located) : Prop :=
  ∃ slice, located.2.Covers part slice ∧ located.1.Blames rule slice

namespace RightSide

variable {stickyRules : Bool} {text : Text} {located : Located}

theorem atBlamed_of_split (rule : Text) (failed : split text stickyRules = .error located) :
    located.AtBlamed rule text := by
  have failsAt := failsAt_of_splitFrom failed
  cases failsAt with
  | @gap run member isGap =>
      exact ⟨run.text, covers_of_mem_runs member, eq_space_of_mem_gap member isGap⟩
  | @separator run member separates =>
      refine ⟨run.text, covers_of_mem_runs member, .inr ?_⟩
      simp only [Run.isSeparator, Run.isBar, Run.isDoubleBar, Bool.or_eq_true, beq_iff_eq,
        Bool.and_eq_true] at separates
      exact separates.imp_right And.right
  | ending => exact ⟨[], ⟨text, [], by simp, by simp⟩, .inl rfl⟩

end RightSide

namespace Compile

open RightSide (Word Located)

variable {options : CompileOptions} {text : Text}

theorem blames_of_symbol {word : Text} {fault : Fault} (rule : Text)
    (failed : symbol options word = .error fault) : fault.Blames rule word := by
  unfold symbol at failed
  split at failed
  · cases failed
  split at failed
  · cases failed
    rfl
  split at failed
  · cases failed
  split at failed
  next empty =>
    cases failed
    rw [List.isEmpty_iff.mp empty]
    exact fun character member => absurd member List.not_mem_nil
  split at failed
  · cases failed
  next excerpt malformed =>
    cases failed
    exact Escape.excerpt_infix malformed

theorem atBlamed_of_symbols {allWords : List Word} {located : Located} (rule : Text)
    (standing : ∀ word ∈ allWords, word.span.Covers text word.text)
    (failed : symbols options allWords = .error located) : located.AtBlamed rule text := by
  unfold symbols at failed
  split at failed
  · cases failed
  obtain ⟨before, word, after, rfl, -, atWord⟩ := mapM_eq_error_iff.mp failed
  have member : word ∈ before ++ word :: after := List.mem_append_right _ List.mem_cons_self
  cases read : symbol options word.text with
  | ok found =>
      rw [read] at atWord
      cases atWord
  | error fault =>
      rw [read] at atWord
      cases atWord
      exact ⟨word.text, standing word member, blames_of_symbol rule read⟩

theorem atBlamed_of_variants {raw : RightSide.RawAlternative} {located : Located} (rule : Text)
    (standing : ∀ word ∈ raw.words, word.span.Covers text word.text)
    (failed : variants options raw = .error located) : located.AtBlamed rule text := by
  obtain ⟨before, chosen, after, chosenFrom, -, atChosen⟩ := mapM_eq_error_iff.mp failed
  have isChosen : chosen ∈ RightSide.expand raw.words := by
    rw [chosenFrom]
    exact List.mem_append_right _ List.mem_cons_self
  cases read : symbols options chosen with
  | ok found =>
      rw [read] at atChosen
      cases atChosen
  | error reason =>
      rw [read] at atChosen
      cases atChosen
      exact atBlamed_of_symbols rule (RightSide.covers_of_mem_expand standing isChosen) read

theorem atBlamed_of_alternatives {located : Located} (rule : Text)
    (failed : alternatives options text = .error located) : located.AtBlamed rule text := by
  unfold alternatives at failed
  cases divided : RightSide.split text options.stickyRules with
  | error reason =>
      rw [divided] at failed
      cases failed
      exact RightSide.atBlamed_of_split rule divided
  | ok raw =>
      rw [divided] at failed
      cases compiled : raw.mapM (variants options) with
      | ok groups =>
          simp only [bind, Except.bind, compiled] at failed
          cases failed
      | error reason =>
          simp only [bind, Except.bind, compiled] at failed
          cases failed
          obtain ⟨before, group, after, rfl, -, atGroup⟩ := mapM_eq_error_iff.mp compiled
          have isGroup : group ∈ before ++ group :: after :=
            List.mem_append_right _ List.mem_cons_self
          exact atBlamed_of_variants rule (RightSide.covers_of_split divided group isGroup) atGroup

/-! ## Rules -/

/-- Where the separator is found, it stands. -/
theorem prefix_of_mem_occurrencesFrom {pattern : Text} {position skipped found : Nat}
    (member : found ∈ Text.occurrencesFrom pattern position skipped text) :
    ∃ index, found = position + index ∧ pattern <+: text.drop index := by
  induction text generalizing position skipped with
  | nil =>
      unfold Text.occurrencesFrom at member
      exact absurd member List.not_mem_nil
  | cons character rest inductionHypothesis =>
      have later : ∀ {left : Nat}, found ∈ Text.occurrencesFrom pattern (position + 1) left rest →
          ∃ index, found = position + index ∧ pattern <+: (character :: rest).drop index := by
        intro left inRest
        obtain ⟨index, rfl, isPrefix⟩ := inductionHypothesis inRest
        exact ⟨index + 1, by omega, isPrefix⟩
      cases skipped with
      | succ skipped =>
          rw [Text.occurrencesFrom] at member
          exact later member
      | zero =>
          rw [Text.occurrencesFrom] at member
          split at member
          next isPrefix =>
            rcases List.mem_cons.mp member with rfl | inRest
            · exact ⟨0, rfl, List.isPrefixOf_iff_prefix.mp isPrefix⟩
            · exact later inRest
          next => exact later member

/-- A line with one separator. -/
theorem exists_sides_of_occurrences {position : Nat}
    (single : Text.occurrences separator text = [position]) :
    ∃ front back, text = front ++ separator ++ back ∧ position = front.length ∧
      ¬ separator <:+: front ∧ ¬ separator <:+: back := by
  have found : separator <:+: text := by
    by_contra absent
    rw [← occurrencesFrom_separator_eq_nil 0, ← Text.occurrences, single] at absent
    cases absent
  obtain ⟨front, back, rfl, absent⟩ := exists_first_separator found
  rw [Text.occurrences, occurrencesFrom_separator_append 0 absent, List.cons.injEq,
    Nat.zero_add] at single
  exact ⟨front, back, rfl, single.1.symm, absent,
    (occurrencesFrom_separator_eq_nil _).mp single.2⟩

theorem blames_of_pattern {rule rightSide : Text} {fault : Fault}
    (failed : pattern rightSide = .error fault)
    (isRightSide : Fault.invalidPattern.Blames rule rightSide) : fault.Blames rule rightSide := by
  unfold pattern at failed
  split at failed
  next excerpt malformed =>
    cases failed
    exact Escape.excerpt_infix malformed
  next =>
    split at failed
    · cases failed
      exact isRightSide
    · cases failed

theorem isAllBlank_of_trim (empty : Text.trim text = []) : Text.isAllBlank text := by
  obtain ⟨front, back, frontBlank, backBlank, split⟩ := Text.exists_blanks_trim_blanks text
  rw [split, empty, List.append_nil]
  exact Text.isAllBlank_append.mpr ⟨frontBlank, backBlank⟩

/-- The bytes that trimming takes away in front are those of the blanks there. -/
theorem exists_blanks_of_byteLength (text : Text) :
    ∃ blanks ending, text = blanks ++ Text.trim text ++ ending ∧
      byteLength text - byteLength (Text.trimStart text) = byteLength blanks := by
  obtain ⟨blanks, -, startSplit⟩ := Text.exists_blanks_append_trimStart text
  obtain ⟨ending, endSplit⟩ := Text.trimEnd_prefix (Text.trimStart text)
  refine ⟨blanks, ending, ?_, ?_⟩
  · rw [List.append_assoc]
    unfold Text.trim
    rwa [endSplit]
  · have sum := congrArg byteLength startSplit
    rw [Text.byteLength_append] at sum
    omega

/-- A fault in a right side is where it is in the line, once its span is moved. -/
theorem atBlamed_of_rightSide {front back : Text} {located : Located}
    (atBlamed : located.AtBlamed (front ++ separator ++ back) (Text.trim back)) :
    Located.AtBlamed (front ++ separator ++ back) (front ++ separator ++ back)
      (located.1, located.2.shift (byteLength front + byteLength separator +
        (byteLength back - byteLength (Text.trimStart back)))) := by
  obtain ⟨blanks, ending, split, bytes⟩ := exists_blanks_of_byteLength back
  obtain ⟨slice, covers, blames⟩ := atBlamed
  refine ⟨slice, ?_, blames⟩
  have moved := covers.shift (front ++ separator ++ blanks) ending
  have whole : front ++ separator ++ blanks ++ Text.trim back ++ ending =
      front ++ separator ++ back := by
    rw [List.append_assoc (front ++ separator), List.append_assoc (front ++ separator), ← split]
  rw [whole, Text.byteLength_append, Text.byteLength_append] at moved
  rwa [bytes]

end Compile

/-- An invalid rule has its fault where the span is. -/
def InvalidRule.PointsAtFault (invalid : InvalidRule) : Prop :=
  RightSide.Located.AtBlamed invalid.rule invalid.rule (invalid.fault, invalid.span)

namespace Compile

open RightSide (Word Located)

variable {options : CompileOptions} {invalid : InvalidRule}

/-- A separator is where its occurrence says. -/
theorem atBlamed_of_separator {line : Text} {position : Nat}
    (member : position ∈ Text.occurrences separator line) :
    Located.AtBlamed line line (.multipleSeparators,
      ⟨byteLength (line.take position),
        byteLength (line.take position) + byteLength separator⟩) := by
  obtain ⟨index, rfl, after, split⟩ := prefix_of_mem_occurrencesFrom member
  rw [Nat.zero_add]
  refine ⟨separator, ⟨line.take index, after, ?_, ?_⟩, rfl⟩
  · rw [List.append_assoc, split, List.take_append_drop]
  · rw [Text.byteLength_append]

/-- A faulty pattern is blamed as a whole, behind the only separator. -/
theorem atBlamed_of_pattern {front back : Text} {fault : Fault}
    (frontAbsent : ¬ separator <:+: front) (backAbsent : ¬ separator <:+: back)
    (failed : pattern (Text.trim back) = .error fault) :
    Located.AtBlamed (front ++ separator ++ back) (Text.trim back)
      (fault, ⟨0, byteLength (Text.trim back)⟩) := by
  refine ⟨Text.trim back, Span.Covers.whole _, ?_⟩
  exact blames_of_pattern failed ⟨front, back, rfl, frontAbsent, backAbsent, rfl⟩

theorem pointsAtFault_of_rule {line : Text}
    (failed : Compile.rule options line = .error invalid) : invalid.PointsAtFault := by
  unfold Compile.rule at failed
  split at failed
  next =>
    cases failed
    exact ⟨line, Span.Covers.whole line, rfl⟩
  next first second others found =>
    cases failed
    have member : second ∈ Text.occurrences separator line := by
      rw [found]
      exact List.mem_cons_of_mem first List.mem_cons_self
    exact atBlamed_of_separator member
  next position found =>
    obtain ⟨front, back, rfl, rfl, frontAbsent, backAbsent⟩ := exists_sides_of_occurrences found
    have cutFront : (front ++ separator ++ back).take front.length = front := by simp
    have cutBack : (front ++ separator ++ back).drop (front.length + separator.length) = back := by
      rw [← List.length_append, List.drop_left]
    have bytes : byteLength (front ++ separator ++ back) =
        byteLength front + byteLength separator + byteLength back := by
      rw [Text.byteLength_append, Text.byteLength_append]
    simp only [cutFront, cutBack] at failed
    split at failed
    next noName =>
      cases failed
      refine ⟨front, ⟨[], separator ++ back, by simp, rfl⟩, ?_⟩
      exact isAllBlank_of_trim (List.isEmpty_iff.mp noName)
    split at failed
    · split at failed
      · cases failed
      next fault invalidPattern =>
        cases failed
        exact atBlamed_of_rightSide (atBlamed_of_pattern frontAbsent backAbsent invalidPattern)
    split at failed
    next empty =>
      cases failed
      refine ⟨back, ⟨front ++ separator, [], by simp, ?_⟩, ?_⟩
      · show Span.mk (min (byteLength front + byteLength separator) _) _ = _
        rw [Nat.min_eq_left (by omega), ← Text.byteLength_append front]
      · exact isAllBlank_of_trim (List.isEmpty_iff.mp empty)
    split at failed
    · cases failed
    next fault span notCompiled =>
      cases failed
      exact atBlamed_of_rightSide (atBlamed_of_alternatives _ notCompiled)

/-! ## Alternatives -/

theorem covers_of_mem_partsFrom {parts : List Text} {word : Word} (front : Text)
    (member : word ∈ partsFrom (byteLength front) parts) :
    word.span.Covers (front ++ Text.join [' '] parts) word.text := by
  induction parts generalizing front with
  | nil => exact absurd member List.not_mem_nil
  | cons part others inductionHypothesis =>
      unfold partsFrom at member
      rcases List.mem_cons.mp member with rfl | inOthers
      · have isPrefix : part <+: Text.join [' '] (part :: others) := by
          cases others with
          | nil => exact List.prefix_rfl
          | cons next rest =>
              rw [Text.join_cons (List.cons_ne_nil _ _), List.append_assoc]
              exact List.prefix_append _ _
        obtain ⟨after, split⟩ := isPrefix
        refine ⟨front, after, ?_, ?_⟩
        · rw [List.append_assoc, split]
        · rw [RightSide.Word.span, Text.byteLength_append]
      · have nonempty : others ≠ [] := by
          rintro rfl
          exact absurd inOthers List.not_mem_nil
        have step : byteLength front + byteLength part + 1 = byteLength (front ++ part ++ [' ']) := by
          rw [Text.byteLength_append, Text.byteLength_append]
          rfl
        rw [step] at inOthers
        rw [Text.join_cons nonempty, ← List.append_assoc, ← List.append_assoc]
        exact inductionHypothesis (front ++ part ++ [' ']) inOthers

/-- A text of nothing but spaces is trimmed to nothing. -/
theorem trim_eq_nil_of_partsFrom {text : Text}
    (allEmpty : ∀ word ∈ partsFrom 0 (List.splitOn ' ' (Text.trim text)), word.text = []) :
    Text.trim text = [] := by
  have onlySpaces : ∀ character ∈ Text.trim text, character = ' ' := by
    intro character member
    rw [← Text.join_splitOn ' ' (Text.trim text)] at member
    rcases Text.mem_join member with isSpace | ⟨part, isPart, inPart⟩
    · exact List.mem_singleton.mp isSpace
    · rw [← map_text_partsFrom 0 (List.splitOn ' ' (Text.trim text))] at isPart
      obtain ⟨word, isWord, rfl⟩ := List.mem_map.mp isPart
      rw [allEmpty word isWord] at inPart
      exact absurd inPart List.not_mem_nil
  have trimmed := Text.trimmed_trim text
  cases split : Text.trim text with
  | nil => rfl
  | cons first rest =>
      rw [split] at onlySpaces trimmed
      have notBlank := trimmed.head_not_blank first rfl
      rw [onlySpaces first List.mem_cons_self] at notBlank
      cases notBlank

theorem pointsAtFault_of_alternative {text : Text}
    (failed : alternative options text = .error invalid) : invalid.PointsAtFault := by
  unfold alternative at failed
  simp only [Text.splitOn_eq] at failed
  split at failed
  next allEmpty =>
    cases failed
    refine ⟨text, Span.Covers.whole text, .inl (isAllBlank_of_trim ?_)⟩
    apply trim_eq_nil_of_partsFrom
    intro word member
    exact List.isEmpty_iff.mp (List.all_eq_true.mp allEmpty word member)
  next =>
    split at failed
    · cases failed
    next fault span notCompiled =>
      cases failed
      refine atBlamed_of_symbols _ ?_ notCompiled
      intro word member
      have covers := covers_of_mem_partsFrom [] member
      rwa [Text.join_splitOn, List.nil_append] at covers

end Compile

/-! ## Every source -/

theorem Source.pointsAtFault_of_grammar {options : CompileOptions} {text : Text}
    {invalid : InvalidRule} (failed : Source.grammar options text = .error invalid) :
    invalid.PointsAtFault := by
  rw [Source.grammar, map_eq_error_iff, Source.rules_eq_error_iff] at failed
  obtain ⟨before, entry, after, -, -, atEntry⟩ := failed
  unfold Source.Entry.compile at atEntry
  cases compiled : Compile.rule options entry.content with
  | ok rule =>
      rw [compiled] at atEntry
      cases atEntry
  | error fault =>
      rw [compiled] at atEntry
      cases atEntry
      -- the number of the line is no part of what the span is about
      have points : fault.PointsAtFault := Compile.pointsAtFault_of_rule compiled
      exact points

/-- The span of whatever does not compile lies within the text that is reported,
cuts no character, and is at what the fault blames; the report selects the same
characters. -/
theorem InvalidRule.span_selects_blamed (options : CompileOptions) (text : Text)
    (invalid : InvalidRule)
    (failed : Compile.rule options text = .error invalid ∨
      Compile.alternative options text = .error invalid ∨
      Source.grammar options text = .error invalid) :
    invalid.span.start ≤ invalid.span.stop ∧
      invalid.span.stop ≤ byteLength invalid.rule ∧
      Text.IsBoundary invalid.rule invalid.span.start ∧
      Text.IsBoundary invalid.rule invalid.span.stop ∧
      ∃ slice, invalid.span.slice? invalid.rule = some slice ∧
        invalid.fault.Blames invalid.rule slice ∧
        let range := Report.characters invalid.rule invalid.span
        range.start ≤ range.stop ∧ range.stop ≤ invalid.rule.length ∧
          range.slice invalid.rule = slice := by
  have points : invalid.PointsAtFault := by
    rcases failed with ofRule | ofAlternative | ofGrammar
    · exact Compile.pointsAtFault_of_rule ofRule
    · exact Compile.pointsAtFault_of_alternative ofAlternative
    · exact Source.pointsAtFault_of_grammar ofGrammar
  obtain ⟨slice, covers, blames⟩ := points
  have within := covers.within
  exact ⟨within.1, within.2, covers.start_isBoundary, covers.stop_isBoundary, slice,
    covers.slice?_eq, blames, covers.slice_characters⟩

/-- A wide blank and letters of two bytes in front of two symbols without a space. -/
def crowdedSource : Text := "# Größe\n<ß> :=\u2003é <b>? x<c> # …".toList

def crowdedRule : InvalidRule where
  line := some 2
  rule := "<ß> :=\u2003é <b>? x<c>".toList
  span := ⟨18, 22⟩
  fault := .unseparatedSymbols "x<c>".toList

theorem InvalidRule.crowdedRule_selects_blamed :
    Source.grammar {} crowdedSource = .error crowdedRule ∧
      crowdedRule.span.slice? crowdedRule.rule = some "x<c>".toList ∧
      Report.characters crowdedRule.rule crowdedRule.span = ⟨14, 18⟩ := by
  have failed : Source.grammar {} crowdedSource = .error crowdedRule := by decide +kernel
  obtain ⟨-, -, -, -, slice, selected, blamed, -, -, -⟩ :=
    InvalidRule.span_selects_blamed {} crowdedSource crowdedRule (.inr (.inr failed))
  have isWord : slice = "x<c>".toList := blamed
  exact ⟨failed, isWord ▸ selected, by decide⟩

end BnfParsing
