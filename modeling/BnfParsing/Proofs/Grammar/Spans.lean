import BnfParsing.Grammar.Report
import BnfParsing.Proofs.Grammar.Division
import BnfParsing.Proofs.Text.Offsets

/-!
Contract: the parts of a text that spans cover, in bytes and in characters.

A span starts as the offset of a run inside a right side, and is moved by what stands
in front of that right side. Every layer keeps one fact: the text is something, then
the covered part, then something, and the span counts the bytes of the first two.

Owns:
- the part of a text that a span covers, and spans that are moved;
- the characters that the report takes for the bytes of a span;
- the spans of runs, of words and of separators.

Does not own: which span a fault has.
-/

set_option autoImplicit false

namespace BnfParsing

open Text (byteLength)

namespace Span

/-- The part of a text between the two ends of a span, unless the ends are in the
wrong order, past the end of the text, or inside a character. -/
def slice? (span : Span) (text : Text) : Option Text :=
  match Text.cutBytes span.start text, Text.cutBytes span.stop text with
  | .after before, .after through =>
      if span.start ≤ span.stop then some (through.drop before.length) else none
  | _, _ => none

/-- The text is something, then the slice, then something, and the span counts the
bytes up to the slice and through it. -/
def Covers (span : Span) (text slice : Text) : Prop :=
  ∃ before after, text = before ++ slice ++ after ∧
    span = ⟨byteLength before, byteLength (before ++ slice)⟩

variable {span : Span} {text slice : Text}

theorem Covers.whole (text : Text) : (Span.mk 0 (byteLength text)).Covers text text :=
  ⟨[], [], by simp, rfl⟩

theorem Covers.shift (covers : span.Covers text slice) (front back : Text) :
    (span.shift (byteLength front)).Covers (front ++ text ++ back) slice := by
  obtain ⟨before, after, rfl, rfl⟩ := covers
  refine ⟨front ++ before, after ++ back, by simp only [List.append_assoc], ?_⟩
  unfold Span.shift
  simp only [Text.byteLength_append, Nat.add_assoc]

theorem Covers.slice?_eq (covers : span.Covers text slice) : span.slice? text = some slice := by
  obtain ⟨before, after, rfl, rfl⟩ := covers
  have startCut : Text.cutBytes (byteLength before) (before ++ slice ++ after) = .after before := by
    rw [List.append_assoc]
    exact Text.cutBytes_append before (slice ++ after)
  have stopCut := Text.cutBytes_append (before ++ slice) after
  have ordered : byteLength before ≤ byteLength (before ++ slice) := by
    rw [Text.byteLength_append]
    exact Nat.le_add_right _ _
  unfold slice?
  simp only [startCut, stopCut]
  rw [if_pos ordered, List.drop_left]

theorem Covers.within (covers : span.Covers text slice) :
    span.start ≤ span.stop ∧ span.stop ≤ byteLength text := by
  obtain ⟨before, after, rfl, rfl⟩ := covers
  simp only [Text.byteLength_append]
  omega

theorem Covers.start_isBoundary (covers : span.Covers text slice) :
    Text.IsBoundary text span.start := by
  obtain ⟨before, after, rfl, rfl⟩ := covers
  rw [List.append_assoc]
  exact ⟨before, List.prefix_append _ _, rfl⟩

theorem Covers.stop_isBoundary (covers : span.Covers text slice) :
    Text.IsBoundary text span.stop := by
  obtain ⟨before, after, rfl, rfl⟩ := covers
  exact ⟨before ++ slice, List.prefix_append _ _, rfl⟩

end Span

/-- The characters of a text in a range. -/
def Report.CharacterRange.slice (range : Report.CharacterRange) (text : Text) : Text :=
  (text.drop range.start).take (range.stop - range.start)

theorem Report.characterAt_append (front back : Text) :
    Report.characterAt (front ++ back) (byteLength front) = front.length := by
  have within : byteLength front ≤ byteLength (front ++ back) := by
    rw [Text.byteLength_append]
    exact Nat.le_add_right _ _
  unfold Report.characterAt
  rw [Nat.min_eq_left within, Text.cutBytes_append]

/-- The report finds the slice again after counting characters instead of bytes. -/
theorem Span.Covers.slice_characters {span : Span} {text slice : Text}
    (covers : span.Covers text slice) :
    (Report.characters text span).start ≤ (Report.characters text span).stop ∧
      (Report.characters text span).stop ≤ text.length ∧
      (Report.characters text span).slice text = slice := by
  obtain ⟨before, after, rfl, rfl⟩ := covers
  have start : Report.characterAt (before ++ slice ++ after) (byteLength before) =
      before.length := by
    rw [List.append_assoc]
    exact Report.characterAt_append before (slice ++ after)
  have stop := Report.characterAt_append (before ++ slice) after
  unfold Report.characters Report.CharacterRange.slice
  rw [start, stop]
  refine ⟨by simp, by simp, ?_⟩
  rw [List.append_assoc, List.drop_left, List.length_append, Nat.add_sub_cancel_left,
    List.take_left]

/-! ## Runs and words -/

namespace RightSide

variable {stickyRules : Bool} {text : Text} {offset : Nat}

/-- Runs that follow one another from an offset on. -/
def Consecutive : (offset : Nat) → List Run → Prop
  | _, [] => True
  | offset, run :: others =>
      run.start = offset ∧ Consecutive (offset + byteLength run.text) others

theorem consecutive_runs (offset : Nat) (text : Text) : Consecutive offset (runs offset text) := by
  induction text generalizing offset with
  | nil => trivial
  | cons character rest inductionHypothesis =>
      have later := inductionHypothesis (offset + character.utf8Size)
      have alone : offset + byteLength [character] = offset + character.utf8Size := rfl
      unfold runs
      cases others : runs (offset + character.utf8Size) rest with
      | nil => exact ⟨rfl, trivial⟩
      | cons run more =>
          rw [others] at later
          obtain ⟨start, consecutive⟩ := later
          by_cases sameKind : (run.isGap == (character == ' ')) = true
          · simp only [sameKind, if_true]
            refine ⟨rfl, ?_⟩
            rwa [byteLength, ← Nat.add_assoc]
          · simp only [sameKind]
            exact ⟨rfl, start.trans alone.symm, by rwa [alone]⟩

theorem flatMap_text_runs (offset : Nat) (text : Text) :
    (runs offset text).flatMap Run.text = text := by
  induction text generalizing offset with
  | nil => rfl
  | cons character rest inductionHypothesis =>
      have later := inductionHypothesis (offset + character.utf8Size)
      unfold runs
      cases others : runs (offset + character.utf8Size) rest with
      | nil =>
          rw [others] at later
          simp [← later]
      | cons run more =>
          rw [others, List.flatMap_cons] at later
          by_cases sameKind : (run.isGap == (character == ' ')) = true
          · simp [sameKind, later]
          · simp [sameKind, later]

theorem Consecutive.covers {all : List Run} {run : Run} (front : Text)
    (consecutive : Consecutive (byteLength front) all) (member : run ∈ all) :
    run.span.Covers (front ++ all.flatMap Run.text) run.text := by
  induction all generalizing front with
  | nil => exact absurd member List.not_mem_nil
  | cons first others inductionHypothesis =>
      obtain ⟨start, later⟩ := consecutive
      rw [List.flatMap_cons, ← List.append_assoc]
      rcases List.mem_cons.mp member with rfl | inOthers
      · refine ⟨front, others.flatMap Run.text, rfl, ?_⟩
        rw [Run.span, start, Text.byteLength_append]
      · rw [← Text.byteLength_append] at later
        exact inductionHypothesis (front ++ first.text) later inOthers

/-- A run stands where its span says. -/
theorem covers_of_mem_runs {run : Run} (member : run ∈ runs 0 text) :
    run.span.Covers text run.text := by
  have covers := Consecutive.covers [] (consecutive_runs 0 text) member
  rwa [flatMap_text_runs, List.nil_append] at covers

theorem eq_space_of_mem_gap {run : Run} (member : run ∈ runs offset text)
    (isGap : run.isGap = true) : ∀ character ∈ run.text, character = ' ' := by
  induction text generalizing offset run with
  | nil => exact absurd member List.not_mem_nil
  | cons first rest inductionHypothesis =>
      unfold runs at member
      cases others : runs (offset + first.utf8Size) rest with
      | nil =>
          simp only [others, List.mem_singleton] at member
          subst member
          simpa using isGap
      | cons next more =>
          have later : ∀ run ∈ next :: more, run.isGap = true → ∀ character ∈ run.text,
              character = ' ' := by
            intro run inLater
            rw [← others] at inLater
            exact inductionHypothesis inLater
          simp only [others] at member
          split at member
          next sameKind =>
            rcases List.mem_cons.mp member with rfl | inMore
            · have firstSpace : first = ' ' := by simpa using isGap
              have nextGap : next.isGap = true := by
                rw [beq_iff_eq] at sameKind
                exact sameKind.trans isGap
              intro character inText
              rcases List.mem_cons.mp inText with rfl | inNext
              · exact firstSpace
              · exact later next List.mem_cons_self nextGap character inNext
            · exact later run (List.mem_cons_of_mem next inMore) isGap
          next =>
            rcases List.mem_cons.mp member with rfl | inLater
            · simpa using isGap
            · exact later run inLater isGap

/-- A word without its marker starts where the word does. -/
theorem covers_withoutMarker {word : Word} (covers : word.span.Covers text word.text) :
    word.withoutMarker.span.Covers text word.withoutMarker.text := by
  unfold Word.withoutMarker
  split
  next marked =>
    obtain ⟨before, after, split, span⟩ := covers
    obtain ⟨marker, whole⟩ := List.dropLast_prefix word.text
    refine ⟨before, marker ++ after, ?_, ?_⟩
    · show text = before ++ word.text.dropLast ++ (marker ++ after)
      rw [split, List.append_assoc before, List.append_assoc before, ← List.append_assoc _ marker,
        whole]
    · have sameStart : word.start = byteLength before := congrArg Span.start span
      rw [Word.span, sameStart, Text.byteLength_append]
  next => exact covers

theorem covers_of_mem_expand {allWords chosen : List Word}
    (standing : ∀ word ∈ allWords, word.span.Covers text word.text)
    (isChosen : chosen ∈ expand allWords) : ∀ word ∈ chosen, word.span.Covers text word.text := by
  induction allWords generalizing chosen with
  | nil =>
      rw [expand, List.mem_singleton] at isChosen
      simp [isChosen]
  | cons first others inductionHypothesis =>
      rw [List.forall_mem_cons] at standing
      have withFirst : ∀ kept : Word, kept.span.Covers text kept.text →
          chosen ∈ (expand others).map (kept :: ·) →
            ∀ word ∈ chosen, word.span.Covers text word.text := by
        intro kept keptStanding keeps
        obtain ⟨later, isLater, rfl⟩ := List.mem_map.mp keeps
        rw [List.forall_mem_cons]
        exact ⟨keptStanding, inductionHypothesis standing.2 isLater⟩
      unfold expand at isChosen
      split at isChosen
      · rcases List.mem_append.mp isChosen with leftOut | keeps
        · exact inductionHypothesis standing.2 leftOut
        · exact withFirst _ (covers_withoutMarker standing.1) keeps
      · exact withFirst _ standing.1 isChosen

section Splitting

variable {stop : Nat} {tryLast : Bool} {previous : Option Run} {collected : List Word}
variable {remaining : List Run} {raw : List RawAlternative} {located : Located}

theorem eq_of_close_eq_error {allWords : List Word} {span : Span}
    (failed : close allWords tryLast span = .error located) :
    located = (.emptyAlternative, span) := by
  rw [eq_nil_of_close_eq_error failed] at failed
  cases failed
  rfl

/-- Where a right side of runs can fail to split: at a gap, at a separator, or at
its end. -/
inductive FailsAt (stickyRules : Bool) (stop : Nat) (all : List Run) : Located → Prop where
  | gap {run : Run} (member : run ∈ all) (isGap : run.isGap = true) :
      FailsAt stickyRules stop all (.emptyTerminal, run.span)
  | separator {run : Run} (member : run ∈ all) (separates : run.isSeparator stickyRules = true) :
      FailsAt stickyRules stop all (.emptyAlternative, run.span)
  | ending : FailsAt stickyRules stop all (.emptyAlternative, ⟨stop, stop⟩)

theorem FailsAt.cons {rest : List Run} (failsAt : FailsAt stickyRules stop rest located)
    (run : Run) : FailsAt stickyRules stop (run :: rest) located := by
  cases failsAt with
  | gap member isGap => exact .gap (List.mem_cons_of_mem run member) isGap
  | separator member separates => exact .separator (List.mem_cons_of_mem run member) separates
  | ending => exact .ending

theorem failsAt_of_splitFrom
    (failed : splitFrom stickyRules stop previous collected tryLast remaining = .error located) :
    FailsAt stickyRules stop remaining located := by
  induction remaining generalizing previous collected tryLast with
  | nil =>
      unfold splitFrom at failed
      cases closed : close collected tryLast ⟨stop, stop⟩ with
      | error reason =>
          rw [closed] at failed
          cases failed
          rw [eq_of_close_eq_error closed]
          exact .ending
      | ok last =>
          rw [closed] at failed
          cases failed
  | cons run rest inductionHypothesis =>
      unfold splitFrom at failed
      split at failed
      next isGap =>
        simp only at failed
        split at failed
        · cases failed
          exact .gap List.mem_cons_self isGap
        · exact (inductionHypothesis failed).cons run
      next =>
        simp only at failed
        split at failed
        next ends =>
          have separates : run.isSeparator stickyRules = true := (Bool.and_eq_true_iff.mp ends).2
          cases closed : close collected tryLast run.span with
          | error reason =>
              rw [closed] at failed
              cases failed
              rw [eq_of_close_eq_error closed]
              exact .separator List.mem_cons_self separates
          | ok alternative =>
              rw [closed] at failed
              cases others : splitFrom stickyRules stop (some run) []
                  (tryLast || run.isDoubleBar) rest with
              | error reason =>
                  rw [others] at failed
                  cases failed
                  exact (inductionHypothesis others).cons run
              | ok found =>
                  rw [others] at failed
                  cases failed
        next => exact (inductionHypothesis failed).cons run

/-- The words of the alternatives are runs, apart from those collected before. -/
theorem mem_words_of_splitFrom
    (found : splitFrom stickyRules stop previous collected tryLast remaining = .ok raw) :
    ∀ group ∈ raw, ∀ word ∈ group.words,
      word ∈ collected ∨ ∃ run ∈ remaining, word = ⟨run.text, run.start⟩ := by
  induction remaining generalizing previous collected tryLast raw with
  | nil =>
      obtain ⟨-, rfl⟩ := splitFrom_nil_eq_ok_iff.mp found
      intro group isGroup word member
      rw [List.mem_singleton.mp isGroup] at member
      exact .inl (List.mem_reverse.mp member)
  | cons run rest inductionHypothesis =>
      have later : ∀ {words : List Word} {flag : Bool} {more : List RawAlternative},
          splitFrom stickyRules stop (some run) words flag rest = .ok more →
            ∀ group ∈ more, ∀ word ∈ group.words,
              word ∈ words ∨ ∃ found ∈ run :: rest, word = ⟨found.text, found.start⟩ :=
        fun found group isGroup word member =>
          (inductionHypothesis found group isGroup word member).imp_right
            fun ⟨other, inRest, same⟩ => ⟨other, List.mem_cons_of_mem run inRest, same⟩
      rcases splitFrom_cons_cases found with found | found | ⟨-, more, moreFound, rfl⟩
      · exact later found
      · intro group isGroup word member
        rcases later found group isGroup word member with inWords | isRun
        · rcases List.mem_cons.mp inWords with rfl | inCollected
          · exact .inr ⟨run, List.mem_cons_self, rfl⟩
          · exact .inl inCollected
        · exact .inr isRun
      · rw [List.forall_mem_cons]
        constructor
        · exact fun word member => .inl (List.mem_reverse.mp member)
        · intro group isGroup word member
          refine (later moreFound group isGroup word member).imp ?_ id
          simp

/-- The words of a right side stand where their spans say. -/
theorem covers_of_split (found : split text stickyRules = .ok raw) :
    ∀ group ∈ raw, ∀ word ∈ group.words, word.span.Covers text word.text := by
  intro group isGroup word member
  rcases mem_words_of_splitFrom found group isGroup word member with inNil | ⟨run, isRun, rfl⟩
  · simp at inNil
  · exact covers_of_mem_runs isRun

end Splitting

end RightSide

end BnfParsing
