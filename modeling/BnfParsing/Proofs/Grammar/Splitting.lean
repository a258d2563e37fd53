import BnfParsing.Proofs.Grammar.SingleCase
import BnfParsing.Proofs.Grammar.Spans

/-!
Contract: a right side is its alternatives again, put together with the separators.

A word is a maximal run of characters other than spaces, and a separator is a bar with a word
on both sides. Nothing else is taken out of a right side that splits, and nothing is added.

Owns:
- the words of a text with their places, which are its maximal runs in order;
- alternatives with the separators in front of them, kept along the runs;
- the alternatives of a right side in these terms, and separators side by side.

Does not own: the single spaces that a right side needs in order to split.
-/

set_option autoImplicit false

namespace BnfParsing.RightSide

variable {stickyRules : Bool} {offset : Nat} {text : Text} {word : Word}

/-! ## Words with their places -/

/-- A maximal run of characters other than spaces, with the byte offset of its place in a text
that starts at an offset. -/
structure IsMaximalRun (offset : Nat) (text : Text) (word : Word) : Prop where
  nonempty : word.text ≠ []
  spaceless : ' ' ∉ word.text
  stands : ∃ before after, text = before ++ word.text ++ after ∧
    word.start = offset + Text.byteLength before ∧
    (before = [] ∨ ∃ earlier, before = earlier ++ [' ']) ∧
    (after = [] ∨ ∃ later, after = ' ' :: later)

/-- The parts of a text between its spaces with the byte offsets at which they start, empty ones
left out. -/
def placedWords (offset : Nat) (text : Text) : List Word :=
  (Compile.partsFrom offset (List.splitOn ' ' text)).filter fun word => !word.text.isEmpty

theorem map_text_placedWords (offset : Nat) (text : Text) :
    (placedWords offset text).map Word.text = Text.words text := by
  have filtered : (placedWords offset text).map Word.text =
      ((Compile.partsFrom offset (List.splitOn ' ' text)).map Word.text).filter
        fun part => !part.isEmpty := by
    rw [placedWords, List.filter_map]
    rfl
  rw [filtered, Compile.map_text_partsFrom]
  rfl

theorem placedWords_of_spaceless {part : Text} (nonempty : part ≠ []) (spaceless : ' ' ∉ part)
    (offset : Nat) : placedWords offset part = [⟨part, offset⟩] := by
  rw [placedWords, List.splitOn_eq_singleton spaceless]
  simp [Compile.partsFrom, nonempty]

/-- A space divides the words, and those behind it start after it. -/
theorem placedWords_append_space (offset : Nat) (front back : Text) :
    placedWords offset (front ++ ' ' :: back) =
      placedWords offset front ++ placedWords (offset + Text.byteLength front + 1) back := by
  have behindPart : ∀ (position : Nat) (part rest : Text), ' ' ∉ part →
      placedWords position (part ++ ' ' :: rest) =
        placedWords position part ++ placedWords (position + Text.byteLength part + 1) rest := by
    intro position part rest spaceless
    rw [placedWords, placedWords, placedWords, List.splitOn_append_cons_self,
      List.splitOn_eq_singleton spaceless, List.singleton_append, Compile.partsFrom,
      ← List.filter_append]
    rfl
  induction front using Text.induction_on_spaces generalizing offset with
  | spaceless front spaceless => exact behindPart offset front back spaceless
  | spaced first front spaceless inductionHypothesis =>
      have width : offset + Text.byteLength (first ++ ' ' :: front) + 1 =
          offset + Text.byteLength first + 1 + Text.byteLength front + 1 := by
        rw [Text.byteLength_append_space]
        omega
      rw [List.append_assoc, List.cons_append, behindPart offset first _ spaceless,
        behindPart offset first front spaceless, inductionHypothesis, width, List.append_assoc]

/-- The placed words are the maximal runs. -/
theorem mem_placedWords_iff : word ∈ placedWords offset text ↔ IsMaximalRun offset text word := by
  constructor
  · intro member
    induction text using Text.induction_on_spaces generalizing offset with
    | spaceless text spaceless =>
        by_cases empty : text = []
        · subst empty
          exact absurd member List.not_mem_nil
        · rw [placedWords_of_spaceless empty spaceless, List.mem_singleton] at member
          subst member
          exact ⟨empty, spaceless, [], [], by simp, rfl, .inl rfl, .inl rfl⟩
    | spaced front back frontSpaceless inductionHypothesis =>
        rw [placedWords_append_space, List.mem_append] at member
        rcases member with inFront | inBack
        · by_cases empty : front = []
          · subst empty
            exact absurd inFront List.not_mem_nil
          · rw [placedWords_of_spaceless empty frontSpaceless, List.mem_singleton] at inFront
            subst inFront
            exact ⟨empty, frontSpaceless, [], ' ' :: back, rfl, rfl, .inl rfl, .inr ⟨back, rfl⟩⟩
        · obtain ⟨nonempty, spaceless, before, after, rfl, place, atFront, atBack⟩ :=
            inductionHypothesis inBack
          refine ⟨nonempty, spaceless, front ++ ' ' :: before, after, by simp, ?_, .inr ?_,
            atBack⟩
          · rw [place, Text.byteLength_append_space]
            omega
          · rcases atFront with rfl | ⟨earlier, rfl⟩
            · exact ⟨front, rfl⟩
            · exact ⟨front ++ ' ' :: earlier, by simp⟩
  · rintro ⟨nonempty, spaceless, before, after, rfl, place, atFront, atBack⟩
    have withAfter : ∀ position,
        ⟨word.text, position⟩ ∈ placedWords position (word.text ++ after) := by
      intro position
      rcases atBack with rfl | ⟨later, rfl⟩
      · rw [List.append_nil, placedWords_of_spaceless nonempty spaceless]
        exact List.mem_cons_self
      · rw [placedWords_append_space, placedWords_of_spaceless nonempty spaceless]
        exact List.mem_cons_self
    obtain ⟨wordText, start⟩ := word
    obtain rfl : start = offset + Text.byteLength before := place
    rcases atFront with rfl | ⟨earlier, rfl⟩
    · exact withAfter offset
    · rw [List.append_assoc, List.append_assoc, List.singleton_append, placedWords_append_space,
        Text.byteLength_append_space, ← Nat.add_assoc, ← Nat.add_assoc]
      exact List.mem_append_right _ (withAfter _)

/-- The placed words come in the order of their places. -/
theorem pairwise_placedWords (offset : Nat) (text : Text) :
    (placedWords offset text).Pairwise fun earlier later => earlier.span.stop < later.start := by
  induction text using Text.induction_on_spaces generalizing offset with
  | spaceless text spaceless =>
      by_cases empty : text = []
      · subst empty
        exact .nil
      · rw [placedWords_of_spaceless empty spaceless]
        exact List.pairwise_singleton _ _
  | spaced front back spaceless inductionHypothesis =>
      rw [placedWords_append_space]
      by_cases empty : front = []
      · subst empty
        exact inductionHypothesis _
      · rw [placedWords_of_spaceless empty spaceless, List.singleton_append, List.pairwise_cons]
        refine ⟨fun later member => ?_, inductionHypothesis _⟩
        obtain ⟨-, -, before, -, -, place, -⟩ := mem_placedWords_iff.mp member
        simp only [place, Word.span]
        omega

/-! ## Words among the runs -/

/-- The runs that are not gaps, as words. -/
def runWords (all : List Run) : List Word :=
  (all.filter fun run => !run.isGap).map fun run => ⟨run.text, run.start⟩

theorem runWords_gap {run : Run} (isGap : run.isGap = true) (others : List Run) :
    runWords (run :: others) = runWords others := by
  rw [runWords, List.filter_cons, isGap]
  rfl

theorem runWords_word {run : Run} (notGap : run.isGap = false) (others : List Run) :
    runWords (run :: others) = ⟨run.text, run.start⟩ :: runWords others := by
  rw [runWords, List.filter_cons, notGap]
  rfl

/-- A space in front adds no word. -/
theorem runWords_runs_space (offset : Nat) (rest : Text) :
    runWords (runs offset (' ' :: rest)) = runWords (runs (offset + 1) rest) := by
  have width : ' '.utf8Size = 1 := rfl
  rw [runs, width]
  cases runs (offset + 1) rest with
  | nil => rfl
  | cons run more =>
      cases isGap : run.isGap with
      | true => simp only [isGap, beq_self_eq_true, if_true, runWords_gap]
      | false => simp only [isGap, beq_self_eq_true, Bool.false_beq, Bool.not_true, if_false,
          Bool.false_eq_true, runWords_gap]

/-- A word is one run, up to a space or the end of the text. -/
theorem runs_word {word after : Text} (nonempty : word ≠ []) (spaceless : ' ' ∉ word)
    (ends : ∀ next ∈ after.head?, next = ' ') (offset : Nat) :
    runs offset (word ++ after) =
      ⟨false, word, offset⟩ :: runs (offset + Text.byteLength word) after := by
  induction word generalizing offset with
  | nil => exact absurd rfl nonempty
  | cons first rest inductionHypothesis =>
      rw [List.mem_cons, not_or] at spaceless
      have notSpace : (first == ' ') = false := by simpa using Ne.symm spaceless.1
      cases rest with
      | nil =>
          have width : Text.byteLength [first] = first.utf8Size := rfl
          rw [List.singleton_append, runs, width]
          cases after with
          | nil => simp [runs, notSpace]
          | cons next back =>
              obtain rfl : next = ' ' := ends next rfl
              obtain ⟨text, more, divided⟩ := exists_runs_cons (offset + first.utf8Size) ' ' back
              simp [divided, notSpace]
      | cons second rest =>
          have later := inductionHypothesis (List.cons_ne_nil _ _) spaceless.2
            (offset + first.utf8Size)
          have width : offset + Text.byteLength (first :: second :: rest) =
              offset + first.utf8Size + Text.byteLength (second :: rest) :=
            (Nat.add_assoc _ _ _).symm
          rw [List.cons_append, runs, later, width]
          simp [notSpace]

/-- The program finds the words that stand between the spaces. -/
theorem runWords_runs (offset : Nat) (text : Text) :
    runWords (runs offset text) = placedWords offset text := by
  induction text using Text.induction_on_spaces generalizing offset with
  | spaceless text spaceless =>
      by_cases empty : text = []
      · subst empty
        rfl
      · have oneRun : runs offset (text ++ []) = [⟨false, text, offset⟩] :=
          runs_word empty spaceless (by simp) offset
        rw [List.append_nil] at oneRun
        rw [oneRun, placedWords_of_spaceless empty spaceless]
        rfl
  | spaced front back spaceless inductionHypothesis =>
      rw [placedWords_append_space, ← inductionHypothesis]
      by_cases empty : front = []
      · subst empty
        exact runWords_runs_space offset back
      · rw [runs_word empty spaceless (by simp), runWords_word rfl, runWords_runs_space,
          placedWords_of_spaceless empty spaceless, List.singleton_append]

theorem Alternating.map_text_runWords {gapFirst : Bool} {all : List Run} {texts : List Text}
    (alternating : Alternating gapFirst all texts) : (runWords all).map Word.text = texts := by
  induction alternating with
  | last notGap => rw [runWords_word notGap]; rfl
  | word notGap _ inductionHypothesis =>
      rw [runWords_word notGap, List.map_cons, inductionHypothesis]
  | gap isGap _ inductionHypothesis => rw [runWords_gap isGap, inductionHypothesis]

theorem Alternating.runWords_ne_nil {gapFirst : Bool} {all : List Run} {texts : List Text}
    (alternating : Alternating gapFirst all texts) : runWords all ≠ [] := by
  intro empty
  apply alternating.words_ne_nil
  rw [← alternating.map_text_runWords, empty, List.map_nil]

/-! ## Alternatives and separators -/

/-- The bars that have a word on both sides. -/
def separators (stickyRules : Bool) (allWords : List Word) : List Word :=
  allWords.tail.dropLast.filter fun word => isBar stickyRules word.text

/-- Alternatives, all but the first of them with a bar in front, that give back all words and
whose bars are the given ones. The flag tells whether a double bar stands in front of them
all. -/
structure GivesBack (tryLast : Bool) (allWords bars : List Word) (first : RawAlternative)
    (others : List (Word × RawAlternative)) : Prop where
  words_eq : (first.words ++ others.flatMap fun other => other.1 :: other.2.words) = allWords
  bars_eq : others.map Prod.fst = bars
  first_full : first.words ≠ []
  others_full : ∀ other ∈ others, other.2.words ≠ []
  tryLast_iff : ∀ place alternative, (first :: others.map Prod.snd)[place]? = some alternative →
    (alternative.tryLast = true ↔
      tryLast = true ∨ ∃ bar ∈ bars.take place, bar.text = ['|', '|'])

namespace GivesBack

variable {tryLast : Bool} {allWords bars : List Word} {first : RawAlternative}
variable {others : List (Word × RawAlternative)}

theorem single (tryLast : Bool) (full : allWords ≠ []) :
    GivesBack tryLast allWords [] ⟨allWords, tryLast⟩ [] where
  words_eq := List.append_nil allWords
  bars_eq := rfl
  first_full := full
  others_full := by simp
  tryLast_iff := by
    intro place alternative found
    cases place with
    | zero =>
        obtain rfl : _ = alternative := Option.some.inj found
        simp
    | succ place => simp at found

/-- One more alternative, with its words and a bar, in front. -/
theorem cons {run : Run} {frontWords : List Word} (full : frontWords ≠ [])
    (later : GivesBack (tryLast || run.isDoubleBar) allWords bars first others) :
    GivesBack tryLast (frontWords ++ ⟨run.text, run.start⟩ :: allWords)
      (⟨run.text, run.start⟩ :: bars) ⟨frontWords, tryLast⟩
      ((⟨run.text, run.start⟩, first) :: others) where
  words_eq := by rw [List.flatMap_cons, List.cons_append, later.words_eq]
  bars_eq := by rw [List.map_cons, later.bars_eq]
  first_full := full
  others_full := List.forall_mem_cons.mpr ⟨later.first_full, later.others_full⟩
  tryLast_iff := by
    intro place alternative found
    cases place with
    | zero =>
        obtain rfl : _ = alternative := Option.some.inj found
        simp
    | succ place =>
        rw [later.tryLast_iff place alternative found, Bool.or_eq_true, Run.isDoubleBar,
          beq_iff_eq, or_assoc]
        simp only [List.take_succ_cons, List.mem_cons, exists_eq_or_imp]

theorem full (givesBack : GivesBack tryLast allWords bars first others) :
    ∀ alternative ∈ first :: others.map Prod.snd, alternative.words ≠ [] :=
  List.forall_mem_cons.mpr
    ⟨givesBack.first_full, List.forall_mem_map.mpr givesBack.others_full⟩

end GivesBack

/-- Along the runs, what has been collected and what is left come out again. -/
theorem givesBack_of_splitFrom {stop : Nat} {gapFirst tryLast : Bool} {previous : Option Run}
    {collected : List Word} {remaining : List Run} {texts : List Text}
    {raw : List RawAlternative} (alternating : Alternating gapFirst remaining texts)
    (afterGap : gapFirst = false → previous.any Run.isGap = true)
    (found : splitFrom stickyRules stop previous collected tryLast remaining = .ok raw) :
    ∃ first others, raw = first :: others.map Prod.snd ∧
      GivesBack tryLast (collected.reverse ++ runWords remaining)
        ((runWords remaining).dropLast.filter fun word => isBar stickyRules word.text)
        first others := by
  induction alternating generalizing previous collected tryLast raw with
  | @last run notGap =>
      rw [splitFrom_word notGap (by simp [endsAlternative]), splitFrom_nil_eq_ok_iff] at found
      obtain ⟨-, rfl⟩ := found
      rw [List.reverse_cons, runWords_word notGap]
      exact ⟨_, [], rfl, .single tryLast (by simp)⟩
  | @word run runs texts notGap others inductionHypothesis =>
      have ends : endsAlternative stickyRules previous run runs = isBar stickyRules run.text :=
        endsAlternative_eq_isBar (afterGap rfl) others.gap_ahead
      rw [runWords_word notGap, List.dropLast_cons_of_ne_nil others.runWords_ne_nil]
      cases bar : isBar stickyRules run.text with
      | true =>
          obtain ⟨full, later, laterFound, rfl⟩ :=
            (splitFrom_bar_eq_ok_iff notGap (ends.trans bar)).mp found
          obtain ⟨first, rest, rfl, givesBack⟩ := inductionHypothesis (by simp) laterFound
          simp only [List.filter_cons, bar, if_true]
          exact ⟨_, (⟨run.text, run.start⟩, first) :: rest, rfl,
            .cons (List.reverse_ne_nil_iff.mpr full) givesBack⟩
      | false =>
          rw [splitFrom_word notGap (ends.trans bar)] at found
          obtain ⟨first, rest, rfl, givesBack⟩ := inductionHypothesis (by simp) found
          simp only [List.filter_cons, bar, Bool.false_eq_true, if_false]
          rw [List.reverse_cons, List.append_assoc] at givesBack
          exact ⟨first, rest, rfl, givesBack⟩
  | @gap run runs texts isGap others inductionHypothesis =>
      obtain ⟨-, found⟩ := (splitFrom_gap_eq_ok_iff isGap).mp found
      rw [runWords_gap isGap]
      exact inductionHypothesis (by simp [isGap]) found

section Split

variable {raw : List RawAlternative}

theorem givesBack_of_split (nonempty : text ≠ []) (trimmed : Text.Trimmed text)
    (found : split text stickyRules = .ok raw) :
    ∃ first others, raw = first :: others.map Prod.snd ∧
      GivesBack false (placedWords 0 text) (separators stickyRules (placedWords 0 text))
        first others := by
  obtain ⟨run, rest, allRuns, notGap, ⟨rfl, -⟩ | ⟨_, alternating, -⟩⟩ :=
    exists_first_word nonempty trimmed
  · rw [split, allRuns, splitFrom_word notGap rfl, splitFrom_nil_eq_ok_iff] at found
    obtain ⟨-, rfl⟩ := found
    rw [← runWords_runs, allRuns, runWords_word notGap]
    exact ⟨_, [], rfl, .single false (List.cons_ne_nil _ _)⟩
  · -- the first word is collected before any bar can be a separator
    rw [split, allRuns, splitFrom_word notGap rfl] at found
    rw [← runWords_runs, allRuns, runWords_word notGap]
    exact givesBack_of_splitFrom alternating (by simp) found

/-- Between two bars there is an empty group. -/
theorem nil_mem_tail_divide {before after : List Text} {left right : Text}
    (afterFull : after ≠ []) (leftBar : isBar stickyRules left = true)
    (rightBar : isBar stickyRules right = true) :
    [] ∈ (divide stickyRules (before ++ left :: right :: after)).tail := by
  induction before with
  | nil =>
      rw [List.nil_append, divide_bar leftBar (List.cons_ne_nil _ _),
        divide_bar rightBar afterFull]
      exact List.mem_cons_self
  | cons word before inductionHypothesis =>
      have more : before ++ left :: right :: after ≠ [] := by simp
      rw [List.cons_append]
      cases bar : isBar stickyRules word with
      | true =>
          rw [divide_bar bar more]
          exact List.mem_of_mem_tail inductionHypothesis
      | false => rwa [divide_word _ (.inr bar), List.tail_modifyHead]

theorem exists_error_of_adjacent (nonempty : text ≠ []) (trimmed : Text.Trimmed text)
    {before after : List Word} {left right : Word}
    (adjacent : placedWords 0 text = before ++ left :: right :: after) (beforeFull : before ≠ [])
    (afterFull : after ≠ []) (leftBar : isBar stickyRules left.text = true)
    (rightBar : isBar stickyRules right.text = true) :
    ∃ located, split text stickyRules = .error located := by
  cases divided : split text stickyRules with
  | error located => exact ⟨located, rfl⟩
  | ok raw =>
      obtain ⟨first, others, rfl, givesBack⟩ := givesBack_of_split nonempty trimmed divided
      obtain ⟨word, before, rfl⟩ := List.exists_cons_of_ne_nil beforeFull
      have emptyGroup : [] ∈ groups stickyRules (Text.words text) := by
        rw [← map_text_placedWords 0, adjacent]
        simp only [List.cons_append, List.map_cons, List.map_append, groups]
        apply List.mem_of_mem_tail
        rw [List.tail_modifyHead]
        exact nil_mem_tail_divide (by simpa using afterFull) leftBar rightBar
      rw [← texts_of_split nonempty trimmed divided] at emptyGroup
      obtain ⟨alternative, member, noTexts⟩ := List.mem_map.mp emptyGroup
      exact absurd (List.map_eq_nil_iff.mp noTexts) (givesBack.full alternative member)

/-- A right side that splits gives back its maximal runs in order: the words of the
alternatives, with one separator between neighbours. Two separators side by side do not
split. -/
theorem split_loses_nothing (text : Text) (stickyRules : Bool) (nonempty : text ≠ [])
    (trimmed : Text.Trimmed text) :
    (∀ word, word ∈ placedWords 0 text ↔ IsMaximalRun 0 text word) ∧
    (placedWords 0 text).Pairwise (fun earlier later => earlier.span.stop < later.start) ∧
    (∀ raw, split text stickyRules = .ok raw →
      ∃ (first : RawAlternative) (others : List (Word × RawAlternative)),
        raw = first :: others.map Prod.snd ∧
        (∀ alternative ∈ raw, alternative.words ≠ []) ∧
        (first.words ++ others.flatMap fun other => other.1 :: other.2.words) =
          placedWords 0 text ∧
        others.map Prod.fst = separators stickyRules (placedWords 0 text) ∧
        (∀ alternative ∈ raw, ∀ word ∈ alternative.words,
          word.span.slice? text = some word.text) ∧
        ∀ place alternative, raw[place]? = some alternative →
          (alternative.tryLast = true ↔
            ∃ bar ∈ (separators stickyRules (placedWords 0 text)).take place,
              bar.text = ['|', '|'])) ∧
    ∀ before left right after, placedWords 0 text = before ++ left :: right :: after →
      before ≠ [] → after ≠ [] → isBar stickyRules left.text = true →
      isBar stickyRules right.text = true → ∃ located, split text stickyRules = .error located := by
  refine ⟨fun word => mem_placedWords_iff, pairwise_placedWords 0 text, ?_, ?_⟩
  · intro raw found
    obtain ⟨first, others, rfl, givesBack⟩ := givesBack_of_split nonempty trimmed found
    refine ⟨first, others, rfl, givesBack.full, givesBack.words_eq, givesBack.bars_eq,
      fun alternative isFound word member => ?_, fun place alternative isFound => ?_⟩
    · exact (covers_of_split found alternative isFound word member).slice?_eq
    · rw [givesBack.tryLast_iff place alternative isFound]
      simp only [Bool.false_eq_true, false_or]
  · intro before left right after adjacent beforeFull afterFull leftBar rightBar
    exact exists_error_of_adjacent nonempty trimmed adjacent beforeFull afterFull leftBar rightBar

/-- Bars at both ends, inside a word, and two that separate. -/
def mixedBars : Text := "| a | b|c || d ||".toList

/-- Its alternatives when double bars are honoured. -/
def mixedAlternatives : List RawAlternative :=
  [⟨[⟨['|'], 0⟩, ⟨['a'], 2⟩], false⟩, ⟨[⟨"b|c".toList, 6⟩], false⟩,
    ⟨[⟨['d'], 13⟩, ⟨['|', '|'], 15⟩], true⟩]

theorem mixedBars_lose_nothing :
    mixedBars ≠ [] ∧ Text.Trimmed mixedBars ∧ split mixedBars true = .ok mixedAlternatives ∧
      separators true (placedWords 0 mixedBars) = [⟨['|'], 4⟩, ⟨['|', '|'], 10⟩] ∧
      (∃ (first : RawAlternative) (others : List (Word × RawAlternative)),
        mixedAlternatives = first :: others.map Prod.snd ∧
        (first.words ++ others.flatMap fun other => other.1 :: other.2.words) =
          placedWords 0 mixedBars ∧
        others.map Prod.fst = separators true (placedWords 0 mixedBars)) ∧
      ∃ located, split "a | || b".toList true = .error located := by
  have trimmed : Text.Trimmed mixedBars := Text.trim_eq_self_iff.mp (by decide)
  have divided : split mixedBars true = .ok mixedAlternatives := rfl
  obtain ⟨first, others, same, -, wordsBack, barsBack, -⟩ :=
    (split_loses_nothing mixedBars true (by decide) trimmed).2.2.1 mixedAlternatives divided
  refine ⟨by decide, trimmed, divided, by decide, ⟨first, others, same, wordsBack, barsBack⟩, ?_⟩
  exact (split_loses_nothing "a | || b".toList true (by decide)
    (Text.trim_eq_self_iff.mp (by decide))).2.2.2 [⟨['a'], 0⟩] ⟨['|'], 2⟩ ⟨['|', '|'], 4⟩
    [⟨['b'], 7⟩] (by decide) (by decide) (by decide) (by decide) (by decide)

end Split

end BnfParsing.RightSide
