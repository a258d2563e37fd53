import BnfParsing.Grammar.RightSide
import BnfParsing.Proofs.Text.Words

/-!
Contract: how a right side is divided into groups of words.

Every word that is a bar and has a word on both sides starts a new group. The
program finds this out from runs of characters and their neighbours; here it is
stated on the list of words.

Owns:
- runs as words with gaps between them;
- division of a list of words, the number of its groups, and the groups of
  words that were put together with bars;
- agreement of the two, and the order of try-last flags.

Does not own: optional words, or what words stand for.
-/

set_option autoImplicit false

namespace BnfParsing.RightSide

open Text (words SingleSpaced)

variable {stickyRules : Bool}

/-- Whether a word separates alternatives wherever it has a word on both sides. -/
def isBar (stickyRules : Bool) (word : Text) : Bool :=
  word == ['|'] || (stickyRules && word == ['|', '|'])

/-- Runs that alternate between words and gaps and end with a word; the list
holds the words. -/
inductive Alternating : (gapFirst : Bool) → List Run → List Text → Prop where
  | last {run : Run} (notGap : run.isGap = false) : Alternating false [run] [run.text]
  | word {run : Run} {runs : List Run} {words : List Text} (notGap : run.isGap = false)
      (others : Alternating true runs words) : Alternating false (run :: runs) (run.text :: words)
  | gap {run : Run} {runs : List Run} {words : List Text} (isGap : run.isGap = true)
      (others : Alternating false runs words) : Alternating true (run :: runs) words

theorem alternating_runs {first : Char} {rest : Text} (position : Nat)
    (noSpaceAtEnd : (first :: rest).getLast? ≠ some ' ') :
    Alternating (first == ' ') (runs position (first :: rest)) (words (first :: rest)) := by
  induction rest generalizing first position with
  | nil =>
      have notSpace : first ≠ ' ' := by simpa using noSpaceAtEnd
      rw [Text.words_of_spaceless (List.cons_ne_nil _ _) (by simpa using Ne.symm notSpace),
        beq_eq_false_iff_ne.mpr notSpace]
      exact .last (by simpa using notSpace)
  | cons second rest inductionHypothesis =>
      rw [List.getLast?_cons_cons] at noSpaceAtEnd
      have others := inductionHypothesis (position + first.utf8Size) noSpaceAtEnd
      rw [runs]
      by_cases firstSpace : first = ' ' <;> by_cases secondSpace : second = ' '
      · subst firstSpace secondSpace
        rw [Text.words_space_cons]
        generalize runs (position + ' '.utf8Size) (' ' :: rest) = later at others
        cases others with
        | gap isGap others =>
            simp only [isGap, beq_self_eq_true, if_true]
            exact .gap rfl others
      · subst firstSpace
        rw [Text.words_space_cons]
        rw [beq_eq_false_iff_ne.mpr secondSpace] at others
        generalize runs (position + ' '.utf8Size) (second :: rest) = later at others
        generalize words (second :: rest) = laterWords at others
        cases others with
        | last notGap => simpa [notGap] using Alternating.gap rfl (.last notGap)
        | word notGap others => simpa [notGap] using Alternating.gap rfl (.word notGap others)
      · subst secondSpace
        have firstSpaceless : ' ' ∉ [first] := by simpa using Ne.symm firstSpace
        have firstAlone : words (first :: ' ' :: rest) = [first] :: words (' ' :: rest) := by
          rw [Text.words_space_cons]
          exact Text.words_append_space_of_spaceless (List.cons_ne_nil _ _) firstSpaceless rest
        rw [firstAlone, beq_eq_false_iff_ne.mpr firstSpace]
        generalize runs (position + first.utf8Size) (' ' :: rest) = later at others
        generalize words (' ' :: rest) = laterWords at others
        cases others with
        | gap isGap others => simpa [isGap] using Alternating.word rfl (.gap isGap others)
      · rw [Text.words_cons_cons firstSpace secondSpace, beq_eq_false_iff_ne.mpr firstSpace]
        rw [beq_eq_false_iff_ne.mpr secondSpace] at others
        generalize runs (position + first.utf8Size) (second :: rest) = later at others
        generalize words (second :: rest) = laterWords at others
        cases others with
        | last notGap => simpa [notGap] using Alternating.last rfl
        | word notGap others => simpa [notGap] using Alternating.word rfl others

/-- The groups of words after a gap: a bar that is not the last word ends a group. -/
def divide (stickyRules : Bool) : List Text → List (List Text)
  | [] => [[]]
  | [word] => [[word]]
  | word :: next :: others =>
      if isBar stickyRules word then [] :: divide stickyRules (next :: others)
      else (divide stickyRules (next :: others)).modifyHead (word :: ·)

/-- The groups of the words of a right side, the first of which is never a bar. -/
def groups (stickyRules : Bool) : List Text → List (List Text)
  | [] => [[]]
  | word :: others => (divide stickyRules others).modifyHead (word :: ·)

theorem divide_bar {word : Text} {others : List Text} (bar : isBar stickyRules word = true)
    (nonempty : others ≠ []) :
    divide stickyRules (word :: others) = [] :: divide stickyRules others := by
  obtain ⟨next, rest, rfl⟩ := List.exists_cons_of_ne_nil nonempty
  rw [divide, if_pos bar]

theorem divide_word {word : Text} (others : List Text)
    (noBar : others = [] ∨ isBar stickyRules word = false) :
    divide stickyRules (word :: others) = (divide stickyRules others).modifyHead (word :: ·) := by
  cases others with
  | nil => rfl
  | cons next rest =>
      have notBar : isBar stickyRules word = false := by simpa using noBar
      rw [divide, notBar, if_neg Bool.false_ne_true]

theorem close_eq_ok_iff {words : List Word} {tryLast : Bool} {span : Span}
    {raw : RawAlternative} :
    close words tryLast span = .ok raw ↔ words ≠ [] ∧ raw = ⟨words.reverse, tryLast⟩ := by
  cases words with
  | nil => simp [close]
  | cons word words => simp [close, eq_comm]

theorem eq_nil_of_close_eq_error {words : List Word} {tryLast : Bool} {span : Span}
    {located : Located} (failed : close words tryLast span = .error located) :
    words = [] := by
  by_contra nonempty
  rw [close_eq_ok_iff.mpr ⟨nonempty, rfl⟩] at failed
  cases failed

section Steps

variable {stop : Nat} {tryLast : Bool} {previous : Option Run} {collected : List Word}
variable {run : Run} {rest : List Run} {raw : List RawAlternative}

theorem splitFrom_nil_eq_ok_iff :
    splitFrom stickyRules stop previous collected tryLast [] = .ok raw ↔
      collected ≠ [] ∧ raw = [⟨collected.reverse, tryLast⟩] := by
  rw [splitFrom]
  cases closed : close collected tryLast ⟨stop, stop⟩ with
  | error located =>
      simp [eq_nil_of_close_eq_error closed, bind, Except.bind]
  | ok last =>
      obtain ⟨nonempty, rfl⟩ := close_eq_ok_iff.mp closed
      simp [nonempty, bind, Except.bind, pure, Except.pure, eq_comm]

theorem splitFrom_gap (isGap : run.isGap = true) :
    splitFrom stickyRules stop previous collected tryLast (run :: rest) =
      if isDoubledSpace stickyRules previous rest.head? run then
        .error (.emptyTerminal, run.span)
      else splitFrom stickyRules stop (some run) collected tryLast rest := by
  rw [splitFrom]
  simp only [isGap, if_true]

theorem splitFrom_gap_eq_ok_iff (isGap : run.isGap = true) :
    splitFrom stickyRules stop previous collected tryLast (run :: rest) = .ok raw ↔
      isDoubledSpace stickyRules previous rest.head? run = false ∧
        splitFrom stickyRules stop (some run) collected tryLast rest = .ok raw := by
  rw [splitFrom_gap isGap]
  cases isDoubledSpace stickyRules previous rest.head? run <;> simp

/-- Whether a run that is a word ends an alternative. -/
def endsAlternative (stickyRules : Bool) (previous : Option Run) (run : Run)
    (rest : List Run) : Bool :=
  previous.any Run.isGap && rest.head?.any Run.isGap && isBar stickyRules run.text

/-- Between gaps it is the word alone that matters. -/
theorem endsAlternative_eq_isBar (afterGap : previous.any Run.isGap = true)
    (gapAhead : rest.head?.any Run.isGap = true) :
    endsAlternative stickyRules previous run rest = isBar stickyRules run.text := by
  rw [endsAlternative, afterGap, gapAhead, Bool.true_and, Bool.true_and]

theorem endsAlternative_of_not_bar (notBar : isBar stickyRules run.text = false) :
    endsAlternative stickyRules previous run rest = false := by
  rw [endsAlternative, notBar, Bool.and_false]

theorem splitFrom_word (notGap : run.isGap = false)
    (inside : endsAlternative stickyRules previous run rest = false) :
    splitFrom stickyRules stop previous collected tryLast (run :: rest) =
      splitFrom stickyRules stop (some run) (⟨run.text, run.start⟩ :: collected) tryLast rest := by
  have noSeparator : (previous.any Run.isGap && rest.head?.any Run.isGap &&
      run.isSeparator stickyRules) = false := inside
  rw [splitFrom]
  simp only [notGap, noSeparator, Bool.false_eq_true, if_false]

theorem splitFrom_bar_eq_ok_iff (notGap : run.isGap = false)
    (ends : endsAlternative stickyRules previous run rest = true) :
    splitFrom stickyRules stop previous collected tryLast (run :: rest) = .ok raw ↔
      collected ≠ [] ∧ ∃ later,
        splitFrom stickyRules stop (some run) [] (tryLast || run.isDoubleBar) rest = .ok later ∧
          raw = ⟨collected.reverse, tryLast⟩ :: later := by
  have separator : (previous.any Run.isGap && rest.head?.any Run.isGap &&
      run.isSeparator stickyRules) = true := ends
  rw [splitFrom]
  simp only [notGap, separator, Bool.false_eq_true, if_false, if_true]
  cases closed : close collected tryLast run.span with
  | error located =>
      simp [eq_nil_of_close_eq_error closed, bind, Except.bind]
  | ok alternative =>
      obtain ⟨nonempty, rfl⟩ := close_eq_ok_iff.mp closed
      cases splitFrom stickyRules stop (some run) [] (tryLast || run.isDoubleBar) rest <;>
        simp [nonempty, bind, Except.bind, pure, Except.pure, eq_comm]

/-- A run is left out, it is one more word, or it ends an alternative. -/
theorem splitFrom_cons_cases
    (found : splitFrom stickyRules stop previous collected tryLast (run :: rest) = .ok raw) :
    splitFrom stickyRules stop (some run) collected tryLast rest = .ok raw ∨
      splitFrom stickyRules stop (some run) (⟨run.text, run.start⟩ :: collected) tryLast rest =
        .ok raw ∨
      isBar stickyRules run.text = true ∧ ∃ later,
        splitFrom stickyRules stop (some run) [] (tryLast || run.isDoubleBar) rest = .ok later ∧
          raw = ⟨collected.reverse, tryLast⟩ :: later := by
  cases isGap : run.isGap with
  | true => exact .inl ((splitFrom_gap_eq_ok_iff isGap).mp found).2
  | false =>
      cases ends : endsAlternative stickyRules previous run rest with
      | true =>
          have bar : isBar stickyRules run.text = true := (Bool.and_eq_true_iff.mp ends).2
          exact .inr (.inr ⟨bar, ((splitFrom_bar_eq_ok_iff isGap ends).mp found).2⟩)
      | false => exact .inr (.inl ((splitFrom_word isGap ends).symm.trans found))

end Steps

/-- The words of a raw alternative as texts. -/
def RawAlternative.texts (raw : RawAlternative) : List Text :=
  raw.words.map Word.text

theorem Alternating.gap_ahead {runs : List Run} {words : List Text}
    (alternating : Alternating true runs words) : runs.head?.any Run.isGap = true := by
  cases alternating with
  | gap isGap _ => simpa using isGap

theorem Alternating.words_ne_nil {gapFirst : Bool} {runs : List Run} {words : List Text}
    (alternating : Alternating gapFirst runs words) : words ≠ [] := by
  induction alternating with
  | last => exact List.cons_ne_nil _ _
  | word => exact List.cons_ne_nil _ _
  | gap _ _ inductionHypothesis => exact inductionHypothesis

theorem modifyHead_nil_append (groups : List (List Text)) :
    groups.modifyHead ([] ++ ·) = groups := by
  cases groups <;> rfl

section Runs

variable {stop : Nat} {gapFirst tryLast : Bool} {previous : Option Run} {collected : List Word}
variable {remaining : List Run} {remainingWords : List Text} {raw : List RawAlternative}

/-- The program divides runs as their words are divided. -/
theorem texts_of_splitFrom (alternating : Alternating gapFirst remaining remainingWords)
    (afterGap : gapFirst = false → previous.any Run.isGap = true)
    (found : splitFrom stickyRules stop previous collected tryLast remaining = .ok raw) :
    raw.map RawAlternative.texts =
      (divide stickyRules remainingWords).modifyHead
        (collected.reverse.map Word.text ++ ·) := by
  induction alternating generalizing previous collected tryLast raw with
  | @last run notGap =>
      rw [splitFrom_word notGap (by simp [endsAlternative]), splitFrom_nil_eq_ok_iff] at found
      obtain ⟨-, rfl⟩ := found
      simp [divide, RawAlternative.texts]
  | @word run runs words notGap others inductionHypothesis =>
      have ends : endsAlternative stickyRules previous run runs =
          isBar stickyRules run.text :=
        endsAlternative_eq_isBar (afterGap rfl) others.gap_ahead
      cases bar : isBar stickyRules run.text with
      | true =>
          obtain ⟨-, later, laterFound, rfl⟩ :=
            (splitFrom_bar_eq_ok_iff notGap (ends.trans bar)).mp found
          rw [List.map_cons, inductionHypothesis (by simp) laterFound,
            divide_bar bar others.words_ne_nil, List.reverse_nil, List.map_nil,
            modifyHead_nil_append]
          simp [RawAlternative.texts]
      | false =>
          rw [splitFrom_word notGap (ends.trans bar)] at found
          rw [inductionHypothesis (by simp) found, divide_word words (.inr bar)]
          cases divide stickyRules words <;> simp
  | @gap run runs words isGap others inductionHypothesis =>
      obtain ⟨-, found⟩ := (splitFrom_gap_eq_ok_iff isGap).mp found
      exact inductionHypothesis (fun _ => by simpa using isGap) found

/-- Runs with narrow gaps divide if none of the groups is empty. -/
theorem exists_splitFrom (alternating : Alternating gapFirst remaining remainingWords)
    (afterGap : gapFirst = false → previous.any Run.isGap = true)
    (narrow : ∀ run ∈ remaining, run.isGap = true → run.text.length ≤ 1)
    (full : [] ∉ (divide stickyRules remainingWords).modifyHead
      (collected.reverse.map Word.text ++ ·)) :
    ∃ raw, splitFrom stickyRules stop previous collected tryLast remaining = .ok raw := by
  induction alternating generalizing previous collected tryLast with
  | @last run notGap =>
      rw [splitFrom_word notGap (by simp [endsAlternative])]
      exact ⟨_, splitFrom_nil_eq_ok_iff.mpr ⟨List.cons_ne_nil _ _, rfl⟩⟩
  | @word run runs words notGap others inductionHypothesis =>
      have ends : endsAlternative stickyRules previous run runs =
          isBar stickyRules run.text :=
        endsAlternative_eq_isBar (afterGap rfl) others.gap_ahead
      have laterNarrow := fun later member => narrow later (List.mem_cons_of_mem run member)
      cases bar : isBar stickyRules run.text with
      | true =>
          rw [divide_bar bar others.words_ne_nil, List.modifyHead_cons, List.append_nil,
            List.mem_cons, not_or] at full
          obtain ⟨later, laterFound⟩ : ∃ later, splitFrom stickyRules stop (some run) []
              (tryLast || run.isDoubleBar) runs = .ok later := by
            refine inductionHypothesis (by simp) laterNarrow ?_
            rw [List.reverse_nil, List.map_nil, modifyHead_nil_append]
            exact full.2
          have nonempty : collected ≠ [] := by
            rintro rfl
            exact full.1 rfl
          exact ⟨_, (splitFrom_bar_eq_ok_iff notGap (ends.trans bar)).mpr
            ⟨nonempty, later, laterFound, rfl⟩⟩
      | false =>
          rw [splitFrom_word notGap (ends.trans bar)]
          refine inductionHypothesis (by simp) laterNarrow ?_
          rw [divide_word words (.inr bar)] at full
          cases division : divide stickyRules words <;> simp_all
  | @gap run runs words isGap others inductionHypothesis =>
      have notDoubled : isDoubledSpace stickyRules previous runs.head? run = false := by
        have short := narrow run List.mem_cons_self isGap
        simp only [isDoubledSpace, Bool.and_eq_false_iff, decide_eq_false_iff_not]
        omega
      rw [splitFrom_gap isGap, notDoubled]
      exact inductionHypothesis (fun _ => by simpa using isGap)
        (fun later member => narrow later (List.mem_cons_of_mem run member)) full

/-- Where no word is a bar, runs only divide if their gaps are narrow. -/
theorem narrow_of_splitFrom (alternating : Alternating gapFirst remaining remainingWords)
    (noBar : ∀ word ∈ remainingWords, isBar stickyRules word = false)
    (afterWord : gapFirst = true →
      previous.any (fun run => !run.isSeparator stickyRules) = true)
    (found : splitFrom stickyRules stop previous collected tryLast remaining = .ok raw) :
    ∀ run ∈ remaining, run.isGap = true → run.text.length ≤ 1 := by
  induction alternating generalizing previous collected raw with
  | last notGap => simp [notGap]
  | @word run runs words notGap others inductionHypothesis =>
      rw [List.forall_mem_cons] at noBar
      have isWord : !run.isSeparator stickyRules := by
        have notSeparator : run.isSeparator stickyRules = false := noBar.1
        rw [notSeparator]
        rfl
      rw [splitFrom_word notGap (endsAlternative_of_not_bar noBar.1)] at found
      rw [List.forall_mem_cons]
      exact ⟨by simp [notGap],
        inductionHypothesis noBar.2 (fun _ => by simpa using isWord) found⟩
  | @gap run runs words isGap others inductionHypothesis =>
      have beforeWord : runs.head?.any (fun run => !run.isSeparator stickyRules) = true := by
        have notSeparator : ∀ word : Run, isBar stickyRules word.text = false →
            word.isSeparator stickyRules = false := fun _ => id
        cases others with
        | last => simp [notSeparator _ (noBar _ List.mem_cons_self)]
        | word => simp [notSeparator _ (noBar _ List.mem_cons_self)]
      obtain ⟨notDoubled, found⟩ := (splitFrom_gap_eq_ok_iff isGap).mp found
      rw [isDoubledSpace, afterWord rfl, beforeWord] at notDoubled
      rw [List.forall_mem_cons]
      refine ⟨fun _ => ?_, inductionHypothesis noBar (by simp) found⟩
      simpa using notDoubled

/-- Where no word is a bar, the try-last flag stays as it is. -/
theorem tryLast_of_splitFrom (alternating : Alternating gapFirst remaining remainingWords)
    (noBar : ∀ word ∈ remainingWords, isBar stickyRules word = false)
    (found : splitFrom stickyRules stop previous collected tryLast remaining = .ok raw) :
    ∀ group ∈ raw, group.tryLast = tryLast := by
  induction alternating generalizing previous collected raw with
  | last notGap =>
      rw [splitFrom_word notGap (by simp [endsAlternative]), splitFrom_nil_eq_ok_iff] at found
      simp [found.2]
  | @word run runs words notGap others inductionHypothesis =>
      rw [List.forall_mem_cons] at noBar
      rw [splitFrom_word notGap (endsAlternative_of_not_bar noBar.1)] at found
      exact inductionHypothesis noBar.2 found
  | gap isGap others inductionHypothesis =>
      exact inductionHypothesis noBar ((splitFrom_gap_eq_ok_iff isGap).mp found).2

/-- From one alternative to a later one, a try-last flag stays set, and it is set
only where double bars are honoured. -/
structure LaterFlag (stickyRules earlier later : Bool) : Prop where
  stays : earlier = true → later = true
  honoured : later = true → earlier = true ∨ stickyRules = true

namespace LaterFlag

theorem refl (flag : Bool) : LaterFlag stickyRules flag flag := ⟨id, .inl⟩

theorem trans {earlier middle later : Bool} (first : LaterFlag stickyRules earlier middle)
    (second : LaterFlag stickyRules middle later) : LaterFlag stickyRules earlier later where
  stays := second.stays ∘ first.stays
  honoured set := (second.honoured set).elim first.honoured .inr

/-- A bar sets the flag only if it is a double one. -/
theorem of_bar {run : Run} (bar : isBar stickyRules run.text = true) (flag : Bool) :
    LaterFlag stickyRules flag (flag || run.isDoubleBar) where
  stays set := by simp [set]
  honoured set := by
    rw [Bool.or_eq_true] at set
    refine set.imp id fun double => ?_
    simp only [Run.isDoubleBar, beq_iff_eq] at double
    simpa [isBar, double] using bar

end LaterFlag

/-- Once a double bar has been passed, every later alternative is tried last. -/
theorem flags_of_splitFrom
    (found : splitFrom stickyRules stop previous collected tryLast remaining = .ok raw) :
    (tryLast :: raw.map RawAlternative.tryLast).Pairwise (LaterFlag stickyRules) := by
  induction remaining generalizing previous collected tryLast raw with
  | nil =>
      obtain ⟨-, rfl⟩ := splitFrom_nil_eq_ok_iff.mp found
      simpa using LaterFlag.refl tryLast
  | cons run rest inductionHypothesis =>
      rcases splitFrom_cons_cases found with found | found | ⟨bar, later, laterFound, rfl⟩
      · exact inductionHypothesis found
      · exact inductionHypothesis found
      · have laterFlags := List.pairwise_cons.mp (inductionHypothesis laterFound)
        have passed := LaterFlag.of_bar bar tryLast
        rw [List.map_cons, List.pairwise_cons, List.pairwise_cons, List.forall_mem_cons]
        exact ⟨⟨.refl tryLast, fun flag member => passed.trans (laterFlags.1 flag member)⟩,
          fun flag member => passed.trans (laterFlags.1 flag member), laterFlags.2⟩

end Runs

theorem exists_runs_cons (position : Nat) (first : Char) (rest : Text) :
    ∃ text more, runs position (first :: rest) =
      ⟨first == ' ', first :: text, position⟩ :: more := by
  rw [runs]
  split
  · exact ⟨_, _, rfl⟩
  · split <;> exact ⟨_, _, rfl⟩

/-- No gap is wider than one space exactly if no two spaces stand side by side. -/
theorem narrow_runs_iff {text : Text} (position : Nat) :
    (∀ run ∈ runs position text, run.isGap = true → run.text.length ≤ 1) ↔
      SingleSpaced text := by
  induction text generalizing position with
  | nil => simp [runs]
  | cons first rest inductionHypothesis =>
      cases rest with
      | nil => simp [runs]
      | cons second rest =>
          obtain ⟨text, more, later⟩ := exists_runs_cons (position + first.utf8Size) second rest
          have laterNarrow := inductionHypothesis (position + first.utf8Size)
          rw [later, List.forall_mem_cons] at laterNarrow
          have chain : SingleSpaced (first :: second :: rest) ↔
              (first = ' ' → second ≠ ' ') ∧ SingleSpaced (second :: rest) :=
            List.isChain_cons_cons
          rw [runs, later, chain, ← laterNarrow]
          by_cases firstSpace : first = ' ' <;> by_cases secondSpace : second = ' ' <;>
            simp [firstSpace, secondSpace]

section Split

variable {text : Text} {raw : List RawAlternative}

/-- The runs of a text without blanks at its ends start and end with words. -/
theorem alternating_runs_of_trimmed (nonempty : text ≠ []) (trimmed : Text.Trimmed text) :
    Alternating false (runs 0 text) (words text) := by
  obtain ⟨first, rest, rfl⟩ := List.exists_cons_of_ne_nil nonempty
  have firstNotSpace : first ≠ ' ' := by
    rintro rfl
    exact absurd (trimmed.head_not_blank ' ' rfl) (by decide)
  have noSpaceAtEnd : (first :: rest).getLast? ≠ some ' ' := by
    intro last
    exact absurd (trimmed.getLast_not_blank ' ' last) (by decide)
  have alternating := alternating_runs 0 noSpaceAtEnd
  rwa [beq_eq_false_iff_ne.mpr firstNotSpace] at alternating

/-- A text without blanks at its ends: a word, which never ends an alternative,
and then either nothing or a gap. -/
theorem exists_first_word (nonempty : text ≠ []) (trimmed : Text.Trimmed text) :
    ∃ run rest, runs 0 text = run :: rest ∧ run.isGap = false ∧
      ((rest = [] ∧ words text = [run.text]) ∨
        ∃ others, Alternating true rest others ∧ words text = run.text :: others) := by
  have alternating := alternating_runs_of_trimmed nonempty trimmed
  generalize runs 0 text = all at alternating
  generalize words text = allWords at alternating
  cases alternating with
  | last notGap => exact ⟨_, [], rfl, notGap, .inl ⟨rfl, rfl⟩⟩
  | word notGap others => exact ⟨_, _, rfl, notGap, .inr ⟨_, others, rfl⟩⟩

/-- A right side divides into the groups of its words. -/
theorem texts_of_split (nonempty : text ≠ []) (trimmed : Text.Trimmed text)
    (found : split text stickyRules = .ok raw) :
    raw.map RawAlternative.texts = groups stickyRules (words text) := by
  obtain ⟨run, rest, allRuns, notGap, ⟨rfl, allWords⟩ | ⟨others, alternating, allWords⟩⟩ :=
    exists_first_word nonempty trimmed
  · rw [split, allRuns, splitFrom_word notGap rfl, splitFrom_nil_eq_ok_iff] at found
    obtain ⟨-, rfl⟩ := found
    rw [allWords]
    rfl
  · rw [split, allRuns, splitFrom_word notGap rfl] at found
    rw [texts_of_splitFrom alternating (by simp) found, allWords]
    rfl

theorem exists_split (nonempty : text ≠ []) (trimmed : Text.Trimmed text)
    (singleSpaced : SingleSpaced text) (full : [] ∉ groups stickyRules (words text)) :
    ∃ raw, split text stickyRules = .ok raw := by
  have narrow := (narrow_runs_iff 0).mpr singleSpaced
  obtain ⟨run, rest, allRuns, notGap, ⟨rfl, -⟩ | ⟨others, alternating, allWords⟩⟩ :=
    exists_first_word nonempty trimmed
  · rw [split, allRuns, splitFrom_word notGap rfl]
    exact ⟨_, splitFrom_nil_eq_ok_iff.mpr ⟨List.cons_ne_nil _ _, rfl⟩⟩
  · rw [allRuns, List.forall_mem_cons] at narrow
    rw [split, allRuns, splitFrom_word notGap rfl]
    rw [allWords] at full
    exact exists_splitFrom alternating (by simp) narrow.2 full

theorem flags_of_split (found : split text stickyRules = .ok raw) :
    (false :: raw.map RawAlternative.tryLast).Pairwise (LaterFlag stickyRules) :=
  flags_of_splitFrom found

end Split

section Groups

variable {allWords group : List Text}

/-- There is one group more than there are bars with words behind them. -/
theorem length_divide (stickyRules : Bool) (allWords : List Text) :
    (divide stickyRules allWords).length =
      allWords.dropLast.countP (isBar stickyRules) + 1 := by
  induction allWords with
  | nil => rfl
  | cons word others inductionHypothesis =>
      by_cases last : others = []
      · rw [last]
        rfl
      · rw [List.dropLast_cons_of_ne_nil last]
        cases bar : isBar stickyRules word with
        | true => rw [divide_bar bar last, List.countP_cons_of_pos bar, List.length_cons,
            inductionHypothesis]
        | false => rw [divide_word others (.inr bar), List.countP_cons_of_neg (by simp [bar]),
            List.length_modifyHead, inductionHypothesis]

theorem length_groups (stickyRules : Bool) (allWords : List Text) :
    (groups stickyRules allWords).length =
      allWords.tail.dropLast.countP (isBar stickyRules) + 1 := by
  cases allWords with
  | nil => rfl
  | cons first others => rw [groups, List.length_modifyHead, length_divide, List.tail_cons]

theorem exists_getLast?_modifyHead {allGroups : List (List Text)} {last : List Text}
    {word final : Text} (found : allGroups.getLast? = some last)
    (ends : last.getLast? = some final) :
    ∃ changed, (allGroups.modifyHead (word :: ·)).getLast? = some changed ∧
      changed.getLast? = some final := by
  cases allGroups with
  | nil => simp at found
  | cons first others =>
      cases others with
      | nil =>
          obtain rfl : first = last := by simpa using found
          exact ⟨word :: first, rfl, by rw [List.getLast?_cons, ends, Option.getD_some]⟩
      | cons second others => exact ⟨last, found, ends⟩

theorem exists_getLast?_divide {final : Text} (ends : allWords.getLast? = some final) :
    ∃ last, (divide stickyRules allWords).getLast? = some last ∧
      last.getLast? = some final := by
  induction allWords with
  | nil => simp at ends
  | cons word others inductionHypothesis =>
      cases others with
      | nil => exact ⟨[word], rfl, ends⟩
      | cons next rest =>
          rw [List.getLast?_cons_cons] at ends
          obtain ⟨last, found, sameLast⟩ := inductionHypothesis ends
          cases bar : isBar stickyRules word with
          | true =>
              rw [divide_bar bar (List.cons_ne_nil _ _), List.getLast?_cons, found,
                Option.getD_some]
              exact ⟨last, rfl, sameLast⟩
          | false =>
              rw [divide_word _ (.inr bar)]
              exact exists_getLast?_modifyHead found sameLast

/-- The last group ends with the last word. -/
theorem exists_getLast?_groups (stickyRules : Bool) {final : Text}
    (ends : allWords.getLast? = some final) :
    ∃ last, (groups stickyRules allWords).getLast? = some last ∧
      last.getLast? = some final := by
  cases allWords with
  | nil => simp at ends
  | cons word others =>
      cases others with
      | nil => exact ⟨[word], rfl, ends⟩
      | cons next rest =>
          rw [List.getLast?_cons_cons] at ends
          obtain ⟨last, found, sameLast⟩ := exists_getLast?_divide ends
          exact exists_getLast?_modifyHead found sameLast

/-- The first group starts with the first word. -/
theorem exists_groups_eq_cons (stickyRules : Bool) (first : Text) (others : List Text) :
    ∃ rest more, groups stickyRules (first :: others) = (first :: rest) :: more := by
  have nonempty : divide stickyRules others ≠ [] := by
    rw [← List.length_pos_iff_ne_nil, length_divide]
    exact Nat.succ_pos _
  obtain ⟨rest, more, division⟩ := List.exists_cons_of_ne_nil nonempty
  exact ⟨rest, more, by rw [groups, division, List.modifyHead_cons]⟩

theorem mem_of_mem_modifyHead {allGroups : List (List Text)} {first word : Text}
    (member : group ∈ allGroups.modifyHead (first :: ·)) (inside : word ∈ group) :
    word = first ∨ ∃ original ∈ allGroups, word ∈ original := by
  cases allGroups with
  | nil => simp at member
  | cons head more =>
      rw [List.modifyHead_cons] at member
      rcases List.mem_cons.mp member with rfl | later
      · exact (List.mem_cons.mp inside).imp id fun inHead => ⟨head, List.mem_cons_self, inHead⟩
      · exact .inr ⟨group, List.mem_cons_of_mem head later, inside⟩

theorem mem_of_mem_divide {word : Text} (member : group ∈ divide stickyRules allWords)
    (inside : word ∈ group) : word ∈ allWords := by
  induction allWords generalizing group with
  | nil =>
      rw [divide, List.mem_singleton] at member
      simp [member] at inside
  | cons first others inductionHypothesis =>
      by_cases ends : others ≠ [] ∧ isBar stickyRules first = true
      · rw [divide_bar ends.2 ends.1] at member
        rcases List.mem_cons.mp member with rfl | later
        · simp at inside
        · exact List.mem_cons_of_mem first (inductionHypothesis later inside)
      · have noBar : others = [] ∨ isBar stickyRules first = false := by
          simpa [Classical.or_iff_not_imp_left] using ends
        rw [divide_word others noBar] at member
        rcases mem_of_mem_modifyHead member inside with rfl | ⟨original, isOriginal, inOriginal⟩
        · exact List.mem_cons_self
        · exact List.mem_cons_of_mem first (inductionHypothesis isOriginal inOriginal)

/-- Every word of a group is one of the words that were divided. -/
theorem mem_of_mem_groups {word : Text} (member : group ∈ groups stickyRules allWords)
    (inside : word ∈ group) : word ∈ allWords := by
  cases allWords with
  | nil =>
      rw [groups, List.mem_singleton] at member
      simp [member] at inside
  | cons first others =>
      rcases mem_of_mem_modifyHead member inside with rfl | ⟨original, isOriginal, inOriginal⟩
      · exact List.mem_cons_self
      · exact List.mem_cons_of_mem first (mem_of_mem_divide isOriginal inOriginal)

theorem divide_append {front : List Text} (others : List Text)
    (noBar : ∀ word ∈ front, isBar stickyRules word = false) :
    divide stickyRules (front ++ others) =
      (divide stickyRules others).modifyHead (front ++ ·) := by
  induction front with
  | nil => exact (modifyHead_nil_append _).symm
  | cons word front inductionHypothesis =>
      rw [List.forall_mem_cons] at noBar
      rw [List.cons_append, divide_word _ (.inr noBar.1), inductionHypothesis noBar.2]
      cases divide stickyRules others <;> rfl

theorem divide_of_no_bar (noBar : ∀ word ∈ group.dropLast, isBar stickyRules word = false) :
    divide stickyRules group = [group] := by
  cases group using List.reverseRecOn with
  | nil => rfl
  | append_singleton front last =>
      rw [List.dropLast_concat] at noBar
      rw [divide_append _ noBar]
      rfl

theorem groups_of_no_bar (noBar : ∀ word ∈ allWords, isBar stickyRules word = false) :
    groups stickyRules allWords = [allWords] := by
  cases allWords with
  | nil => rfl
  | cons first others =>
      have othersOne : divide stickyRules others = [others] :=
        divide_of_no_bar fun word member =>
          noBar word (List.mem_cons_of_mem first (List.mem_of_mem_dropLast member))
      rw [groups, othersOne]
      rfl

/-- Words put together with bars divide into the groups they came from, unless
another bar stands between them. -/
theorem divide_append_flatMap {others : List (Text × List Text)}
    (bars : ∀ pair ∈ others, isBar stickyRules pair.1 = true)
    (full : ∀ pair ∈ others, pair.2 ≠ [])
    (noOtherBar : ∀ word ∈ (group ++ others.flatMap Prod.snd).dropLast,
      isBar stickyRules word = false) :
    divide stickyRules (group ++ others.flatMap fun pair => pair.1 :: pair.2) =
      group :: others.map Prod.snd := by
  induction others generalizing group with
  | nil =>
      rw [List.flatMap_nil, List.append_nil] at noOtherBar ⊢
      exact divide_of_no_bar noOtherBar
  | cons pair others inductionHypothesis =>
      rw [List.forall_mem_cons] at bars full
      have laterFull : pair.2 ++ others.flatMap Prod.snd ≠ [] := by simp [full.1]
      rw [List.flatMap_cons, List.dropLast_append_of_ne_nil laterFull] at noOtherBar
      have later := inductionHypothesis bars.2 full.2 fun word member =>
        noOtherBar word (List.mem_append_right group member)
      have laterWords : pair.2 ++ others.flatMap (fun pair => pair.1 :: pair.2) ≠ [] := by
        simp [full.1]
      rw [List.flatMap_cons, divide_append _ fun word member =>
        noOtherBar word (List.mem_append_left _ member), List.cons_append,
        divide_bar bars.1 laterWords, later]
      simp

/-- Between words put together with bars, there are these bars and those among the
words. -/
theorem countP_append_flatMap {α : Type} {isSeparator : α → Bool} {group : List α}
    {others : List (α × List α)} (bars : ∀ pair ∈ others, isSeparator pair.1 = true)
    (full : ∀ pair ∈ others, pair.2 ≠ []) :
    (group ++ others.flatMap fun pair => pair.1 :: pair.2).dropLast.countP isSeparator =
      others.length + (group ++ others.flatMap Prod.snd).dropLast.countP isSeparator := by
  induction others generalizing group with
  | nil => simp
  | cons pair others inductionHypothesis =>
      rw [List.forall_mem_cons] at bars full
      have laterFull : pair.2 ++ others.flatMap Prod.snd ≠ [] := by simp [full.1]
      have laterWords : pair.2 ++ others.flatMap (fun pair => pair.1 :: pair.2) ≠ [] := by
        simp [full.1]
      rw [List.flatMap_cons, List.flatMap_cons, List.cons_append,
        List.dropLast_append_of_ne_nil (List.cons_ne_nil _ _),
        List.dropLast_append_of_ne_nil laterFull, List.dropLast_cons_of_ne_nil laterWords,
        List.countP_append, List.countP_append, List.countP_cons_of_pos bars.1,
        inductionHypothesis bars.2 full.2, List.length_cons]
      omega

/-- The same for the words of a right side, whose first word is never a bar. -/
theorem groups_append_flatMap {first : List Text} {others : List (Text × List Text)}
    (firstFull : first ≠ []) (bars : ∀ pair ∈ others, isBar stickyRules pair.1 = true)
    (full : ∀ pair ∈ others, pair.2 ≠ [])
    (noOtherBar : ∀ word ∈ (first ++ others.flatMap Prod.snd).tail.dropLast,
      isBar stickyRules word = false) :
    groups stickyRules (first ++ others.flatMap fun pair => pair.1 :: pair.2) =
      first :: others.map Prod.snd := by
  obtain ⟨word, rest, rfl⟩ := List.exists_cons_of_ne_nil firstFull
  rw [List.cons_append, groups, divide_append_flatMap bars full noOtherBar]
  rfl

end Groups

section Undivided

variable {text : Text} {raw : List RawAlternative}
variable (nonempty : text ≠ []) (trimmed : Text.Trimmed text)
variable (noBar : ∀ word ∈ words text, isBar stickyRules word = false)

include nonempty trimmed noBar

/-- A right side without bars must do with single spaces. -/
theorem singleSpaced_of_split (found : split text stickyRules = .ok raw) :
    SingleSpaced text := by
  have alternating := alternating_runs_of_trimmed nonempty trimmed
  exact (narrow_runs_iff 0).mp (narrow_of_splitFrom alternating noBar (by simp) found)

/-- It is one group that is not tried last. -/
theorem exists_group_of_split (found : split text stickyRules = .ok raw) :
    ∃ group, raw = [group] ∧ group.texts = words text ∧ group.tryLast = false := by
  have texts := texts_of_split nonempty trimmed found
  rw [groups_of_no_bar noBar, List.map_eq_singleton_iff] at texts
  obtain ⟨group, rfl, sameWords⟩ := texts
  have alternating := alternating_runs_of_trimmed nonempty trimmed
  have flag := tryLast_of_splitFrom alternating noBar found
  exact ⟨group, rfl, sameWords, flag group List.mem_cons_self⟩

end Undivided

end BnfParsing.RightSide
