import BnfParsing.Grammar.Compile
import BnfParsing.Proofs.Grammar.Division
import BnfParsing.Proofs.Traversal

/-!
Contract: which rules a line compiles to, stated as relations.

Owns:
- lists that are related element by element, and what their first, last and
  other elements come from;
- the place of the separator and the two forms of a right side;
- the symbol a word stands for, the choices that optional words leave, and the
  alternatives of a right side in terms of its words;
- the order of try-last alternatives in a compiled rule.

Does not own: what is wrong with a line that does not compile.
-/

set_option autoImplicit false

namespace BnfParsing

/-- Every element of the second of two related lists comes from the first. -/
theorem exists_mem_of_forall₂ {α β : Type} {related : α → β → Prop} {sources : List α}
    {targets : List β} {target : β} (all : List.Forall₂ related sources targets)
    (member : target ∈ targets) : ∃ source ∈ sources, related source target := by
  induction all with
  | nil => simp at member
  | @cons source target sources targets first _ inductionHypothesis =>
      rcases List.mem_cons.mp member with rfl | inOthers
      · exact ⟨source, List.mem_cons_self, first⟩
      · obtain ⟨other, otherMember, isRelated⟩ := inductionHypothesis inOthers
        exact ⟨other, List.mem_cons_of_mem source otherMember, isRelated⟩

theorem exists_head?_of_forall₂ {α β : Type} {related : α → β → Prop} {sources : List α}
    {targets : List β} {target : β} (all : List.Forall₂ related sources targets)
    (first : targets.head? = some target) :
    ∃ source, sources.head? = some source ∧ related source target := by
  cases all with
  | nil => simp at first
  | @cons source initial sources targets isRelated _ =>
      obtain rfl : initial = target := by simpa using first
      exact ⟨source, rfl, isRelated⟩

theorem exists_getLast?_of_forall₂ {α β : Type} {related : α → β → Prop} {sources : List α}
    {targets : List β} {target : β} (all : List.Forall₂ related sources targets)
    (last : targets.getLast? = some target) :
    ∃ source, sources.getLast? = some source ∧ related source target := by
  rw [← List.head?_reverse] at last ⊢
  exact exists_head?_of_forall₂ (List.forall₂_reverse_iff.mpr all) last

/-- A list related to two lists in a row falls into two parts. -/
theorem exists_append_of_forall₂ {α β : Type} {related : α → β → Prop} {first second : List α}
    {targets : List β} (all : List.Forall₂ related (first ++ second) targets) :
    ∃ front back, targets = front ++ back ∧ List.Forall₂ related first front ∧
      List.Forall₂ related second back :=
  ⟨targets.take first.length, targets.drop first.length, (List.take_append_drop _ _).symm,
    (List.forall₂_take_append targets first second all.flip).flip,
    (List.forall₂_drop_append targets first second all.flip).flip⟩

/-- A pattern is well formed if there is a compiled form of it. -/
theorem Regex.ofPattern?_eq_some_iff {pattern : Text} {regex : Regex} :
    Regex.ofPattern? pattern = some regex ↔ regex.pattern = pattern := by
  have readsBack : ∀ compiled, Regex.ofPattern? pattern = some compiled →
      compiled.pattern = pattern := by
    intro compiled found
    unfold Regex.ofPattern? at found
    split at found
    · cases found
    · cases found
      rfl
  refine ⟨readsBack regex, ?_⟩
  rintro rfl
  cases found : Regex.ofPattern? regex.pattern with
  | none =>
      unfold Regex.ofPattern? at found
      split at found
      next noExpression =>
        rw [regex.expression_eq] at noExpression
        cases noExpression
      · cases found
  | some compiled => rw [Regex.ext_pattern (readsBack compiled found)]

/-- Tried order is the order of addition if try-last alternatives come last. -/
theorem Rule.tried_eq_alternatives {rule : Rule} (stickyRules : Bool)
    (lastAtEnd : (rule.alternatives.map Alternative.tryLast).Pairwise
      (RightSide.LaterFlag stickyRules)) : rule.tried = rule.alternatives := by
  rw [Rule.tried]
  generalize rule.alternatives = alternatives at lastAtEnd
  induction alternatives with
  | nil => rfl
  | cons first others inductionHypothesis =>
      rw [List.map_cons, List.pairwise_cons] at lastAtEnd
      cases flag : first.tryLast with
      | false =>
          simp only [List.filter_cons, flag, Bool.not_false, if_true, Bool.false_eq_true, if_false,
            List.cons_append, inductionHypothesis lastAtEnd.2]
      | true =>
          have allLast : ∀ other ∈ others, other.tryLast = true := fun other member =>
            (lastAtEnd.1 other.tryLast (List.mem_map_of_mem member)).stays flag
          have noneOrdinary : others.filter (fun alternative => !alternative.tryLast) = [] :=
            List.filter_eq_nil_iff.mpr fun other member => by simp [allLast other member]
          simp only [List.filter_cons, flag, Bool.not_true, Bool.false_eq_true, if_false, if_true,
            noneOrdinary, List.nil_append, List.filter_eq_self.mpr allLast]

namespace Compile

open RightSide (isBar groups LaterFlag)
open Text (words)

variable {options : CompileOptions}

section Separator

variable {text front back : Text}

theorem occurrencesFrom_separator_eq_nil (position : Nat) :
    Text.occurrencesFrom separator position 0 text = [] ↔ ¬ separator <:+: text := by
  induction text generalizing position with
  | nil => simp [Text.occurrencesFrom, separator]
  | cons first rest inductionHypothesis =>
      rw [Text.occurrencesFrom, List.infix_cons_iff, ← List.isPrefixOf_iff_prefix, not_or]
      split
      next isStart => simp [isStart]
      next notStart => simpa [notStart] using inductionHypothesis (position + 1)

theorem occurrencesFrom_separator_append (position : Nat) (absent : ¬ separator <:+: front) :
    Text.occurrencesFrom separator position 0 (front ++ separator ++ back) =
      (position + front.length) ::
        Text.occurrencesFrom separator (position + front.length + separator.length) 0 back := by
  induction front generalizing position with
  | nil => rfl
  | cons first rest inductionHypothesis =>
      rw [List.infix_cons_iff, not_or] at absent
      have notStart : separator.isPrefixOf (first :: (rest ++ separator ++ back)) = false := by
        -- it would end inside `rest`, since it does not start as it ends
        cases rest with
        | nil => simp [separator, List.isPrefixOf]
        | cons second rest =>
            have notPrefix := absent.1
            rw [← List.isPrefixOf_iff_prefix] at notPrefix
            simpa [separator, List.isPrefixOf] using notPrefix
      rw [List.cons_append, List.cons_append, Text.occurrencesFrom, notStart,
        if_neg Bool.false_ne_true, inductionHypothesis (position + 1) absent.2, List.length_cons]
      simp only [Nat.add_assoc, Nat.add_comm 1]

/-- A text with the separator in it is cut at the first one. -/
theorem exists_first_separator (found : separator <:+: text) :
    ∃ front back, text = front ++ separator ++ back ∧ ¬ separator <:+: front := by
  induction text with
  | nil => simp [separator] at found
  | cons first rest inductionHypothesis =>
      by_cases atStart : separator <+: first :: rest
      · obtain ⟨back, split⟩ := atStart
        exact ⟨[], back, split.symm, by simp [separator]⟩
      · have inRest := (List.infix_cons_iff.mp found).resolve_left atStart
        obtain ⟨front, back, rfl, absent⟩ := inductionHypothesis inRest
        refine ⟨first :: front, back, rfl, ?_⟩
        rw [List.infix_cons_iff, not_or]
        refine ⟨fun isStart => atStart (isStart.trans ?_), absent⟩
        rw [List.append_assoc, ← List.cons_append]
        exact List.prefix_append _ _

end Separator

/-- The symbol that a word stands for. -/
inductive SymbolOf (options : CompileOptions) (word : Text) : Symbol → Prop where
  | nonTerminal (bracketed : ['<'] <+: word) : SymbolOf options word (.nonTerminal word)
  | epsilon (bracketless : '<' ∉ word) (spelled : word ∈ epsilonSpellings) :
      SymbolOf options word .epsilon
  | terminal {literal : Text} (bracketless : '<' ∉ word) (notSpelled : word ∉ epsilonSpellings)
      (nonempty : word ≠ []) (resolved : Escape.resolve word = .ok literal) :
      SymbolOf options word (.terminal literal options.caseSensitive)

theorem mem_of_bracketed {word : Text} (bracketed : ['<'] <+: word) : '<' ∈ word := by
  obtain ⟨rest, rfl⟩ := bracketed
  simp

theorem ne_nil_of_bracketed {word : Text} (bracketed : ['<'] <+: word) : word ≠ [] :=
  List.ne_nil_of_mem (mem_of_bracketed bracketed)

theorem symbol_eq_ok_iff {word : Text} {found : Symbol} :
    symbol options word = .ok found ↔ SymbolOf options word found := by
  constructor
  · intro compiled
    rw [symbol] at compiled
    split at compiled
    next bracketed =>
      cases compiled
      exact .nonTerminal (List.isPrefixOf_iff_prefix.mp bracketed)
    split at compiled
    · cases compiled
    next noBracket =>
    have bracketless : '<' ∉ word := by simpa using noBracket
    split at compiled
    next spelled =>
      cases compiled
      exact .epsilon bracketless (by simpa using spelled)
    next notSpelled =>
    split at compiled
    · cases compiled
    next nonempty =>
    split at compiled
    next literal resolved =>
      cases compiled
      exact .terminal bracketless (by simpa using notSpelled) (by simpa using nonempty) resolved
    · cases compiled
  · rintro (bracketed | ⟨bracketless, spelled⟩ | ⟨bracketless, notSpelled, nonempty, resolved⟩)
    · rw [symbol, if_pos (List.isPrefixOf_iff_prefix.mpr bracketed)]
    · have unbracketed : ¬ ['<'] <+: word := fun start => bracketless (mem_of_bracketed start)
      simp [symbol, unbracketed, bracketless, spelled]
    · have unbracketed : ¬ ['<'] <+: word := fun start => bracketless (mem_of_bracketed start)
      simp [symbol, unbracketed, bracketless, notSpelled, nonempty, resolved]

/-- The symbols that the words of an alternative stand for; without words the
alternative is empty. -/
inductive SymbolsOf (options : CompileOptions) : List Text → List Symbol → Prop where
  | none : SymbolsOf options [] [.epsilon]
  | some {allWords : List Text} {symbols : List Symbol} (nonempty : allWords ≠ [])
      (matched : List.Forall₂ (SymbolOf options) allWords symbols) :
      SymbolsOf options allWords symbols

theorem symbols_eq_ok_iff {allWords : List RightSide.Word} {found : List Symbol} :
    symbols options allWords = .ok found ↔
      SymbolsOf options (allWords.map RightSide.Word.text) found := by
  have located : ∀ (word : RightSide.Word) (read : Symbol),
      (symbol options word.text).mapError (·, word.span) = .ok read ↔
        SymbolOf options word.text read := by
    intro word read
    rw [← symbol_eq_ok_iff]
    cases symbol options word.text <;> simp [Except.mapError]
  rw [symbols]
  cases allWords with
  | nil =>
      constructor
      · intro compiled
        cases compiled
        exact .none
      · rintro (_ | ⟨nonempty, -⟩)
        · rfl
        · exact absurd rfl nonempty
  | cons word others =>
      simp only [List.isEmpty_cons, Bool.false_eq_true, if_false, mapM_eq_ok_iff, located]
      rw [← List.forall₂_map_left_iff (f := RightSide.Word.text)]
      constructor
      · exact .some (List.cons_ne_nil _ _)
      · rintro (_ | ⟨-, matched⟩)
        exact matched

/-- Whether a word has the form of a reference that may be left out. -/
def isOptional (word : Text) : Bool :=
  RightSide.Word.isOptional ⟨word, 0⟩

/-- A word as it is read where it is kept. -/
def kept (word : Text) : Text :=
  if isOptional word then word.dropLast else word

/-- All ways to leave out or keep optional words. -/
def choices : List Text → List (List Text)
  | [] => [[]]
  | word :: rest =>
      if isOptional word then choices rest ++ (choices rest).map (kept word :: ·)
      else (choices rest).map (kept word :: ·)

theorem exists_of_isOptional {word : Text} (optional : isOptional word = true) :
    ∃ inside, word = '<' :: (inside ++ ['>', '?']) := by
  simp only [isOptional, RightSide.Word.isOptional, Bool.and_eq_true, List.isPrefixOf_iff_prefix,
    List.isSuffixOf_iff_suffix] at optional
  obtain ⟨⟨-, start⟩, front, rfl⟩ := optional
  cases front with
  | nil => simp at start
  | cons first inside =>
      rw [List.cons_append, List.cons_prefix_cons] at start
      exact ⟨inside, by rw [start.1, List.cons_append]⟩

theorem required_of_bracketless {word : Text} (bracketless : '<' ∉ word) :
    isOptional word = false := by
  by_contra optional
  obtain ⟨inside, rfl⟩ := exists_of_isOptional (by simpa using optional)
  exact bracketless List.mem_cons_self

theorem kept_of_isOptional {word : Text} (optional : isOptional word = true) :
    kept word = word.dropLast := by
  rw [kept, if_pos optional]

theorem kept_of_required {word : Text} (required : isOptional word = false) :
    kept word = word := by
  rw [kept, required, if_neg Bool.false_ne_true]

/-- Keeping a word takes at most the question mark away. -/
theorem kept_prefix (word : Text) : kept word <+: word := by
  rw [kept]
  split
  · exact List.dropLast_prefix word
  · exact List.prefix_rfl

theorem exists_kept_of_isOptional {word : Text} (optional : isOptional word = true) :
    ∃ inside, word = '<' :: (inside ++ ['>', '?']) ∧ kept word = '<' :: (inside ++ ['>']) := by
  obtain ⟨inside, split⟩ := exists_of_isOptional optional
  have atEnd : word = '<' :: (inside ++ ['>']) ++ ['?'] := by
    rw [split, List.cons_append, List.append_assoc]
    rfl
  refine ⟨inside, split, ?_⟩
  rw [kept_of_isOptional optional, atEnd, List.dropLast_concat]

/-- Only references can be optional, so a word that is kept without a bracket is
kept as it is. -/
theorem kept_of_bracketless {word : Text} (bracketless : '<' ∉ kept word) : kept word = word := by
  cases optional : isOptional word with
  | false => exact kept_of_required optional
  | true =>
      obtain ⟨inside, -, keptSplit⟩ := exists_kept_of_isOptional optional
      exact absurd (keptSplit ▸ List.mem_cons_self) bracketless

/-- A word that ends without a blank is kept with an end without a blank. -/
theorem exists_getLast?_kept {word : Text} {last : Char} (found : word.getLast? = some last)
    (notBlank : Text.isBlank last = false) :
    ∃ keptLast, (kept word).getLast? = some keptLast ∧ Text.isBlank keptLast = false := by
  cases optional : isOptional word with
  | false => exact ⟨last, by rwa [kept_of_required optional], notBlank⟩
  | true =>
      obtain ⟨inside, -, keptSplit⟩ := exists_kept_of_isOptional optional
      refine ⟨'>', ?_, by decide⟩
      rw [keptSplit, ← List.cons_append, List.getLast?_concat]

theorem isOptional_kept (word : Text) : isOptional (kept word) = false := by
  cases optional : isOptional word with
  | false => rwa [kept_of_required optional]
  | true =>
      obtain ⟨inside, -, keptSplit⟩ := exists_kept_of_isOptional optional
      by_contra stillOptional
      obtain ⟨other, same⟩ := exists_of_isOptional (by simpa using stillOptional)
      rw [keptSplit, ← List.cons_append, ← List.cons_append] at same
      have sameLast := congrArg List.getLast? same
      rw [List.getLast?_append_of_ne_nil _ (List.cons_ne_nil _ _),
        List.getLast?_append_of_ne_nil _ (List.cons_ne_nil _ _)] at sameLast
      simp at sameLast

theorem map_text_expand (allWords : List RightSide.Word) :
    (RightSide.expand allWords).map (List.map RightSide.Word.text) =
      choices (allWords.map RightSide.Word.text) := by
  induction allWords with
  | nil => rfl
  | cons word others inductionHypothesis =>
      rw [RightSide.expand, List.map_cons, choices, ← inductionHypothesis]
      have sameForm : isOptional word.text = word.isOptional := rfl
      cases optional : word.isOptional with
      | false =>
          rw [kept_of_required (sameForm.trans optional), sameForm, optional]
          simp
      | true =>
          have marked : ['?'].isSuffixOf word.text = true := by
            obtain ⟨inside, split⟩ := exists_of_isOptional (sameForm.trans optional)
            rw [split, List.isSuffixOf_iff_suffix]
            exact ⟨'<' :: (inside ++ ['>']), by simp⟩
          have sameText : word.withoutMarker.text = kept word.text := by
            rw [RightSide.Word.withoutMarker, if_pos marked,
              kept_of_isOptional (sameForm.trans optional)]
          rw [sameForm, optional]
          simp [sameText]

theorem choices_of_required {allWords : List Text}
    (required : ∀ word ∈ allWords, isOptional word = false) : choices allWords = [allWords] := by
  induction allWords with
  | nil => rfl
  | cons word others inductionHypothesis =>
      rw [List.forall_mem_cons] at required
      rw [choices, required.1, inductionHypothesis required.2, kept_of_required required.1]
      rfl

theorem flatMap_choices_of_required {allGroups : List (List Text)}
    (required : ∀ group ∈ allGroups, ∀ word ∈ group, isOptional word = false) :
    allGroups.flatMap choices = allGroups := by
  calc allGroups.flatMap choices = allGroups.flatMap fun group => [group] :=
        List.flatMap_congr fun group member => choices_of_required (required group member)
    _ = allGroups := List.flatMap_singleton' allGroups

theorem exists_kept_of_mem_choices {allWords choice : List Text} {word : Text}
    (chosen : choice ∈ choices allWords) (member : word ∈ choice) :
    ∃ original ∈ allWords, word = kept original := by
  induction allWords generalizing choice with
  | nil =>
      rw [choices, List.mem_singleton] at chosen
      simp [chosen] at member
  | cons first others inductionHypothesis =>
      have laterKept : ∀ later ∈ choices others, word ∈ later →
          ∃ original ∈ first :: others, word = kept original := by
        intro later laterChosen inLater
        obtain ⟨original, inOthers, same⟩ := inductionHypothesis laterChosen inLater
        exact ⟨original, List.mem_cons_of_mem first inOthers, same⟩
      have keptFirst : choice ∈ (choices others).map (kept first :: ·) →
          ∃ original ∈ first :: others, word = kept original := by
        intro keeps
        obtain ⟨later, laterChosen, rfl⟩ := List.mem_map.mp keeps
        rcases List.mem_cons.mp member with rfl | inLater
        · exact ⟨first, List.mem_cons_self, rfl⟩
        · exact laterKept later laterChosen inLater
      rw [choices] at chosen
      split at chosen
      · rcases List.mem_append.mp chosen with leftOut | keeps
        · exact laterKept choice leftOut member
        · exact keptFirst keeps
      · exact keptFirst chosen

/-- The last choice keeps every word. -/
theorem getLast?_choices (allWords : List Text) :
    (choices allWords).getLast? = some (allWords.map kept) := by
  induction allWords with
  | nil => rfl
  | cons word others inductionHypothesis =>
      rw [choices]
      split <;> simp [inductionHypothesis]

theorem variants_eq_ok_iff {raw : RightSide.RawAlternative} {found : List Alternative} :
    variants options raw = .ok found ↔
      List.Forall₂ (fun choice alternative => SymbolsOf options choice alternative.symbols ∧
        alternative.tryLast = raw.tryLast) (choices raw.texts) found := by
  have single : ∀ (chosen : List RightSide.Word) (alternative : Alternative),
      (do
        let symbols ← symbols options chosen
        return (⟨symbols, raw.tryLast⟩ : Alternative)) = .ok alternative ↔
      SymbolsOf options (chosen.map RightSide.Word.text) alternative.symbols ∧
        alternative.tryLast = raw.tryLast := by
    intro chosen alternative
    rw [← symbols_eq_ok_iff]
    obtain ⟨symbols, tryLast⟩ := alternative
    cases Compile.symbols options chosen <;>
      simp [bind, Except.bind, pure, Except.pure, eq_comm]
  rw [variants, mapM_eq_ok_iff, RightSide.RawAlternative.texts, ← map_text_expand,
    List.forall₂_map_left_iff]
  simp only [single]

theorem alternatives_eq_ok_iff {rightSide : Text} {found : List Alternative} :
    alternatives options rightSide = .ok found ↔
      ∃ raw, RightSide.split rightSide options.stickyRules = .ok raw ∧
        ∃ perGroup, List.Forall₂ (fun group compiled => variants options group = .ok compiled)
          raw perGroup ∧ found = perGroup.flatten := by
  rw [alternatives]
  cases divided : RightSide.split rightSide options.stickyRules with
  | error located => simp [bind, Except.bind]
  | ok raw =>
      simp only [← mapM_eq_ok_iff]
      cases compiled : raw.mapM (variants options) <;>
        simp [bind, Except.bind, pure, Except.pure, compiled, eq_comm]

/-- A right side compiles to one alternative for each choice in each of its
groups of words. -/
theorem symbolsOf_of_alternatives {rightSide : Text} {found : List Alternative}
    (nonempty : rightSide ≠ []) (trimmed : Text.Trimmed rightSide)
    (compiled : alternatives options rightSide = .ok found) :
    List.Forall₂ (SymbolsOf options)
      ((groups options.stickyRules (words rightSide)).flatMap choices)
      (found.map Alternative.symbols) := by
  obtain ⟨raw, divided, perGroup, each, rfl⟩ := alternatives_eq_ok_iff.mp compiled
  rw [← RightSide.texts_of_split nonempty trimmed divided]
  clear divided compiled
  induction each with
  | nil => exact .nil
  | @cons group compiled raw perGroup first _ inductionHypothesis =>
      rw [List.map_cons, List.flatMap_cons, List.flatten_cons, List.map_append]
      refine List.rel_append ?_ inductionHypothesis
      rw [List.forall₂_map_right_iff]
      exact (variants_eq_ok_iff.mp first).imp fun _ _ both => both.1

/-- In a compiled right side, try-last alternatives come last. -/
theorem flags_of_alternatives {rightSide : Text} {found : List Alternative}
    (compiled : alternatives options rightSide = .ok found) :
    (false :: found.map Alternative.tryLast).Pairwise (LaterFlag options.stickyRules) := by
  obtain ⟨raw, divided, perGroup, each, rfl⟩ := alternatives_eq_ok_iff.mp compiled
  have flags := RightSide.flags_of_split divided
  clear divided compiled
  generalize false = flag at flags ⊢
  induction each generalizing flag with
  | nil => simp
  | @cons group compiled raw perGroup first _ inductionHypothesis =>
      rw [List.map_cons, List.pairwise_cons] at flags
      have carried : ∀ alternative ∈ compiled, alternative.tryLast = group.tryLast := by
        intro alternative member
        obtain ⟨_, -, -, same⟩ := exists_mem_of_forall₂ (variants_eq_ok_iff.mp first) member
        exact same
      have later := List.pairwise_cons.mp (inductionHypothesis group.tryLast flags.2)
      have toGroup : LaterFlag options.stickyRules flag group.tryLast :=
        flags.1 _ List.mem_cons_self
      rw [List.flatten_cons, List.map_append, List.pairwise_cons, List.pairwise_append]
      refine ⟨?_, ?_, later.2, ?_⟩
      · intro other member
        rcases List.mem_append.mp member with inFirst | inLater
        · obtain ⟨alternative, isCompiled, rfl⟩ := List.mem_map.mp inFirst
          rw [carried alternative isCompiled]
          exact toGroup
        · exact toGroup.trans (later.1 other inLater)
      · rw [List.pairwise_map]
        refine List.pairwise_of_forall_mem_list fun first firstMember second secondMember => ?_
        rw [carried first firstMember, carried second secondMember]
        exact .refl group.tryLast
      · intro first firstMember second secondMember
        obtain ⟨alternative, isCompiled, rfl⟩ := List.mem_map.mp firstMember
        rw [carried alternative isCompiled]
        exact later.1 second secondMember

theorem exists_alternatives {rightSide : Text} {found : List (List Symbol)}
    (nonempty : rightSide ≠ []) (trimmed : Text.Trimmed rightSide)
    (singleSpaced : Text.SingleSpaced rightSide)
    (full : [] ∉ groups options.stickyRules (words rightSide))
    (read : List.Forall₂ (SymbolsOf options)
      ((groups options.stickyRules (words rightSide)).flatMap choices) found) :
    ∃ alternatives, Compile.alternatives options rightSide = .ok alternatives ∧
      alternatives.map Alternative.symbols = found := by
  obtain ⟨raw, divided⟩ := RightSide.exists_split nonempty trimmed singleSpaced full
  rw [← RightSide.texts_of_split nonempty trimmed divided] at read
  suffices perGroup : ∃ perGroup,
      List.Forall₂ (fun group compiled => variants options group = .ok compiled) raw perGroup ∧
        perGroup.flatten.map Alternative.symbols = found by
    obtain ⟨perGroup, each, same⟩ := perGroup
    exact ⟨_, alternatives_eq_ok_iff.mpr ⟨raw, divided, perGroup, each, rfl⟩, same⟩
  clear divided full
  induction raw generalizing found with
  | nil =>
      cases read
      exact ⟨[], .nil, rfl⟩
  | cons group raw inductionHypothesis =>
      rw [List.map_cons, List.flatMap_cons] at read
      obtain ⟨firstFound, laterFound, rfl, first, later⟩ := exists_append_of_forall₂ read
      obtain ⟨perGroup, each, rfl⟩ := inductionHypothesis later
      let compiled := firstFound.map fun symbols => (⟨symbols, group.tryLast⟩ : Alternative)
      have firstCompiled : variants options group = .ok compiled := by
        rw [variants_eq_ok_iff, List.forall₂_map_right_iff]
        exact first.imp fun _ _ matched => ⟨matched, rfl⟩
      refine ⟨compiled :: perGroup, .cons firstCompiled each, ?_⟩
      rw [List.flatten_cons, List.map_append, List.map_map]
      congr 1
      exact List.map_id firstFound

section CompiledSymbols

variable {rightSide : Text} {found : List Alternative} {alternative : Alternative}
variable {read : Symbol}

/-- Every symbol stands for a word, or for the words that were all left out. -/
theorem exists_word_of_symbol (nonempty : rightSide ≠ []) (trimmed : Text.Trimmed rightSide)
    (compiled : alternatives options rightSide = .ok found) (isFound : alternative ∈ found)
    (isSymbol : read ∈ alternative.symbols) :
    read = .epsilon ∨ ∃ word ∈ words rightSide, SymbolOf options (kept word) read := by
  obtain ⟨choice, isChoice, symbolsOf⟩ :=
    exists_mem_of_forall₂ (symbolsOf_of_alternatives nonempty trimmed compiled)
      (List.mem_map_of_mem isFound)
  obtain ⟨group, isGroup, chosen⟩ := List.mem_flatMap.mp isChoice
  generalize alternative.symbols = symbols at isSymbol symbolsOf
  cases symbolsOf with
  | none => exact .inl (List.mem_singleton.mp isSymbol)
  | some _ matched =>
      obtain ⟨word, inChoice, symbolOf⟩ := exists_mem_of_forall₂ matched isSymbol
      obtain ⟨original, inGroup, rfl⟩ := exists_kept_of_mem_choices chosen inChoice
      exact .inr ⟨original, RightSide.mem_of_mem_groups isGroup inGroup, symbolOf⟩

theorem symbols_ne_nil_of_alternatives (nonempty : rightSide ≠ [])
    (trimmed : Text.Trimmed rightSide) (compiled : alternatives options rightSide = .ok found)
    (isFound : alternative ∈ found) : alternative.symbols ≠ [] := by
  obtain ⟨choice, -, symbolsOf⟩ :=
    exists_mem_of_forall₂ (symbolsOf_of_alternatives nonempty trimmed compiled)
      (List.mem_map_of_mem isFound)
  generalize alternative.symbols = symbols at symbolsOf
  cases symbolsOf with
  | none => exact List.cons_ne_nil _ _
  | some nonempty matched =>
      rintro rfl
      cases matched
      exact nonempty rfl

theorem ne_nil_of_alternatives (nonempty : rightSide ≠ []) (trimmed : Text.Trimmed rightSide)
    (compiled : alternatives options rightSide = .ok found) : found ≠ [] := by
  rintro rfl
  have each := symbolsOf_of_alternatives nonempty trimmed compiled
  rw [List.map_nil, List.forall₂_nil_right_iff, List.flatMap_eq_nil_iff] at each
  cases division : groups options.stickyRules (words rightSide) with
  | nil =>
      have count := RightSide.length_groups options.stickyRules (words rightSide)
      simp [division] at count
  | cons first others =>
      have lastChoice := getLast?_choices first
      simp [each first (division ▸ List.mem_cons_self)] at lastChoice

/-- The last symbol stands for the last word, which ends without a blank. -/
theorem exists_last_word (nonempty : rightSide ≠ []) (trimmed : Text.Trimmed rightSide)
    (compiled : alternatives options rightSide = .ok found)
    (isLast : found.getLast? = some alternative)
    (isLastSymbol : alternative.symbols.getLast? = some read) :
    ∃ word final, word ∈ words rightSide ∧ word.getLast? = some final ∧
      Text.isBlank final = false ∧ SymbolOf options (kept word) read := by
  obtain ⟨word, final, wordLast, ends, notBlank⟩ := trimmed.exists_last_word nonempty
  obtain ⟨group, groupLast, groupEnds⟩ :=
    RightSide.exists_getLast?_groups options.stickyRules wordLast
  have symbolsLast : (found.map Alternative.symbols).getLast? = some alternative.symbols := by
    rw [List.getLast?_map, isLast, Option.map_some]
  obtain ⟨choice, choiceLast, symbolsOf⟩ := exists_getLast?_of_forall₂
    (symbolsOf_of_alternatives nonempty trimmed compiled) symbolsLast
  have keptGroup : choice = group.map kept := by
    obtain ⟨front, split⟩ := List.getLast?_eq_some_iff.mp groupLast
    rw [split, List.flatMap_append, List.flatMap_singleton, List.getLast?_append,
      getLast?_choices, Option.some_or, Option.some.injEq] at choiceLast
    exact choiceLast.symm
  refine ⟨word, final, List.mem_of_getLast? wordLast, ends, notBlank, ?_⟩
  rw [keptGroup] at symbolsOf
  generalize alternative.symbols = symbols at isLastSymbol symbolsOf
  generalize keptSplit : group.map kept = keptWords at symbolsOf
  cases symbolsOf with
  | none => simp [List.map_eq_nil_iff.mp keptSplit] at groupEnds
  | some _ matched =>
      obtain ⟨last, lastKept, symbolOf⟩ := exists_getLast?_of_forall₂ matched isLastSymbol
      rw [← keptSplit, List.getLast?_map, groupEnds, Option.map_some,
        Option.some.injEq] at lastKept
      exact lastKept ▸ symbolOf

section Required

variable (required : ∀ word ∈ words rightSide, isOptional word = false)

include required

/-- Without optional words, every group is one alternative. -/
theorem symbolsOf_of_required (nonempty : rightSide ≠ []) (trimmed : Text.Trimmed rightSide)
    (compiled : alternatives options rightSide = .ok found) :
    List.Forall₂ (SymbolsOf options) (groups options.stickyRules (words rightSide))
      (found.map Alternative.symbols) := by
  have each := symbolsOf_of_alternatives nonempty trimmed compiled
  rwa [flatMap_choices_of_required] at each
  exact fun group isGroup word inGroup =>
    required word (RightSide.mem_of_mem_groups isGroup inGroup)

theorem length_of_required (nonempty : rightSide ≠ []) (trimmed : Text.Trimmed rightSide)
    (compiled : alternatives options rightSide = .ok found) :
    found.length = (groups options.stickyRules (words rightSide)).length := by
  simpa using (symbolsOf_of_required required nonempty trimmed compiled).length_eq.symm

/-- Without optional words, the first symbol stands for the first word, which
starts without a blank. -/
theorem exists_first_word (nonempty : rightSide ≠ []) (trimmed : Text.Trimmed rightSide)
    (compiled : alternatives options rightSide = .ok found)
    (isFirst : found.head? = some alternative)
    (isFirstSymbol : alternative.symbols.head? = some read) :
    ∃ word initial, word ∈ words rightSide ∧ word.head? = some initial ∧
      Text.isBlank initial = false ∧ SymbolOf options word read := by
  have each := symbolsOf_of_required required nonempty trimmed compiled
  obtain ⟨word, initial, wordFirst, starts, notBlank⟩ := trimmed.exists_first_word nonempty
  obtain ⟨later, allWords⟩ := List.head?_eq_some_iff.mp wordFirst
  obtain ⟨rest, more, division⟩ :=
    RightSide.exists_groups_eq_cons options.stickyRules word later
  obtain ⟨others, rfl⟩ := List.head?_eq_some_iff.mp isFirst
  rw [allWords, division, List.map_cons, List.forall₂_cons] at each
  refine ⟨word, initial, List.mem_of_head? wordFirst, starts, notBlank, ?_⟩
  have symbolsOf := each.1
  generalize alternative.symbols = symbols at isFirstSymbol symbolsOf
  cases symbolsOf with
  | some _ matched =>
      cases matched with
      | cons symbolOf _ =>
          rw [List.head?_cons, Option.some.injEq] at isFirstSymbol
          exact isFirstSymbol ▸ symbolOf

end Required

end CompiledSymbols

/-- The alternatives that a right side without blanks at its ends is read as. -/
inductive ReadsRightSide (options : CompileOptions) (rightSide : Text) :
    List Alternative → Prop where
  | pattern {regex : Regex} (marked : ['^'] <+: rightSide)
      (resolved : Escape.resolve rightSide = .ok regex.pattern) :
      ReadsRightSide options rightSide [{ symbols := [.pattern regex] }]
  | cases {alternatives : List Alternative} (unmarked : ¬ ['^'] <+: rightSide)
      (nonempty : rightSide ≠ [])
      (found : Compile.alternatives options rightSide = .ok alternatives) :
      ReadsRightSide options rightSide alternatives

theorem pattern_eq_ok_iff {rightSide : Text} {alternative : Alternative} :
    pattern rightSide = .ok alternative ↔ ∃ regex : Regex,
      Escape.resolve rightSide = .ok regex.pattern ∧
        alternative = { symbols := [.pattern regex] } := by
  rw [pattern]
  cases resolution : Escape.resolve rightSide with
  | error shown => simp
  | ok resolved =>
      simp only [Except.ok.injEq]
      cases compiled : Regex.ofPattern? resolved with
      | none =>
          constructor
          · intro failed
            cases failed
          · rintro ⟨regex, rfl, -⟩
            rw [Regex.ofPattern?_eq_some_iff.mpr rfl] at compiled
            cases compiled
      | some regex =>
          have samePattern := Regex.ofPattern?_eq_some_iff.mp compiled
          constructor
          · intro found
            cases found
            exact ⟨regex, samePattern.symm, rfl⟩
          · rintro ⟨other, otherPattern, rfl⟩
            rw [Regex.ext_pattern (samePattern.trans otherPattern)]

theorem readsRightSide_iff_pattern {rightSide : Text} {alternatives : List Alternative}
    (marked : ['^'] <+: rightSide) : ReadsRightSide options rightSide alternatives ↔
      ∃ alternative, pattern rightSide = .ok alternative ∧ alternatives = [alternative] := by
  constructor
  · rintro (⟨-, resolved⟩ | ⟨unmarked, -, -⟩)
    · exact ⟨_, pattern_eq_ok_iff.mpr ⟨_, resolved, rfl⟩, rfl⟩
    · exact absurd marked unmarked
  · rintro ⟨alternative, found, rfl⟩
    obtain ⟨regex, resolved, rfl⟩ := pattern_eq_ok_iff.mp found
    exact .pattern marked resolved

theorem readsRightSide_iff_cases {rightSide : Text} {alternatives : List Alternative}
    (unmarked : ¬ ['^'] <+: rightSide) : ReadsRightSide options rightSide alternatives ↔
      rightSide ≠ [] ∧ Compile.alternatives options rightSide = .ok alternatives := by
  constructor
  · rintro (⟨marked, -⟩ | ⟨-, nonempty, found⟩)
    · exact absurd marked unmarked
    · exact ⟨nonempty, found⟩
  · rintro ⟨nonempty, found⟩
    exact .cases unmarked nonempty found

/-- A line with a separator compiles if there is no other one, with the name in
front of it and the right side behind it. -/
theorem rule_eq_ok_iff {front back : Text} {rule : Rule} (absent : ¬ separator <:+: front) :
    Compile.rule options (front ++ separator ++ back) = .ok rule ↔
      ¬ separator <:+: back ∧ Text.trim front ≠ [] ∧ rule.name = Text.trim front ∧
        ReadsRightSide options (Text.trim back) rule.alternatives := by
  have found : Text.occurrences separator (front ++ separator ++ back) =
      front.length :: Text.occurrencesFrom separator (front.length + separator.length) 0 back := by
    simpa [Text.occurrences] using occurrencesFrom_separator_append 0 absent
  have cutFront : (front ++ separator ++ back).take front.length = front := by simp
  have cutBack : (front ++ separator ++ back).drop (front.length + separator.length) = back := by
    rw [← List.length_append, List.drop_left]
  generalize front ++ separator ++ back = line at found cutFront cutBack ⊢
  rw [← occurrencesFrom_separator_eq_nil (front.length + separator.length)]
  obtain ⟨name, alternatives⟩ := rule
  cases others : Text.occurrencesFrom separator (front.length + separator.length) 0 back with
  | cons second more => simp [Compile.rule, found, others]
  | nil =>
      rw [others] at found
      simp only [Compile.rule, found, cutFront, cutBack, true_and, List.isEmpty_iff, ne_eq,
        List.isPrefixOf_iff_prefix]
      by_cases noName : Text.trim front = []
      · simp [noName]
      by_cases marked : ['^'] <+: Text.trim back
      · rw [readsRightSide_iff_pattern marked]
        cases pattern (Text.trim back) <;> simp [noName, marked, eq_comm]
      · rw [readsRightSide_iff_cases marked]
        by_cases empty : Text.trim back = []
        · simp [noName, empty]
        · cases Compile.alternatives options (Text.trim back) <;>
            simp [noName, marked, empty, eq_comm]

theorem not_separator_infix_append_space {text : Text} (absent : ¬ separator <:+: text) :
    ¬ separator <:+: text ++ [' '] := by
  intro found
  rcases Text.infix_append_cons (by decide) found with inText | inNil
  · exact absent inText
  · simp [separator] at inNil

theorem separator_infix_space_cons_iff {text : Text} :
    separator <:+: ' ' :: text ↔ separator <:+: text := by
  constructor
  · intro found
    have foundBehind : separator <:+: [] ++ ' ' :: text := found
    rcases Text.infix_append_cons (by decide) foundBehind with inNil | inText
    · simp [separator] at inNil
    · exact inText
  · exact fun found => found.trans (List.suffix_cons ' ' text).isInfix

/-- A line in which the separator stands between spaces. -/
theorem rule_line_eq_ok_iff {name rightSide : Text} {rule : Rule}
    (absent : ¬ separator <:+: name) :
    Compile.rule options (name ++ " := ".toList ++ rightSide) = .ok rule ↔
      ¬ separator <:+: rightSide ∧ Text.trim name ≠ [] ∧ rule.name = Text.trim name ∧
        ReadsRightSide options (Text.trim rightSide) rule.alternatives := by
  have split : name ++ " := ".toList ++ rightSide =
      (name ++ [' ']) ++ separator ++ (' ' :: rightSide) := by
    simp [separator]
  have sameName : Text.trim (name ++ [' ']) = Text.trim name := by
    have behind : Text.trim ([] ++ name ++ [' ']) = Text.trim name :=
      Text.trim_blanks_append_blanks rfl rfl name
    rwa [List.nil_append] at behind
  have sameRightSide : Text.trim (' ' :: rightSide) = Text.trim rightSide := by
    have inFront : Text.trim ([' '] ++ rightSide ++ []) = Text.trim rightSide :=
      Text.trim_blanks_append_blanks rfl rfl rightSide
    rwa [List.append_nil, List.singleton_append] at inFront
  rw [split, rule_eq_ok_iff (not_separator_infix_append_space absent), sameName, sameRightSide,
    separator_infix_space_cons_iff]

/-- A rule that is read from a right side is tried in the order of that side. -/
theorem ReadsRightSide.tried_eq {rightSide : Text} {rule : Rule}
    (reads : ReadsRightSide options rightSide rule.alternatives) :
    rule.tried = rule.alternatives := by
  generalize split : rule.alternatives = alternatives at reads
  rw [← split]
  cases reads with
  | pattern => exact Rule.tried_eq_alternatives options.stickyRules (by simp [split])
  | cases _ _ found =>
      rw [← split] at found
      exact Rule.tried_eq_alternatives options.stickyRules (flags_of_alternatives found).of_cons

theorem exists_separator_of_rule {line : Text} {rule : Rule}
    (compiled : Compile.rule options line = .ok rule) :
    ∃ front back, line = front ++ separator ++ back ∧ ¬ separator <:+: front := by
  refine exists_first_separator (not_not.mp fun absent => ?_)
  rw [← occurrencesFrom_separator_eq_nil 0, ← Text.occurrences] at absent
  rw [Compile.rule, absent] at compiled
  cases compiled

end Compile

end BnfParsing
