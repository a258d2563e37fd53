import BnfParsing.Proofs.Grammar.Compilation
import BnfParsing.Proofs.Text.Offsets
import Mathlib.Algebra.Ring.Nat

/-!
Contract: optional words expand to all choices, in the order of binary numbers.

A choice is a number with one binary digit for each optional word, the digit of the first
word being the most significant one. The words whose digit is 0 are left out, those whose
digit is 1 lose their question mark, and all others stay as they are.

Owns:
- the form of an optional word, and what is left of it where it is kept;
- the number of choices and the choice of a number;
- the block of alternatives that a raw alternative becomes, and the rule made of the blocks.

Does not own: what a single word stands for, and how a right side is divided into words.
-/

set_option autoImplicit false

namespace BnfParsing

namespace RightSide

variable {word : Word} {words : List Word}

theorem Word.isOptional_iff :
    word.isOptional = true ↔ ∃ name, word.text = '<' :: (name ++ ['>', '?']) := by
  constructor
  · intro optional
    exact Compile.exists_of_isOptional optional
  · rintro ⟨name, split⟩
    have long : 2 < Text.byteLength word.text := by
      have marks : Text.byteLength ['>', '?'] = 2 := rfl
      have bracket : Char.utf8Size '<' = 1 := rfl
      rw [split, Text.byteLength, Text.byteLength_append]
      omega
    have starts : ['<'] <+: word.text := ⟨name ++ ['>', '?'], split.symm⟩
    have ends : ['>', '?'] <:+ word.text := ⟨'<' :: name, split.symm⟩
    rw [isOptional, decide_eq_true long, List.isPrefixOf_iff_prefix.mpr starts,
      List.isSuffixOf_iff_suffix.mpr ends]
    rfl

theorem Word.withoutMarker_of_text (name : Text) (start : Nat) :
    (⟨'<' :: (name ++ ['>', '?']), start⟩ : Word).withoutMarker =
      ⟨'<' :: (name ++ ['>']), start⟩ := by
  have atEnd : '<' :: (name ++ ['>', '?']) = '<' :: (name ++ ['>']) ++ ['?'] := by
    rw [List.cons_append, List.append_assoc]
    rfl
  rw [Word.withoutMarker, atEnd, if_pos (List.isSuffixOf_iff_suffix.mpr ⟨_, rfl⟩),
    List.dropLast_concat]

/-- How many words may be left out. -/
def optionalCount (words : List Word) : Nat := words.countP Word.isOptional

/-- The words that a number selects. The digit of an optional word is the one with as many
lower digits as there are optional words behind it; if it is 0, the word is left out. -/
def selection (number : Nat) : List Word → List Word
  | [] => []
  | word :: rest =>
      if word.isOptional then
        if number.testBit (optionalCount rest) then word.withoutMarker :: selection number rest
        else selection number rest
      else word :: selection number rest

/-- A digit in front of those of all optional words selects nothing. -/
theorem selection_two_pow_add {place : Nat} (inFront : optionalCount words ≤ place)
    (number : Nat) : selection (2 ^ place + number) words = selection number words := by
  induction words with
  | nil => rfl
  | cons word rest inductionHypothesis =>
      rw [optionalCount, List.countP_cons] at inFront
      have restInFront : optionalCount rest ≤ place := by
        unfold optionalCount
        omega
      rw [selection, selection, inductionHypothesis restInFront]
      cases optional : word.isOptional with
      | false => rfl
      | true =>
          have below : optionalCount rest < place := by
            rw [optional, if_pos rfl] at inFront
            exact inFront
          rw [Nat.testBit_two_pow_add_gt below]

/-- The expansion lists the selections of all numbers with enough digits. -/
theorem expand_eq_map_selection (words : List Word) :
    expand words = (List.range (2 ^ optionalCount words)).map (selection · words) := by
  induction words with
  | nil => rfl
  | cons word rest inductionHypothesis =>
      cases optional : word.isOptional with
      | false =>
          have sameCount : optionalCount (word :: rest) = optionalCount rest :=
            List.countP_cons_of_neg (by simp [optional])
          simp only [expand, selection, optional, Bool.false_eq_true, if_false, sameCount,
            inductionHypothesis, List.map_map, Function.comp_def]
      | true =>
          have oneMore : optionalCount (word :: rest) = optionalCount rest + 1 :=
            List.countP_cons_of_pos optional
          -- the digit of the first word divides the numbers into a lower and an upper half
          have lower : ∀ number ∈ List.range (2 ^ optionalCount rest),
              selection number (word :: rest) = selection number rest := by
            intro number isLower
            rw [selection, if_pos optional,
              Nat.testBit_lt_two_pow (List.mem_range.mp isLower), if_neg Bool.false_ne_true]
          have upper : ∀ number ∈ List.range (2 ^ optionalCount rest),
              selection (2 ^ optionalCount rest + number) (word :: rest) =
                word.withoutMarker :: selection number rest := by
            intro number isLower
            rw [selection, if_pos optional, Nat.testBit_two_pow_add_eq,
              Nat.testBit_lt_two_pow (List.mem_range.mp isLower), Bool.not_false, if_pos rfl,
              selection_two_pow_add (Nat.le_refl _)]
          rw [expand, if_pos optional, inductionHypothesis, oneMore, Nat.pow_succ, Nat.mul_two,
            List.range_add, List.map_append, List.map_map, List.map_map,
            List.map_congr_left lower]
          congr 1
          exact List.map_congr_left fun number isLower => (upper number isLower).symm

theorem length_expand (words : List Word) :
    (expand words).length = 2 ^ optionalCount words := by
  rw [expand_eq_map_selection, List.length_map, List.length_range]

theorem getElem?_expand {number : Nat} (small : number < 2 ^ optionalCount words) :
    (expand words)[number]? = some (selection number words) := by
  rw [expand_eq_map_selection, List.getElem?_map, List.getElem?_range small, Option.map_some]

end RightSide

namespace Compile

open RightSide (RawAlternative Word expand optionalCount selection)

variable {options : CompileOptions}

/-- The alternatives of a raw alternative: one for each choice of its optional words, in the
order of numbers, all with its flag. -/
structure IsBlock (options : CompileOptions) (raw : RawAlternative) (block : List Alternative) :
    Prop where
  length_eq : block.length = 2 ^ optionalCount raw.words
  symbolsOf : ∀ number alternative, block[number]? = some alternative →
    SymbolsOf options ((selection number raw.words).map Word.text) alternative.symbols
  tryLast_eq : ∀ alternative ∈ block, alternative.tryLast = raw.tryLast

theorem variants_eq_ok_iff_isBlock {raw : RawAlternative} {block : List Alternative} :
    variants options raw = .ok block ↔ IsBlock options raw block := by
  have choicesEq : choices raw.texts = (List.range (2 ^ optionalCount raw.words)).map
      fun number => (selection number raw.words).map Word.text := by
    rw [RawAlternative.texts, ← map_text_expand, RightSide.expand_eq_map_selection, List.map_map]
    rfl
  rw [variants_eq_ok_iff, choicesEq, List.forall₂_map_left_iff, List.forall₂_iff_get]
  simp only [List.length_range, List.get_eq_getElem, List.getElem_range]
  constructor
  · rintro ⟨sameLength, each⟩
    refine ⟨sameLength.symm, fun number alternative found => ?_, fun alternative member => ?_⟩
    · obtain ⟨inside, rfl⟩ := List.getElem?_eq_some_iff.mp found
      exact (each number (sameLength ▸ inside) inside).1
    · obtain ⟨number, inside, rfl⟩ := List.getElem_of_mem member
      exact (each number (sameLength ▸ inside) inside).2
  · intro isBlock
    refine ⟨isBlock.length_eq.symm, fun number _ inside => ⟨?_, ?_⟩⟩
    · exact isBlock.symbolsOf number block[number] (List.getElem?_eq_getElem inside)
    · exact isBlock.tryLast_eq _ (List.getElem_mem inside)

/-- The alternatives of a right side are the blocks of its raw alternatives in a row. -/
theorem alternatives_eq_ok_iff_blocks {rightSide : Text} {found : List Alternative} :
    alternatives options rightSide = .ok found ↔
      ∃ raw blocks, RightSide.split rightSide options.stickyRules = .ok raw ∧
        List.Forall₂ (IsBlock options) raw blocks ∧ found = blocks.flatten := by
  rw [alternatives_eq_ok_iff]
  simp only [variants_eq_ok_iff_isBlock, exists_and_left]

theorem rule_eq_ok_iff_blocks {front back : Text} {rule : Rule} (absent : ¬ separator <:+: front)
    (unmarked : ¬ ['^'] <+: Text.trim back) :
    Compile.rule options (front ++ separator ++ back) = .ok rule ↔
      ¬ separator <:+: back ∧ Text.trim front ≠ [] ∧ Text.trim back ≠ [] ∧
        rule.name = Text.trim front ∧
        ∃ raw blocks, RightSide.split (Text.trim back) options.stickyRules = .ok raw ∧
          List.Forall₂ (IsBlock options) raw blocks ∧ rule.alternatives = blocks.flatten := by
  rw [rule_eq_ok_iff absent, readsRightSide_iff_cases unmarked, alternatives_eq_ok_iff_blocks]
  tauto

/-- A list of words expands to the selections of all numbers, in their order, and a rule has
the blocks of its raw alternatives in theirs, which is also the order they are tried in. -/
theorem optionals_expand_in_order (options : CompileOptions) :
    (∀ word : Word,
      word.isOptional = true ↔ ∃ name, word.text = '<' :: (name ++ ['>', '?'])) ∧
    (∀ (name : Text) (start : Nat),
      (⟨'<' :: (name ++ ['>', '?']), start⟩ : Word).withoutMarker =
        ⟨'<' :: (name ++ ['>']), start⟩) ∧
    (∀ words : List Word, (expand words).length = 2 ^ optionalCount words ∧
      ∀ number < 2 ^ optionalCount words,
        (expand words)[number]? = some (selection number words)) ∧
    ∀ (front back : Text) (rule : Rule), ¬ separator <:+: front → ¬ ['^'] <+: Text.trim back →
      (Compile.rule options (front ++ separator ++ back) = .ok rule ↔
        ¬ separator <:+: back ∧ Text.trim front ≠ [] ∧ Text.trim back ≠ [] ∧
          rule.name = Text.trim front ∧
          ∃ raw blocks, RightSide.split (Text.trim back) options.stickyRules = .ok raw ∧
            List.Forall₂ (IsBlock options) raw blocks ∧ rule.alternatives = blocks.flatten) ∧
      (Compile.rule options (front ++ separator ++ back) = .ok rule →
        rule.tried = rule.alternatives) := by
  refine ⟨fun _ => Word.isOptional_iff, Word.withoutMarker_of_text,
    fun words => ⟨RightSide.length_expand words, fun _ => RightSide.getElem?_expand⟩, ?_⟩
  intro front back rule absent unmarked
  refine ⟨rule_eq_ok_iff_blocks absent unmarked, fun compiled => ?_⟩
  exact ((rule_eq_ok_iff absent).mp compiled).2.2.2.tried_eq

/-- The blocks of two optional words with a literal, a reference, and an optional word alone. -/
def optionalBlocks : Rule :=
  ⟨"<r>".toList,
    [{ symbols := [.terminal ['c'] true] },
      { symbols := [.nonTerminal "<b>".toList, .terminal ['c'] true] },
      { symbols := [.nonTerminal "<a>".toList, .terminal ['c'] true] },
      { symbols :=
          [.nonTerminal "<a>".toList, .nonTerminal "<b>".toList, .terminal ['c'] true] },
      { symbols := [.nonTerminal "<d>".toList] },
      { symbols := [.epsilon], tryLast := true },
      { symbols := [.nonTerminal "<e>".toList], tryLast := true }]⟩

/-- The choices for the last word stand behind a double bar, and one of them is empty. -/
theorem optionalBlocks_in_order :
    ¬ separator <:+: "<r> ".toList ∧
      ¬ ['^'] <+: Text.trim " <a>? <b>? c | <d> || <e>?".toList ∧
      Compile.rule { stickyRules := true }
        ("<r> ".toList ++ separator ++ " <a>? <b>? c | <d> || <e>?".toList) =
          .ok optionalBlocks ∧
      (∃ raw blocks, RightSide.split "<a>? <b>? c | <d> || <e>?".toList true = .ok raw ∧
        List.Forall₂ (IsBlock { stickyRules := true }) raw blocks ∧
        optionalBlocks.alternatives = blocks.flatten) ∧
      (expand [⟨"<a>?".toList, 0⟩, ⟨"c".toList, 5⟩, ⟨"<b>?".toList, 7⟩])[2]? =
        some [⟨"<a>".toList, 0⟩, ⟨"c".toList, 5⟩] := by
  have absent : ¬ separator <:+: "<r> ".toList := by decide
  have unmarked : ¬ ['^'] <+: Text.trim " <a>? <b>? c | <d> || <e>?".toList := by decide
  have compiled : Compile.rule { stickyRules := true }
      ("<r> ".toList ++ separator ++ " <a>? <b>? c | <d> || <e>?".toList) =
        .ok optionalBlocks := rfl
  obtain ⟨-, -, expands, compiles⟩ := optionals_expand_in_order { stickyRules := true }
  obtain ⟨-, -, -, -, blocks⟩ := (compiles _ _ optionalBlocks absent unmarked).1.mp compiled
  exact ⟨absent, unmarked, compiled, blocks, (expands _).2 2 (by decide)⟩

end Compile

end BnfParsing
