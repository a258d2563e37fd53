import BnfParsing.Derivation.Parser
import BnfParsing.Proofs.Regex.Exhaustion

/-!
Contract: the groups of a pattern in the text that it consumes.

The groups are found by a second search, in the consumed text alone. The way of the
first search is open to the second one as well, unless a condition holds at the end
of the consumed text only because of the character that follows there.

Owns:
- the conditions of an expression, and that a program checks no other ones;
- the conditions that a word behind the position can make true;
- the steps of a way in a text that is cut off at its end;
- how many groups are reported for a match.

Does not own: the texts of the groups.
-/

set_option autoImplicit false

namespace BnfParsing

namespace Regex

variable {condition : Assertion} {before after : Option Char}

/-- The words that can make the condition true by starting or going on behind the
position. -/
def Assertion.wordBehind? : Assertion → Option Bool
  | .word .boundary asciiOnly => some asciiOnly
  | .word .noBoundary asciiOnly => some asciiOnly
  | .word .start asciiOnly => some asciiOnly
  | _ => none

/-- No word behind the position makes the condition true. -/
def Assertion.Settled (after : Option Char) (condition : Assertion) : Prop :=
  ∀ asciiOnly, condition.wordBehind? = some asciiOnly →
    after.any (isWordChar asciiOnly) = false

/-- What holds in front of some character holds at the end of the text, unless it
takes a word. -/
theorem Assertion.Settled.holds_none (settled : condition.Settled after)
    (holds : condition.holds before after = true) : condition.holds before none = true := by
  cases condition with
  | textStart => exact holds
  | lineStart => exact holds
  | textEnd => rfl
  | lineEnd => rfl
  | anyLineEnd => rfl
  | anyLineStart =>
      simp only [Assertion.holds, Bool.or_eq_true, Bool.and_eq_true] at holds ⊢
      exact holds.imp_right fun behindReturn => ⟨behindReturn.1, rfl⟩
  | word edge asciiOnly =>
      cases edge with
      | boundary =>
          simp only [Assertion.holds, settled asciiOnly rfl] at holds
          exact holds
      | noBoundary =>
          simp only [Assertion.holds, settled asciiOnly rfl] at holds
          exact holds
      | start => simp [Assertion.holds, settled asciiOnly rfl] at holds
      | stop =>
          simp only [Assertion.holds, Bool.and_eq_true] at holds
          simp [Assertion.holds, holds.1]
      | startHalf => exact holds
      | stopHalf => rfl

/-! ## The conditions of a program -/

/-- The conditions that occur in the expression. -/
def Expression.assertions : Expression → List Assertion
  | .empty => []
  | .oneOf _ => []
  | .assertion condition => [condition]
  | .group _ inner => inner.assertions
  | .sequence first second => first.assertions ++ second.assertions
  | .choice first second => first.assertions ++ second.assertions
  | .repetition inner _ _ _ => inner.assertions

/-- The condition that an instruction checks, if it checks one. -/
def Instruction.condition? : Instruction → Option Assertion
  | .assertion condition _ => some condition
  | _ => none

namespace Program

variable {allowed : Assertion → Prop} {program : Program} {next : Entry}
variable {instruction : Instruction}

/-- The program checks allowed conditions only. -/
def Checks (allowed : Assertion → Prop) (program : Program) : Prop :=
  ∀ instruction ∈ program, ∀ condition ∈ instruction.condition?, allowed condition

theorem Checks.push (checks : Checks allowed program)
    (isAllowed : ∀ condition ∈ instruction.condition?, allowed condition) :
    Checks allowed (program.push instruction) := by
  intro other member
  rcases Array.mem_push.mp member with old | rfl
  · exact checks other old
  · exact isAllowed

theorem Checks.push_of_none (checks : Checks allowed program)
    (unconditional : instruction.condition? = none) :
    Checks allowed (program.push instruction) :=
  checks.push (by simp [unconditional])

theorem Checks.setIfInBounds_of_none (checks : Checks allowed program)
    (unconditional : instruction.condition? = none) (address : Nat) :
    Checks allowed (program.setIfInBounds address instruction) := by
  intro other member
  rcases Array.mem_or_eq_of_mem_setIfInBounds member with old | rfl
  · exact checks other old
  · simp [unconditional]

theorem checks_repeat {change : Entry → Entry}
    (kept : ∀ entry, Checks allowed entry.program → Checks allowed (change entry).program)
    (count : Nat) (checks : Checks allowed next.program) :
    Checks allowed (Nat.repeat change count next).program := by
  induction count with
  | zero => exact checks
  | succ count inductionHypothesis => exact kept _ inductionHypothesis

theorem condition?_fork (greedy : Bool) (inside outside : Nat) :
    (fork greedy inside outside).condition? = none := by
  cases greedy <;> rfl

/-- The instructions for an expression check no conditions but its own. -/
theorem checks_precede {expression : Expression}
    (own : ∀ condition ∈ expression.assertions, allowed condition)
    (checks : Checks allowed next.program) : Checks allowed (precede expression next).program := by
  induction expression generalizing next with
  | empty => exact checks
  | oneOf set => exact checks.push_of_none rfl
  | assertion condition =>
      refine checks.push ?_
      rintro _ ⟨⟩
      exact own condition (List.mem_singleton_self condition)
  | group index inner inductionHypothesis =>
      exact (inductionHypothesis own (checks.push_of_none rfl)).push_of_none rfl
  | sequence first second firstHypothesis secondHypothesis =>
      simp only [Expression.assertions, List.forall_mem_append] at own
      exact firstHypothesis own.1 (secondHypothesis own.2 checks)
  | choice first second firstHypothesis secondHypothesis =>
      simp only [Expression.assertions, List.forall_mem_append] at own
      have preferred : Checks allowed
          (precede first ⟨next.address, (precede second next).program⟩).program :=
        firstHypothesis own.1 (secondHypothesis own.2 checks)
      exact preferred.push_of_none rfl
  | repetition inner least most greedy inductionHypothesis =>
      have copies (count : Nat) {entry : Entry} (checks : Checks allowed entry.program) :
          Checks allowed (Nat.repeat (fun entry => precede inner entry) count entry).program :=
        checks_repeat (fun _ entryChecks => inductionHypothesis own entryChecks) count checks
      cases most with
      | none =>
          have copy : Checks allowed
              (precede inner ⟨next.program.size, next.program.push .accept⟩).program :=
            inductionHypothesis own (checks.push_of_none rfl)
          have looped (inside : Nat) := copy.setIfInBounds_of_none
            (condition?_fork greedy inside next.address) next.program.size
          by_cases mayBeEmpty : least = 0
          · subst mayBeEmpty
            exact (looped _).push_of_none (condition?_fork greedy _ _)
          · simp only [precede, if_neg mayBeEmpty]
            exact copies (least - 1) (looped _)
      | some most =>
          refine copies least (checks_repeat ?_ (most - least) checks)
          intro entry entryChecks
          exact (inductionHypothesis own entryChecks).push_of_none (condition?_fork greedy _ _)

theorem checks_ofExpression (expression : Expression) :
    Checks (· ∈ expression.assertions) (ofExpression expression).program := by
  refine checks_precede (fun _ member => member) ?_
  intro instruction member
  obtain rfl := List.mem_singleton.mp (Array.mem_toList_iff.mpr member)
  simp [Instruction.condition?]

end Program

/-! ## Ways in a text that is cut off -/

namespace Search

variable {program : Program} {text : Text} {place next : Place} {stop : Nat}

theorem getElem?_take_of_lt {position : Nat} (inside : position < stop) :
    (text.take stop).toArray[position]? = text.toArray[position]? := by
  rw [List.getElem?_toArray, List.getElem?_toArray, List.getElem?_take_of_lt inside]

theorem before?_take {position : Nat} (inside : position ≤ stop) :
    before? (text.take stop).toArray position = before? text.toArray position := by
  unfold before?
  split
  · rfl
  · exact getElem?_take_of_lt (by omega)

/-- A step up to the cut is a step of the text in front of it. -/
theorem Step.take
    (settled : Program.Checks (fun condition => condition.Settled text[stop]?) program)
    (step : Step program text.toArray place next) (inside : next.position ≤ stop) :
    Step program (text.take stop).toArray place next := by
  cases step with
  | oneOf instruction read inSet =>
      exact .oneOf instruction ((getElem?_take_of_lt inside).trans read) inSet
  | preferred instruction => exact .preferred instruction
  | other instruction => exact .other instruction
  | mark instruction => exact .mark instruction
  | @assertion address position target condition instruction holds =>
      refine .assertion instruction ?_
      rw [before?_take inside]
      rcases Nat.lt_or_eq_of_le inside with before | rfl
      · rw [getElem?_take_of_lt before]
        exact holds
      · have isSettled : condition.Settled text[position]? :=
          settled _ (Array.mem_of_getElem? instruction) condition rfl
        have ending : (text.take position).toArray[position]? = none := by
          rw [List.getElem?_toArray, List.getElem?_eq_none (List.length_take_le position text)]
        rw [List.getElem?_toArray] at holds
        rw [ending]
        exact isSettled.holds_none holds

theorem Accepts.take
    (settled : Program.Checks (fun condition => condition.Settled text[stop]?) program)
    (accepts : Accepts program text.toArray place stop) :
    Accepts program (text.take stop).toArray place stop := by
  obtain ⟨address, steps, accept⟩ := accepts
  refine ⟨address, ?_, accept⟩
  induction steps using Relation.ReflTransGen.head_induction_on with
  | refl => exact .refl
  | head step steps inductionHypothesis =>
      exact .head (step.take settled (position_le_of_steps steps)) inductionHypothesis

end Search

variable {regex : Regex} {text : Text}

/-- A settled match is a match of the text that it consumes as well. -/
theorem Matches.take {start stop : Nat}
    (settled : ∀ condition ∈ regex.expression.assertions, condition.Settled text[stop]?)
    (isMatch : regex.Matches text start stop) : regex.Matches (text.take stop) start stop := by
  obtain ⟨inside, accepts⟩ := isMatch
  have checks : Program.Checks (fun condition => condition.Settled text[stop]?)
      regex.entry.program := by
    rw [← regex.entry_eq]
    exact fun instruction member condition checked =>
      settled condition (Program.checks_ofExpression _ instruction member condition checked)
  refine ⟨?_, accepts.take checks⟩
  have ahead : start ≤ stop := by
    obtain ⟨address, steps, _⟩ := accepts
    exact Search.position_le_of_steps steps
  rw [List.length_take]
  omega

/-- Every group has a text once the pattern is found, and none has one otherwise. -/
theorem length_groupTexts (regex : Regex) (text : Text) :
    (regex.groupTexts text).length =
      if (regex.find? text).isSome then regex.groupCount else 0 := by
  rw [groupTexts]
  cases isMatch : regex.find? text with
  | none => rfl
  | some found =>
      have groups_length : found.groups.length = regex.groupCount := by
        unfold Regex.find? Search.find? at isMatch
        obtain ⟨scanned, _, rfl⟩ := Option.map_eq_some_iff.mp isMatch
        simp
      simp [groups_length]

end Regex

theorem Symbol.matchPrefix_pattern_eq_matched {regex : Regex} {text : Text} {length : Nat} :
    (Symbol.pattern regex).matchPrefix text = .matched length ↔
      ∃ found, regex.find? text = some found ∧ found.stop = length := by
  rw [matchPrefix]
  cases regex.find? text with
  | none => simp
  | some found => simp

/-- A leaf for the text that a pattern consumes has a child for each group if the
pattern is found in this text alone, and no child otherwise. It is found there
unless the pattern looks for a word that starts or goes on behind the consumed
text. -/
theorem Parser.child_per_group {regex : Regex} {text : Text} {length : Nat}
    (isMatch : (Symbol.pattern regex).matchPrefix text = .matched length)
    (positive : 0 < length) :
    ∃ leaf, consume? (.pattern regex) text = some (leaf, text.drop length) ∧
      leaf.children.length = ((Symbol.pattern regex).groupTexts (text.take length)).length ∧
      (leaf.children.length = regex.groupCount ↔
        regex.groupCount = 0 ∨ ∃ start stop, regex.Matches (text.take length) start stop) ∧
      (leaf.children.length ≠ regex.groupCount → leaf.children = []) ∧
      ((∀ condition ∈ regex.expression.assertions, condition.Settled text[length]?) →
        leaf.children.length = regex.groupCount) := by
  obtain ⟨found, isFound, rfl⟩ := Symbol.matchPrefix_pattern_eq_matched.mp isMatch
  have consumes : consume? (.pattern regex) text =
      some (Tree.ofMatch (text.take found.stop) (regex.groupTexts (text.take found.stop)),
        text.drop found.stop) := by
    simp only [consume?, isMatch, PrefixMatch.consumed, if_pos positive]
    rfl
  have count := regex.length_groupTexts (text.take found.stop)
  have children_length : (Tree.ofMatch (text.take found.stop)
      (regex.groupTexts (text.take found.stop))).children.length =
      (regex.groupTexts (text.take found.stop)).length := by
    simp [Tree.ofMatch, Tree.children]
  refine ⟨_, consumes, children_length, ?_, ?_, ?_⟩
  · rw [children_length, count, ← Regex.find?_isSome_iff]
    split
    case isTrue again => simp [again]
    case isFalse lost => simp [lost, eq_comm]
  · intro lost
    rw [children_length, count] at lost
    have nothing : ¬ (regex.find? (text.take found.stop)).isSome :=
      fun again => lost (if_pos again)
    rw [if_neg nothing] at count
    exact List.eq_nil_of_length_eq_zero (children_length.trans count)
  · intro settled
    have again : (regex.find? (text.take found.stop)).isSome :=
      Regex.find?_isSome_iff.mpr ⟨_, _, (Regex.matches_of_find? isFound).take settled⟩
    rw [children_length, count, if_pos again]

/-- The letter `a` and perhaps the letter `b` at the end of a word, with a group for
each letter. -/
def Regex.endingLetters : Regex where
  pattern := "(a)(b)?\\b".toList
  expression :=
    .sequence
      (.sequence (.group 1 (.oneOf ⟨[97, 98]⟩))
        (.repetition (.group 2 (.oneOf ⟨[98, 99]⟩)) 0 (some 1) true))
      (.assertion (.word .boundary false))
  entry := _
  expression_eq := rfl
  entry_eq := rfl

/-- In front of a space the two groups have a child each, although the second one
took no part in the match. -/
theorem Parser.endingLetters_child_per_group :
    Regex.ofPattern? "(a)(b)?\\b".toList = some Regex.endingLetters ∧
      (Symbol.pattern Regex.endingLetters).matchPrefix "a c".toList = .matched 1 ∧
      (∀ condition ∈ Regex.endingLetters.expression.assertions,
        condition.Settled ("a c".toList)[1]?) ∧
      ∃ leaf, consume? (.pattern Regex.endingLetters) "a c".toList = some (leaf, " c".toList) ∧
        leaf.children.length = 2 := by
  have isMatch : (Symbol.pattern Regex.endingLetters).matchPrefix "a c".toList = .matched 1 := by
    decide +kernel
  have onlyEdge : Regex.endingLetters.expression.assertions = [.word .boundary false] := rfl
  have settled : ∀ condition ∈ Regex.endingLetters.expression.assertions,
      condition.Settled ("a c".toList)[1]? := by
    rw [onlyEdge, List.forall_mem_singleton]
    rintro asciiOnly ⟨⟩
    decide +kernel
  have twoGroups : Regex.endingLetters.groupCount = 2 := rfl
  obtain ⟨leaf, consumes, -, -, -, all⟩ := child_per_group isMatch (by decide)
  rw [twoGroups] at all
  exact ⟨rfl, isMatch, settled, leaf, consumes, all settled⟩

/-- The letter `a` inside a word. -/
def Regex.innerLetter : Regex where
  pattern := "(a)\\B".toList
  expression := .sequence (.group 1 (.oneOf ⟨[97, 98]⟩)) (.assertion (.word .noBoundary false))
  entry := _
  expression_eq := rfl
  entry_eq := rfl

/-- The word goes on behind the consumed letter but ends with it once the letter is
searched alone, so that the group is not found again. -/
theorem Parser.innerLetter_loses_group :
    ¬ ∀ (pattern : Text) (regex : Regex) (text : Text) (length : Nat),
      Regex.ofPattern? pattern = some regex →
      (Symbol.pattern regex).matchPrefix text = .matched length → 0 < length →
        ((Symbol.pattern regex).groupTexts (text.take length)).length = regex.groupCount := by
  intro everyGroup
  have isMatch : (Symbol.pattern Regex.innerLetter).matchPrefix "ab".toList = .matched 1 := by
    decide +kernel
  have lost : (Symbol.pattern Regex.innerLetter).groupTexts "a".toList = [] := by
    decide +kernel
  have ofPattern : Regex.ofPattern? "(a)\\B".toList = some Regex.innerLetter := rfl
  have counted := everyGroup _ Regex.innerLetter "ab".toList 1 ofPattern isMatch (by decide)
  have oneGroup : Regex.innerLetter.groupCount = 1 := rfl
  have consumed : ("ab".toList).take 1 = "a".toList := rfl
  rw [consumed, lost, oneGroup] at counted
  contradiction

end BnfParsing
