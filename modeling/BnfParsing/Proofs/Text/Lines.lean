import BnfParsing.Proofs.Text.Words

/-!
Contract: lines that are put together and taken apart again.

Owns: the lines of texts joined with newlines or ended by them, the characters of
joined texts, and texts that hold no line end.

Does not own: comments, or what lines mean.
-/

set_option autoImplicit false

namespace BnfParsing.Text

variable {line rest reversed : Text} {parts : List Text}

theorem linesFrom_append (noNewline : '\n' ∉ line) :
    linesFrom reversed (line ++ rest) = linesFrom (line.reverse ++ reversed) rest := by
  induction line generalizing reversed with
  | nil => rfl
  | cons character line inductionHypothesis =>
      rw [List.mem_cons, not_or] at noNewline
      have step : linesFrom reversed (character :: (line ++ rest)) =
          linesFrom (character :: reversed) (line ++ rest) := by
        rw [linesFrom]
        exact fun newline => noNewline.1 newline.symm
      rw [List.cons_append, step, inductionHypothesis noNewline.2, List.reverse_cons,
        List.append_assoc, List.singleton_append]

theorem withoutReturn_reverse (noReturn : line.getLast? ≠ some '\r') :
    withoutReturn line.reverse = line.reverse := by
  rw [← List.head?_reverse] at noReturn
  rw [withoutReturn]
  intro rest split
  simp [split] at noReturn

/-- A line of its own: it is not empty and holds no line end. -/
structure SingleLine (line : Text) : Prop where
  nonempty : line ≠ []
  noNewline : '\n' ∉ line
  noReturn : line.getLast? ≠ some '\r'

theorem lines_single (single : SingleLine line) : lines line = [line] := by
  have whole : linesFrom [] (line ++ []) = linesFrom (line.reverse ++ []) [] :=
    linesFrom_append single.noNewline
  rw [List.append_nil, List.append_nil] at whole
  rw [lines, whole, linesFrom]
  simp [single.nonempty]

theorem lines_append_newline (single : SingleLine line) (rest : Text) :
    lines (line ++ '\n' :: rest) = line :: lines rest := by
  rw [lines, linesFrom_append single.noNewline, List.append_nil, linesFrom,
    withoutReturn_reverse single.noReturn, List.reverse_reverse, lines]

/-- Lines joined with newlines are read as these lines. -/
theorem lines_join (single : ∀ part ∈ parts, SingleLine part) :
    lines (join ['\n'] parts) = parts := by
  induction parts with
  | nil => rfl
  | cons part others inductionHypothesis =>
      rw [List.forall_mem_cons] at single
      by_cases last : others = []
      · rw [last, join, lines_single single.1]
      · rw [join_cons last, List.append_assoc, List.singleton_append,
          lines_append_newline single.1, inductionHypothesis single.2]

/-- Every character of joined texts is one of theirs or of the separator. -/
theorem mem_join {separator : Text} {character : Char}
    (member : character ∈ join separator parts) :
    character ∈ separator ∨ ∃ part ∈ parts, character ∈ part := by
  induction parts with
  | nil => simp [join] at member
  | cons part others inductionHypothesis =>
      by_cases last : others = []
      · rw [last, join] at member
        exact .inr ⟨part, List.mem_cons_self, member⟩
      · rw [join_cons last, List.mem_append, List.mem_append] at member
        rcases member with (inPart | inSeparator) | inOthers
        · exact .inr ⟨part, List.mem_cons_self, inPart⟩
        · exact .inl inSeparator
        · refine (inductionHypothesis inOthers).imp id ?_
          rintro ⟨other, isOther, inOther⟩
          exact ⟨other, List.mem_cons_of_mem part isOther, inOther⟩

/-! ## Texts without a line end -/

/-- Neither a newline nor a carriage return is in the text. -/
def Unbroken (text : Text) : Prop :=
  ∀ character ∈ text, character ≠ '\n' ∧ character ≠ '\r'

-- characters are finitely many, so the instance is named to look at those of the text only
instance (text : Text) : Decidable (Unbroken text) :=
  List.decidableBAll (fun character => character ≠ '\n' ∧ character ≠ '\r') text

theorem unbroken_append {front back : Text} :
    Unbroken (front ++ back) ↔ Unbroken front ∧ Unbroken back :=
  List.forall_mem_append

theorem unbroken_spaces (count : Nat) : Unbroken (spaces count) := by
  intro character member
  rw [List.eq_of_mem_replicate member]
  decide

theorem Unbroken.singleLine {text : Text} (unbroken : Unbroken text) (nonempty : text ≠ []) :
    SingleLine text where
  nonempty := nonempty
  noNewline member := (unbroken _ member).1 rfl
  noReturn last := (unbroken _ (List.mem_of_getLast? last)).2 rfl

theorem lines_flatMap_newline {parts : List Text} (single : ∀ part ∈ parts, SingleLine part) :
    lines (parts.flatMap (· ++ ['\n'])) = parts := by
  induction parts with
  | nil => rfl
  | cons part others inductionHypothesis =>
      rw [List.forall_mem_cons] at single
      rw [List.flatMap_cons, List.append_assoc, List.singleton_append,
        lines_append_newline single.1, inductionHypothesis single.2]

theorem exists_digitChar_of_mem_toDigits {base number : Nat} {character : Char}
    (positive : 1 < base) (member : character ∈ Nat.toDigits base number) :
    ∃ digit, character = Nat.digitChar digit := by
  induction number using Nat.strong_induction_on with
  | h number inductionHypothesis =>
      rw [Nat.toDigits_eq_if positive] at member
      split at member
      · exact ⟨number, List.mem_singleton.mp member⟩
      · rcases List.mem_append.mp member with inFront | atEnd
        · apply inductionHypothesis (number / base) _ inFront
          exact Nat.div_lt_self (by omega) positive
        · exact ⟨_, List.mem_singleton.mp atEnd⟩

theorem unbroken_toDigits {base : Nat} (positive : 1 < base) (number : Nat) :
    Unbroken (Nat.toDigits base number) := by
  intro character member
  obtain ⟨digit, rfl⟩ := exists_digitChar_of_mem_toDigits positive member
  exact ⟨Nat.digitChar_ne _ (by decide), Nat.digitChar_ne _ (by decide)⟩

end BnfParsing.Text
