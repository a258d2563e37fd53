import BnfParsing.Proofs.Text.Lines
import Mathlib.Logic.Function.Iterate

/-!
Contract: what indenting the lines of a text does to the text.

Line by line two spaces are put in front and the line end is written again. Apart
from the first indentation and the last line end this changes the text at its line
ends only: two spaces come behind each, and a carriage return before it is lost.

Owns: hanging texts, indentation as a hanging text, and the texts that stay as they
are.

Does not own: what is indented.
-/

set_option autoImplicit false

namespace BnfParsing.Text

/-- The text with two spaces in front of every line but the first, and with plain
line ends. -/
def hang : Text → Text
  | [] => []
  | character :: rest =>
      if character = '\n' then "\n  ".toList ++ hang rest
      else if character = '\r' ∧ rest.head? = some '\n' then hang rest
      else character :: hang rest

/-- The lines of a text, each indented by two spaces. -/
def indented (text : Text) : Text :=
  (lines text).flatMap fun line => "  ".toList ++ line ++ ['\n']

variable {text front reversed : Text}

theorem hang_newline (rest : Text) : hang ('\n' :: rest) = "\n  ".toList ++ hang rest := rfl

/-- Characters that end no line stay, whatever follows. -/
theorem hang_append_of_plain (plain : '\n' ∉ front ∧ '\r' ∉ front) (back : Text) :
    hang (front ++ back) = front ++ hang back := by
  induction front with
  | nil => rfl
  | cons character rest inductionHypothesis =>
      simp only [List.mem_cons, not_or] at plain
      obtain ⟨⟨noNewline, laterNewline⟩, ⟨noReturn, laterReturn⟩⟩ := plain
      rw [List.cons_append, hang, if_neg (Ne.symm noNewline),
        if_neg fun both => noReturn both.1.symm, inductionHypothesis ⟨laterNewline, laterReturn⟩,
        List.cons_append]

theorem hang_of_no_newline (noNewline : '\n' ∉ text) : hang text = text := by
  induction text with
  | nil => rfl
  | cons character rest inductionHypothesis =>
      rw [List.mem_cons, not_or] at noNewline
      have noLineEnd : rest.head? ≠ some '\n' := fun starts =>
        noNewline.2 (List.mem_of_mem_head? starts)
      rw [hang, if_neg fun newline => noNewline.1 newline.symm,
        if_neg fun both => noLineEnd both.2, inductionHypothesis noNewline.2]

/-- Texts hang apart where no line end follows, which may end the first one's last
line with a carriage return. -/
theorem hang_append {back : Text} (noNewline : back.head? ≠ some '\n') :
    hang (front ++ back) = hang front ++ hang back := by
  induction front with
  | nil => rfl
  | cons character rest inductionHypothesis =>
      have lineEnd : (rest ++ back).head? = some '\n' ↔ rest.head? = some '\n' := by
        cases rest with
        | nil => simp [noNewline]
        | cons => simp
      rw [List.cons_append, hang, hang, inductionHypothesis]
      simp only [lineEnd]
      split
      · rw [List.append_assoc]
      · split <;> rfl

/-- Up to a line end a text stays as it is, except for a carriage return. -/
theorem hang_line (noNewline : '\n' ∉ reversed) (rest : Text) :
    hang (reversed.reverse ++ '\n' :: rest) =
      (withoutReturn reversed).reverse ++ "\n  ".toList ++ hang rest := by
  cases reversed with
  | nil => rfl
  | cons last earlier =>
      rw [List.mem_cons, not_or] at noNewline
      have plain : hang earlier.reverse = earlier.reverse :=
        hang_of_no_newline (by simpa using noNewline.2)
      have apart : (last :: '\n' :: rest).head? ≠ some '\n' := by
        simpa using fun newline => noNewline.1 newline.symm
      rw [List.reverse_cons, List.append_assoc, List.singleton_append, hang_append apart, plain,
        hang, if_neg fun newline => noNewline.1 newline.symm]
      by_cases returns : last = '\r'
      · subst returns
        rw [if_pos ⟨rfl, rfl⟩, hang_newline, List.append_assoc]
        rfl
      · rw [if_neg fun both => returns both.1, hang_newline, withoutReturn, List.reverse_cons]
        · simp
        · exact fun _ same => returns (List.cons.inj same).1

/-- The start of a line that is read already waits, reversed, for its end. -/
theorem flatMap_linesFrom (noNewline : '\n' ∉ reversed) (nonempty : reversed.reverse ++ text ≠ [])
    (unfinished : (reversed.reverse ++ text).getLast? ≠ some '\n') :
    ((linesFrom reversed text).flatMap fun line => "  ".toList ++ line ++ ['\n']) =
      "  ".toList ++ hang (reversed.reverse ++ text) ++ ['\n'] := by
  induction text generalizing reversed with
  | nil =>
      rw [List.append_nil] at nonempty
      rw [linesFrom, List.append_nil, hang_of_no_newline (by simpa using noNewline),
        if_neg (by simpa using nonempty), List.flatMap_singleton]
  | cons character rest inductionHypothesis =>
      by_cases newline : character = '\n'
      · subst newline
        -- the text does not end here, so another line starts
        have more : rest ≠ [] := by
          rintro rfl
          simp at unfinished
        rw [List.getLast?_append_cons, List.getLast?_cons_of_ne_nil more] at unfinished
        rw [linesFrom, List.flatMap_cons,
          inductionHypothesis List.not_mem_nil more unfinished, hang_line noNewline]
        simp
      · have step : linesFrom reversed (character :: rest) =
            linesFrom (character :: reversed) rest := by
          rw [linesFrom]
          exact newline
        have whole : reversed.reverse ++ character :: rest =
            (character :: reversed).reverse ++ rest := by
          rw [List.reverse_cons, List.append_assoc, List.singleton_append]
        rw [whole] at nonempty unfinished ⊢
        rw [step]
        refine inductionHypothesis ?_ nonempty unfinished
        rw [List.mem_cons, not_or]
        exact ⟨fun same => newline same.symm, noNewline⟩

/-- Indented lines are a hanging text on an indented first line. -/
theorem indented_eq (nonempty : text ≠ []) (unfinished : text.getLast? ≠ some '\n') :
    indented text = "  ".toList ++ hang text ++ ['\n'] := by
  unfold indented lines
  exact flatMap_linesFrom List.not_mem_nil nonempty unfinished

/-! ## Texts that stay as they are -/

theorem count_newline_hang (text : Text) : (hang text).count '\n' = text.count '\n' := by
  induction text with
  | nil => rfl
  | cons character rest inductionHypothesis =>
      rw [hang]
      split
      next newline =>
        subst newline
        rw [List.count_append, inductionHypothesis, List.count_cons_self]
        exact Nat.add_comm 1 _
      next noNewline =>
        rw [List.count_cons_of_ne noNewline]
        split
        · exact inductionHypothesis
        · rw [List.count_cons_of_ne noNewline, inductionHypothesis]

theorem count_space_hang (text : Text) :
    (hang text).count ' ' = text.count ' ' + 2 * text.count '\n' := by
  induction text with
  | nil => rfl
  | cons character rest inductionHypothesis =>
      rw [hang]
      split
      next newline =>
        subst newline
        rw [List.count_append, inductionHypothesis, List.count_cons_self,
          List.count_cons_of_ne (by decide)]
        have two : "\n  ".toList.count ' ' = 2 := rfl
        omega
      next noNewline =>
        rw [List.count_cons_of_ne noNewline]
        split
        next lost =>
          rw [inductionHypothesis, lost.1, List.count_cons_of_ne (by decide)]
        · rw [List.count_cons, List.count_cons, inductionHypothesis]
          omega

theorem count_space_iterate_hang (depth : Nat) (text : Text) :
    (hang^[depth] text).count ' ' = text.count ' ' + depth * (2 * text.count '\n') := by
  induction depth generalizing text with
  | zero => simp
  | succ depth inductionHypothesis =>
      rw [Function.iterate_succ_apply, inductionHypothesis, count_newline_hang, count_space_hang,
        Nat.add_mul]
      omega

/-- Indented at least once, a text stays as it is just in case it is one line. -/
theorem iterate_hang_eq_self_iff (depth : Nat) :
    hang^[depth] text = text ↔ depth = 0 ∨ '\n' ∉ text := by
  constructor
  · intro same
    have spaces := count_space_iterate_hang depth text
    rw [same, Nat.left_eq_add, Nat.mul_eq_zero] at spaces
    refine spaces.imp_right fun none => ?_
    exact List.count_eq_zero.mp (by omega)
  · rintro (rfl | oneLine)
    · rfl
    · exact Function.iterate_fixed (hang_of_no_newline oneLine) depth

end BnfParsing.Text
