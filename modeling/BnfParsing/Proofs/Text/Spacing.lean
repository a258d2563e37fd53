import BnfParsing.Text.Basic

/-!
Contract: texts that are pieces with blanks around them.

Owns: the relation between pieces and a spaced-out text, how it behaves under
concatenation, and the blanks that trimming takes away.

Does not own: where the pieces come from.
-/

set_option autoImplicit false

namespace BnfParsing.Text

/-- The text is the pieces in order, with nothing but blanks in front of them,
between them and behind them. -/
inductive Spaced : List Text → Text → Prop where
  | blanks {blanks : Text} (allBlank : isAllBlank blanks) : Spaced [] blanks
  | piece {blanks piece following : Text} {pieces : List Text} (allBlank : isAllBlank blanks)
      (spaced : Spaced pieces following) :
      Spaced (piece :: pieces) (blanks ++ piece ++ following)

theorem isAllBlank_append {first second : Text} :
    isAllBlank (first ++ second) ↔ isAllBlank first ∧ isAllBlank second := by
  unfold isAllBlank
  rw [List.all_append, Bool.and_eq_true]

/-- Trimming takes away nothing but blanks. -/
theorem exists_blanks_append_trimStart (text : Text) :
    ∃ blanks, isAllBlank blanks ∧ text = blanks ++ trimStart text :=
  ⟨text.takeWhile isBlank, List.all_takeWhile, List.takeWhile_append_dropWhile.symm⟩

namespace Spaced

theorem nil : Spaced [] [] := .blanks rfl

/-- A piece without blanks around it. -/
theorem single (piece : Text) : Spaced [piece] piece := by
  have spaced : Spaced [piece] ([] ++ piece ++ []) := .piece rfl nil
  simpa using spaced

theorem blanks_append {blanks text : Text} {pieces : List Text} (allBlank : isAllBlank blanks)
    (spaced : Spaced pieces text) : Spaced pieces (blanks ++ text) := by
  cases spaced with
  | blanks otherBlank => exact .blanks (isAllBlank_append.mpr ⟨allBlank, otherBlank⟩)
  | @piece others piece following pieces otherBlank spaced =>
      have joined : isAllBlank (blanks ++ others) :=
        isAllBlank_append.mpr ⟨allBlank, otherBlank⟩
      rw [List.append_assoc others, ← List.append_assoc blanks, ← List.append_assoc]
      exact .piece joined spaced

theorem append {first second : Text} {pieces more : List Text} (left : Spaced pieces first)
    (right : Spaced more second) : Spaced (pieces ++ more) (first ++ second) := by
  induction left with
  | blanks allBlank => exact blanks_append allBlank right
  | piece allBlank spaced inductionHypothesis =>
      rw [List.append_assoc]
      exact .piece allBlank inductionHypothesis

/-- Pieces of nothing but blanks space out to nothing but blanks. -/
theorem isAllBlank {text : Text} {pieces : List Text} (spaced : Spaced pieces text)
    (blankPieces : ∀ piece ∈ pieces, Text.isAllBlank piece) : Text.isAllBlank text := by
  induction spaced with
  | blanks allBlank => exact allBlank
  | piece allBlank spaced inductionHypothesis =>
      rw [List.forall_mem_cons] at blankPieces
      rw [isAllBlank_append, isAllBlank_append]
      exact ⟨⟨allBlank, blankPieces.1⟩, inductionHypothesis blankPieces.2⟩

end Spaced

/-- The pieces account for the text up to `rest`, apart from blanks. -/
def Covers (pieces : List Text) (text rest : Text) : Prop :=
  ∃ front, text = front ++ rest ∧ Spaced pieces front

namespace Covers

theorem refl (text : Text) : Covers [] text text := ⟨[], rfl, .nil⟩

theorem trans {first second : List Text} {text middle rest : Text}
    (left : Covers first text middle) (right : Covers second middle rest) :
    Covers (first ++ second) text rest := by
  obtain ⟨front, rfl, spaced⟩ := left
  obtain ⟨back, rfl, spacedBack⟩ := right
  exact ⟨front ++ back, (List.append_assoc front back rest).symm, spaced.append spacedBack⟩

theorem of_trimStart {pieces : List Text} {text rest : Text}
    (covers : Covers pieces (trimStart text) rest) : Covers pieces text rest := by
  obtain ⟨front, trimmed, spaced⟩ := covers
  obtain ⟨blanks, allBlank, split⟩ := exists_blanks_append_trimStart text
  refine ⟨blanks ++ front, ?_, spaced.blanks_append allBlank⟩
  rw [List.append_assoc, ← trimmed]
  exact split

theorem suffix {pieces : List Text} {text rest : Text} (covers : Covers pieces text rest) :
    rest <:+ text := by
  obtain ⟨front, rfl, _⟩ := covers
  exact List.suffix_append front rest

/-- Pieces that account for all but blanks space out to the whole text. -/
theorem spaced {pieces : List Text} {text rest : Text} (covers : Covers pieces text rest)
    (allBlank : isAllBlank rest) : Spaced pieces text := by
  obtain ⟨front, rfl, spacedFront⟩ := covers
  simpa using spacedFront.append (.blanks allBlank)

end Covers

end BnfParsing.Text
