import BnfParsing.Proofs.Derivation.Step
import BnfParsing.Proofs.Text.Spacing
import BnfParsing.Proofs.Tree.Nodes

/-!
Contract: a derivation accounts for all the text it passes.

Owns: the invariant that the leaves built so far, with blanks around them, are
the text in front of the cursor; and from it that a cursor only ever moves
towards the end of the text.

Does not own: whether the tree follows the rules of the grammar.
-/

set_option autoImplicit false

namespace BnfParsing.Parser

variable {parser : Parser} {nested : Rule → Text → Traced (Option (Tree × Text))}
variable {depth : Nat} {alternative : Alternative}

/-- Every tree accounts for the text between its two cursors. -/
def AllCover (nested : Rule → Text → Traced (Option (Tree × Text))) : Prop :=
  ∀ rule cursor child rest, (nested rule cursor).result = .ok (some (child, rest)) →
    Text.Covers child.leafTexts cursor rest

theorem Reads.covers (nestedCovers : AllCover nested) {cursor rest : Text}
    {symbol : Symbol} {child : Tree} (reads : parser.Reads nested cursor symbol child rest) :
    Text.Covers child.leafTexts cursor rest := by
  cases reads with
  | @marker name _ allowed holds =>
      rw [Tree.leafTexts_leaf]
      exact ⟨name, holds, .single name⟩
  | nested defined derived => exact nestedCovers _ cursor child rest derived
  | @text _ length consumes =>
      rw [Tree.leafTexts_ofMatch]
      exact ⟨cursor.take length, (List.take_append_drop length cursor).symm,
        .single (cursor.take length)⟩

theorem matchSymbols_covers (nestedCovers : AllCover nested) {symbols : List Symbol}
    {text : Text} {matched : Matched}
    (found : (parser.matchSymbols nested depth alternative symbols text).result =
      .ok (some matched)) :
    Text.Covers (Tree.leafTextsAll matched.children) text matched.rest := by
  induction symbols generalizing text matched with
  | nil =>
      simp only [matchSymbols_nil, Except.ok.injEq, Option.some.injEq] at found
      subst found
      exact .refl text
  | cons symbol symbols inductionHypothesis =>
      rcases matchSymbols_cons_eq_some found with
        ⟨-, rfl⟩ | ⟨child, rest, others, reads, othersFound, rfl⟩
      · -- the empty leaf stands behind the blanks that were skipped
        have empty : Text.Covers [[]] (Text.trimStart text) (Text.trimStart text) :=
          ⟨[], rfl, .single []⟩
        exact empty.of_trimStart
      · exact ((reads.covers nestedCovers).trans (inductionHypothesis othersFound)).of_trimStart

theorem derive_allCover (levels : Nat) : AllCover (derive parser levels depth) := by
  induction levels generalizing depth with
  | zero =>
      intro rule cursor child rest derived
      simp [derive_zero] at derived
  | succ levels inductionHypothesis =>
      intro rule cursor child rest derived
      obtain ⟨lower, chosen, matched, same, chooses, rfl, rfl⟩ := derive_eq_some derived
      obtain rfl : levels = lower := by omega
      rw [Tree.leafTexts_ofRule]
      exact matchSymbols_covers inductionHypothesis chooses.matches_input

theorem matchSymbols_suffix {levels : Nat} {symbols : List Symbol} {text : Text}
    {matched : Matched}
    (found : (parser.matchSymbols (derive parser levels (depth + 1)) depth alternative symbols
      text).result = .ok (some matched)) :
    matched.rest <:+ text :=
  (matchSymbols_covers (derive_allCover levels) found).suffix

/-- At the outermost level the leaves space out to the whole text. -/
theorem derive_spaced {levels : Nat} {rule : Rule} {input rest : Text} {tree : Tree}
    (derived : (derive parser levels 0 rule input).result = .ok (some (tree, rest))) :
    Text.Spaced tree.leafTexts input := by
  have covers := derive_allCover levels rule input tree rest derived
  obtain ⟨lower, chosen, matched, rfl, chooses, rfl, rfl⟩ := derive_eq_some derived
  exact covers.spaced (chooses.complete rfl)

end BnfParsing.Parser
