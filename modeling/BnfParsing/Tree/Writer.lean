import BnfParsing.Tree.Walk

/-!
Contract: visitors whose state is a text in the making.

Owns: the interface of such visitors, and the writer of plain outlines.

Does not own: the other written forms.
-/

set_option autoImplicit false

namespace BnfParsing

universe u

/-- A visitor that never stops a walk and whose state can be read as a text. -/
structure Writer (σ : Type u) where
  traversal : Traversal
  visitor : Visitor σ Empty
  text : σ → Text

/-- The state after walking the tree in the order the writer wants. -/
def Writer.after {σ : Type u} (writer : Writer σ) (state : σ) (tree : Tree) : σ :=
  (tree.walk writer.traversal writer.visitor state).1

/-- The text after walking the tree from a state. -/
def Writer.render {σ : Type u} (writer : Writer σ) (state : σ) (tree : Tree) : Text :=
  writer.text (writer.after state tree)

/-- The lines of an outline, the latest first, and the current depth. -/
structure Outline where
  lines : List Text := []
  depth : Nat := 0
deriving DecidableEq, Repr

/-- Writes the label of each node on a line, indented by one space per ancestor. -/
def outlineWriter : Writer Outline where
  traversal := .prefixOrder
  visitor :=
    { visit := fun tree outline =>
        (⟨(Text.spaces outline.depth ++ tree.label ++ ['\n']) :: outline.lines,
          outline.depth + 1⟩, none)
      pop := fun outline => { outline with depth := outline.depth - 1 } }
  text outline := outline.lines.reverse.flatten

end BnfParsing
