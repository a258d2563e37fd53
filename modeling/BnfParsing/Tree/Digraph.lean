import BnfParsing.Tree.Writer

/-!
Contract: trees as directed graphs in the DOT language.

Owns: the statements for nodes and edges, the numbering of nodes, the style of
each kind, and the escapes of labels.

Does not own: the layout of the graph.
-/

set_option autoImplicit false

namespace BnfParsing.Digraph

/-- A statement about one node, or about one edge. -/
inductive Statement where
  | node (id : Nat) (kind : NodeKind) (label : Text)
  | edge (parent child : Nat)
deriving DecidableEq, Repr

/-- The colour of text, the colour behind it, and the shape for a kind. -/
def style : NodeKind → Text × Text × Text
  | .rule => ("white".toList, "blue".toList, "oval".toList)
  | .leaf => ("black".toList, "white".toList, "rect".toList)
  | .capture => ("black".toList, "lightgrey".toList, "note".toList)

/-- A label inside quotes: backslashes are doubled, quotes become entities. -/
def escape (label : Text) : Text :=
  Text.replaceChar '"' "&quot;".toList (Text.replaceChar '\\' ['\\', '\\'] label)

/-- The statement as a line. -/
def Statement.text : Statement → Text
  | .node id kind label =>
      let (fontColor, fillColor, shape) := style kind
      "  ".toList ++ Text.ofNat id ++ " [fontcolor=\"".toList ++ fontColor
        ++ "\",style=\"filled\",fillcolor=\"".toList ++ fillColor
        ++ "\",shape=\"".toList ++ shape
        ++ "\",label=\"".toList ++ escape label ++ "\"];\n".toList
  | .edge parent child =>
      "  ".toList ++ Text.ofNat parent ++ " -> ".toList ++ Text.ofNat child
        ++ ";\n".toList

/-- The statements so far, the latest first, the numbers of the open ancestors,
the nearest first, and the number of nodes. -/
structure State where
  statements : List Statement := []
  ancestors : List Nat := []
  nodeCount : Nat := 0
deriving DecidableEq, Repr

/-- The edge from the nearest ancestor to a node. -/
private def edges (ancestors : List Nat) (child : Nat) : List Statement :=
  match ancestors with
  | [] => []
  | parent :: _ => [.edge parent child]

/-- Writes each node, and the edge to it right after it. -/
def writer : Writer State where
  traversal := .prefixOrder
  visitor :=
    { visit := fun tree state =>
        let id := state.nodeCount
        ({ statements :=
             edges state.ancestors id ++ .node id tree.kind tree.label :: state.statements
           ancestors := id :: state.ancestors
           nodeCount := id + 1 }, none)
      pop := fun state => { state with ancestors := state.ancestors.tail } }
  text state :=
    "# File auto-generated by bnf-interp\n\ndigraph G \x7b\n".toList
      ++ (state.statements.reverse.flatMap Statement.text) ++ "\x7d\n".toList

end BnfParsing.Digraph
