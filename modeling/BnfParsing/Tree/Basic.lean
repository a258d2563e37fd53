import BnfParsing.Text.Basic

/-!
Contract: the trees that describe how a text follows from a rule.

Owns: the kinds of nodes, labels, the number of nodes, sameness, and the plain
outline of a tree.

Does not own: walks, queries and the other written forms.
-/

set_option autoImplicit false

namespace BnfParsing

/-- What a node stands for. -/
inductive NodeKind where
  /-- The expansion of a rule. -/
  | rule
  /-- Matched text, an empty production, or a reference taken literally. -/
  | leaf
  /-- The text of one group of a pattern. -/
  | capture
deriving DecidableEq, Repr

/-- The name of a kind in listings. -/
def NodeKind.label : NodeKind → Text
  | .rule => "Rule".toList
  | .leaf => "Leaf".toList
  | .capture => "Capture".toList

/-- A node with its subtrees. -/
inductive Tree where
  | node (kind : NodeKind) (token : Text) (value : Option Text) (children : List Tree)

namespace Tree

/-- The node for a rule, whose value repeats the name. -/
def ofRule (name : Text) (children : List Tree) : Tree :=
  .node .rule name (some name) children

/-- A leaf with the groups found in it. -/
def ofMatch (text : Text) (groups : List Text) : Tree :=
  .node .leaf text none (groups.map fun group => .node .capture group none [])

/-- A leaf without groups. -/
def leaf (text : Text) : Tree :=
  .node .leaf text none []

/-- What the node stands for. -/
def kind : Tree → NodeKind
  | .node kind _ _ _ => kind

/-- The name or the text of the node. -/
def token : Tree → Text
  | .node _ token _ _ => token

/-- The value of the node, if it has one. -/
def value : Tree → Option Text
  | .node _ _ value _ => value

/-- The subtrees from left to right. -/
def children : Tree → List Tree
  | .node _ _ _ children => children

/-- The value if there is one, else the token. -/
def label (tree : Tree) : Text :=
  tree.value.getD tree.token

/-- Whether the node has no subtrees. -/
def isLeaf (tree : Tree) : Bool :=
  tree.children.isEmpty

mutual

/-- The number of nodes. -/
def size : Tree → Nat
  | .node _ _ _ children => 1 + sizeAll children

/-- The number of nodes of several trees. -/
def sizeAll : List Tree → Nat
  | [] => 0
  | tree :: rest => tree.size + sizeAll rest

end

mutual

/-- Whether two trees agree in every kind, token and value. -/
def same : Tree → Tree → Bool
  | .node kind token value children, .node otherKind otherToken otherValue otherChildren =>
      kind == otherKind && token == otherToken && value == otherValue
        && sameAll children otherChildren

/-- Whether two lists of trees agree tree by tree. -/
def sameAll : List Tree → List Tree → Bool
  | [], [] => true
  | tree :: rest, other :: others => tree.same other && sameAll rest others
  | _, _ => false

end

mutual

/-- One line per node: its label, indented by one space per ancestor. -/
def outline (depth : Nat) : Tree → Text
  | .node _ token value children =>
      Text.spaces depth ++ value.getD token ++ ['\n'] ++ outlineAll (depth + 1) children

/-- The lines of several trees at one depth. -/
def outlineAll (depth : Nat) : List Tree → Text
  | [] => []
  | tree :: rest => tree.outline depth ++ outlineAll depth rest

end

/-- The outline of the whole tree. -/
def display (tree : Tree) : Text :=
  tree.outline 0

end Tree

end BnfParsing
