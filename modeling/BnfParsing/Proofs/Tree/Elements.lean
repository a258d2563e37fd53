import BnfParsing.Proofs.Text.Hanging
import BnfParsing.Tree.Format

/-!
Contract: the elements that a writer gathers on a stack, written by recursion on the
tree.

The writer never sees a tree as a whole. It is told of nodes bottom-up and takes
as many finished elements from the stack as the node has children. What keeps this
right is that the walk of a subtree leaves the stack below alone and puts one
element on it.

Owns: the element of a tree, and the stack after a walk.

Does not own: how elements are read.
-/

set_option autoImplicit false

namespace BnfParsing.Markup

mutual

/-- The element of a node: its token if it has no children, else its label and the
indented elements of its children. -/
def element (names : ElementNames) : Tree → Text
  | .node _ token value children =>
      if children.isEmpty then
        ['<'] ++ names.token ++ ['>'] ++ escape token ++ ['<', '/'] ++ names.token ++ ['>']
      else
        ['<'] ++ names.top ++ ">\n  <name>".toList ++ escape (value.getD token)
          ++ "</name>\n".toList ++ indentedElements names children
          ++ ['<', '/'] ++ names.top ++ ['>']

/-- The indented elements of several trees. -/
def indentedElements (names : ElementNames) : List Tree → Text
  | [] => []
  | tree :: others => Text.indented (element names tree) ++ indentedElements names others

end

variable {names : ElementNames}

theorem indentedElements_eq_flatMap (trees : List Tree) :
    indentedElements names trees =
      (trees.map (element names)).flatMap fun child =>
        (Text.lines child).flatMap fun line => "  ".toList ++ line ++ ['\n'] := by
  induction trees with
  | nil => rfl
  | cons tree others inductionHypothesis =>
      unfold indentedElements
      rw [inductionHypothesis, List.map_cons, List.flatMap_cons]
      rfl

theorem element_of_leaf (kind : NodeKind) (token : Text) (value : Option Text) :
    element names (.node kind token value []) = tokenElement names token := by
  unfold element tokenElement opening closing
  simp only [List.isEmpty_nil, if_true, List.append_assoc]

theorem element_of_children (kind : NodeKind) (token : Text) (value : Option Text)
    {children : List Tree} (nonempty : children ≠ []) :
    element names (.node kind token value children) =
      topElement names (value.getD token) (children.map (element names)) := by
  unfold element topElement opening closing
  rw [if_neg (by simpa using nonempty), indentedElements_eq_flatMap]
  simp only [List.append_assoc]
  rfl

/-- An element ends with a tag. -/
theorem exists_element_eq (tree : Tree) : ∃ front, element names tree = front ++ ['>'] := by
  cases tree
  unfold element
  split
  · exact ⟨_, rfl⟩
  · exact ⟨_, rfl⟩

/-- An indented element is a hanging text on an indented first line. -/
theorem indented_element (tree : Tree) :
    Text.indented (element names tree) =
      "  ".toList ++ Text.hang (element names tree) ++ ['\n'] := by
  obtain ⟨front, ends⟩ : ∃ front, element names tree = front ++ ['>'] := exists_element_eq tree
  refine Text.indented_eq ?_ ?_
  · rw [ends]
    simp
  · rw [ends, List.getLast?_concat]
    decide

/-- With the elements of its children on top of the stack, visiting a node replaces
them with its own. -/
theorem visit_elements (kind : NodeKind) (token : Text) (value : Option Text)
    (children : List Tree) (fragments : List Text) :
    visit names (.node kind token value children)
        ((children.map (element names)).reverse ++ fragments) =
      element names (.node kind token value children) :: fragments := by
  have count : (children.map (element names)).reverse.length = children.length := by
    rw [List.length_reverse, List.length_map]
  have taken : (((children.map (element names)).reverse ++ fragments).take
      children.length).reverse = children.map (element names) := by
    rw [List.take_left' count, List.reverse_reverse]
  have left : ((children.map (element names)).reverse ++ fragments).drop children.length =
      fragments :=
    List.drop_left' count
  unfold visit
  simp only [Tree.children, taken, left]
  by_cases leaf : children = []
  · rw [leaf, element_of_leaf]
    rfl
  · rw [if_neg (by simpa using leaf), element_of_children kind token value leaf]
    rfl

mutual

theorem postfixWalk_writer : ∀ (tree : Tree) (fragments : List Text),
    tree.postfixWalk (writer names).visitor fragments = (element names tree :: fragments, none)
  | .node kind token value children, fragments => by
      unfold Tree.postfixWalk
      rw [postfixWalkAll_writer children fragments]
      show (visit names _ _, none) = _
      rw [visit_elements]

/-- The walks of several trees put their elements on the stack one by one. -/
theorem postfixWalkAll_writer : ∀ (trees : List Tree) (fragments : List Text),
    Tree.postfixWalkAll (writer names).visitor trees fragments =
      ((trees.map (element names)).reverse ++ fragments, none)
  | [], fragments => rfl
  | tree :: others, fragments => by
      unfold Tree.postfixWalkAll
      rw [postfixWalk_writer tree fragments, List.map_cons, List.reverse_cons, List.append_assoc]
      exact postfixWalkAll_writer others (element names tree :: fragments)

end

theorem walk_writer (tree : Tree) (fragments : List Text) :
    tree.walk (writer names).traversal (writer names).visitor fragments =
      (element names tree :: fragments, none) :=
  postfixWalk_writer tree fragments

/-- What stands in front of the element of a tree. -/
def declaration : Text :=
  "<?xml version=\"1.0\" encoding=\"UTF-8\"?>\n".toList

theorem render_xml_eq (tree : Tree) :
    Format.xml.render tree = declaration ++ element {} tree ++ ['\n'] := by
  have walked : (writer {}).after [] tree = [element {} tree] := by
    unfold Writer.after
    rw [walk_writer]
  show (writer {}).text ((writer {}).after [] tree) = _
  rw [walked]
  show _ ++ (element {} tree ++ ['\n'] ++ []) = _
  rw [List.append_nil, List.append_assoc]
  rfl

/-- The walk of a tree leaves the elements below alone and puts one on them, the
element of the tree; so a tree is rendered as the declaration and one element. -/
theorem walk_pushes_element (names : ElementNames) (tree : Tree) (fragments : List Text) :
    tree.walk (writer names).traversal (writer names).visitor fragments =
        (element names tree :: fragments, none) ∧
      Format.xml.render tree =
        "<?xml version=\"1.0\" encoding=\"UTF-8\"?>\n".toList ++ element {} tree ++ ['\n'] :=
  ⟨walk_writer tree fragments, render_xml_eq tree⟩

end BnfParsing.Markup
