import BnfParsing.Tree.Writer

/-!
Contract: trees as nested XML elements.

A childless node is a "token" element with its token; any other node is a "top"
element with its label under `<name>` and the elements of its children.

Owns: the escapes of texts, the layout by indentation, and the gathering of
finished elements on a stack.

Does not own: the choice of element names.
-/

set_option autoImplicit false

namespace BnfParsing.Markup

/-- A character of a text between tags. -/
def escapeChar : Char → Text
  | '&' => "&amp;".toList
  | '<' => "&lt;".toList
  | '>' => "&gt;".toList
  | '"' => "&quot;".toList
  | '\'' => "&apos;".toList
  | character => [character]

/-- A text between tags. -/
def escape (text : Text) : Text :=
  text.flatMap escapeChar

/-- The names of the two kinds of elements. -/
structure ElementNames where
  top : Text := "node".toList
  token : Text := "token".toList
deriving DecidableEq, Repr

/-- The tag that opens an element. -/
def opening (name : Text) : Text :=
  ['<'] ++ name ++ ['>']

/-- The tag that closes an element. -/
def closing (name : Text) : Text :=
  ['<', '/'] ++ name ++ ['>']

/-- The element of a childless node. -/
def tokenElement (names : ElementNames) (token : Text) : Text :=
  opening names.token ++ escape token ++ closing names.token

/-- The element of a node with children, each line of which is indented. -/
def topElement (names : ElementNames) (label : Text) (children : List Text) : Text :=
  opening names.top ++ "\n  <name>".toList ++ escape label ++ "</name>\n".toList
    ++ (children.flatMap fun child =>
      (Text.lines child).flatMap fun line => "  ".toList ++ line ++ ['\n'])
    ++ closing names.top

/-- Takes as many finished elements as the node has children, the latest first,
and finishes the element of the node. -/
def visit (names : ElementNames) (tree : Tree) (fragments : List Text) : List Text :=
  let count := tree.children.length
  let children := (fragments.take count).reverse
  let element :=
    if children.isEmpty then tokenElement names tree.token
    else topElement names tree.label children
  element :: fragments.drop count

/-- Gathers finished elements, the latest first. -/
def writer (names : ElementNames) : Writer (List Text) where
  traversal := .postfixOrder
  visitor := { visit := fun tree fragments => (visit names tree fragments, none), pop := id }
  text fragments :=
    "<?xml version=\"1.0\" encoding=\"UTF-8\"?>\n".toList
      ++ fragments.reverse.flatMap (· ++ ['\n'])

end BnfParsing.Markup
