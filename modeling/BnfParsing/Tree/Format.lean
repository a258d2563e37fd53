import BnfParsing.Tree.Digraph
import BnfParsing.Tree.Markup

/-!
Contract: the written forms of a tree under their names.

Owns: the names, which are read without regard to ASCII case, and the choice of
writer.

Does not own: the forms themselves.
-/

set_option autoImplicit false

namespace BnfParsing

/-- A written form of a tree. -/
inductive Format where
  /-- A directed graph. -/
  | dot
  /-- Nested elements. -/
  | xml
  /-- An indented outline. -/
  | txt
deriving DecidableEq, Repr

namespace Format

/-- Every form, in the order in which they are listed. -/
def all : List Format := [.dot, .xml, .txt]

/-- The name of a form. -/
def name : Format → Text
  | .dot => "dot".toList
  | .xml => "xml".toList
  | .txt => "txt".toList

/-- The form of a name in any ASCII case. -/
def ofName? (text : Text) : Option Format :=
  all.find? fun format => format.name == text.map Text.asciiLower

/-- What is said of a name without a form. -/
def unknownMessage : Text := "Matching variant not found".toList

/-- The tree in a written form. -/
def render : Format → Tree → Text
  | .dot, tree => Digraph.writer.render {} tree
  | .xml, tree => (Markup.writer {}).render [] tree
  | .txt, tree => outlineWriter.render {} tree

end Format

end BnfParsing
