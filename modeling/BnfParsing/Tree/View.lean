import BnfParsing.Text.Quoted
import BnfParsing.Tree.Basic

/-!
Contract: trees drawn with numbered branches.

Each node is described on a line of its own. Under a node its children follow as
blocks, numbered from zero; a bar runs along every block but the last.

Owns: the characters and styles of a drawing, and the layout of blocks.

Does not own: the choice of style.
-/

set_option autoImplicit false

namespace BnfParsing.View

/-- The characters that branches are drawn with. -/
structure Characters where
  horizontal : Char := '─'
  vertical : Char := '│'
  corner : Char := '└'
deriving DecidableEq, Repr

namespace Characters

/-- Thick lines. -/
def bold : Characters := ⟨'━', '┃', '┗'⟩

/-- Thin lines with a round corner. -/
def curved : Characters := ⟨'─', '│', '╰'⟩

/-- Double lines. -/
def double : Characters := ⟨'═', '║', '╚'⟩

/-- Lines from ASCII characters. -/
def ascii : Characters := ⟨'-', '|', '\x60'⟩

end Characters

/-- How a tree is drawn. The indentation is not zero. -/
structure Style where
  characters : Characters := {}
  indentation : Nat := 2
  /-- Whether kinds and blocks are written in bold. -/
  boldLeaves : Bool := false
  /-- Whether bars are written in red. -/
  redBranches : Bool := false
deriving DecidableEq, Repr

private def escapeSequence (code : Text) (text : Text) : Text :=
  "\x1b[".toList ++ code ++ "m".toList ++ text ++ "\x1b[0m".toList

/-- A text in the style of leaves. -/
def Style.leaf (style : Style) (text : Text) : Text :=
  if style.boldLeaves then escapeSequence ['1'] text else text

/-- A text in the style of branches. -/
def Style.branch (style : Style) (text : Text) : Text :=
  if style.redBranches then escapeSequence ['3', '1'] text else text

/-- A number padded with zeros to a width. -/
def paddedNumber (width number : Nat) : Text :=
  let digits := Text.ofNat number
  List.replicate (width - digits.length) '0' ++ digits

/-- The description of one node. -/
def describe (style : Style) (kind : NodeKind) (token : Text) (value : Option Text) : Text :=
  match kind with
  | .rule => style.leaf kind.label ++ [' '] ++ value.getD token
  | _ => style.leaf kind.label ++ " '".toList ++ Quoted.inner token ++ ['\'']

/-- The lines of the block of a child, of which there are `count`. -/
def block (style : Style) (count index : Nat) (drawn : Text) : Text :=
  let width := (Text.ofNat (count - 1)).length
  let spacer := Text.spaces style.indentation
  let lead :=
    if index = 0 then
      style.characters.corner
        :: Text.padRight (style.indentation - 1) [style.characters.horizontal]
    else spacer
  let bar := if index + 1 < count then style.branch [style.characters.vertical] else [' ']
  match Text.lines drawn with
  | [] => []
  | first :: rest =>
      lead ++ paddedNumber width index ++ ": ".toList ++ style.leaf first ++ ['\n']
        ++ rest.flatMap fun line =>
          spacer ++ bar ++ [' '] ++ Text.spaces width ++ style.leaf line ++ ['\n']

mutual

/-- The drawing of a tree. Only a childless node ends without a newline. -/
def draw (style : Style) : Tree → Text
  | .node kind token value children =>
      describe style kind token value
        ++ (if children.isEmpty then [] else ['\n'])
        ++ drawChildren style children.length 0 children

/-- The blocks of children, numbered from `index`. -/
def drawChildren (style : Style) (count : Nat) : (index : Nat) → List Tree → Text
  | _, [] => []
  | index, tree :: rest =>
      block style count index (draw style tree) ++ drawChildren style count (index + 1) rest

end

end BnfParsing.View
