import BnfParsing.Proofs.Text.Lines
import BnfParsing.Proofs.Tree.Statements
import BnfParsing.Tree.View

/-!
Contract: a view has one line for each node.

A block takes the drawing of a child apart into lines and puts a lead in front of each:
one with the number of the child in front of the first, one with the bar in front of
the others. No lead and no description holds a line end, as tokens are in quotes, so
the lines of a block are found again when the block above takes it apart.

Owns: the lines of a view, each with its node, and the text of the view from them.

Does not own: the columns of the lines, and views in colour, whose lines are styled
again at every level.
-/

set_option autoImplicit false

namespace BnfParsing

namespace Quoted

open Text

theorem unbroken_byCode (character : Char) : Unbroken (byCode character) := by
  unfold byCode
  rw [unbroken_append, unbroken_append]
  exact ⟨⟨by decide, unbroken_toDigits (by decide) _⟩, by decide⟩

theorem unbroken_escapeChar (escapeSingle escapeCombining : Bool) (character : Char) :
    Unbroken (escapeChar escapeSingle escapeCombining character) := by
  unfold escapeChar
  split
  case h_7 => split <;> decide
  case h_8 noReturn noNewline _ _ _ =>
    split
    · exact unbroken_byCode character
    · split
      · exact unbroken_byCode character
      · intro other same
        rw [List.mem_singleton.mp same]
        exact ⟨noNewline, noReturn⟩
  all_goals decide

theorem unbroken_inner (text : Text) : Unbroken (inner text) := by
  have escaped : ∀ rest : Text, Unbroken (rest.flatMap (escapeChar true false)) := by
    intro rest character member
    obtain ⟨source, _, inEscape⟩ := List.mem_flatMap.mp member
    exact unbroken_escapeChar true false source character inEscape
  cases text with
  | nil => exact fun _ member => absurd member List.not_mem_nil
  | cons first rest => exact unbroken_append.mpr ⟨unbroken_escapeChar true true first, escaped rest⟩

end Quoted

namespace View

open BnfParsing.Digraph (Entry entries entriesAll)

/-- The default style with another indentation. -/
def plain (indentation : Nat) : Style where
  indentation := indentation

example : plain 2 = {} := rfl

/-- A line of a view. -/
structure Line where
  lead : Text
  entry : Entry

namespace Line

/-- The description of the node behind the lead. -/
def text (line : Line) : Text :=
  line.lead ++ describe {} line.entry.node.kind line.entry.node.token line.entry.node.value

/-- Where the description starts. -/
def column (line : Line) : Nat :=
  line.lead.length

/-- The line with a text in front of it. -/
def behind (front : Text) (line : Line) : Line :=
  { line with lead := front ++ line.lead }

@[simp]
theorem text_behind (front : Text) (line : Line) :
    (line.behind front).text = front ++ line.text :=
  List.append_assoc _ _ _

@[simp]
theorem column_behind (front : Text) (line : Line) :
    (line.behind front).column = front.length + line.column :=
  List.length_append

@[simp]
theorem entry_behind (front : Text) (line : Line) : (line.behind front).entry = line.entry := rfl

end Line

/-- The width of the number of a child, of which there are `count`. -/
def numberWidth (count : Nat) : Nat :=
  (Text.ofNat (count - 1)).length

/-- What stands in front of the first line of a block. -/
def opening (indentation count index : Nat) : Text :=
  (if index = 0 then '└' :: Text.padRight (indentation - 1) ['─'] else Text.spaces indentation)
    ++ paddedNumber (numberWidth count) index ++ ": ".toList

/-- What stands in front of the other lines of a block. -/
def hanging (indentation count index : Nat) : Text :=
  Text.spaces indentation ++ (if index + 1 < count then ['│'] else [' ']) ++ [' ']
    ++ Text.spaces (numberWidth count)

/-- The lines of a drawing as those of a block. -/
def blockLines (indentation count index : Nat) : List Line → List Line
  | [] => []
  | first :: rest =>
      first.behind (opening indentation count index) ::
        rest.map (Line.behind (hanging indentation count index))

mutual

/-- The lines of a tree whose nodes are numbered from `first`. -/
def drawing (indentation : Nat) (parent? : Option Nat) (first : Nat) : Tree → List Line
  | .node kind token value children =>
      ⟨[], ⟨first, parent?, .node kind token value children⟩⟩ ::
        drawingAll indentation children.length first 0 (first + 1) children

/-- The lines of the blocks of children, the next of which has the number `index`. -/
def drawingAll (indentation count parent index first : Nat) : List Tree → List Line
  | [] => []
  | tree :: others =>
      blockLines indentation count index (drawing indentation (some parent) first tree)
        ++ drawingAll indentation count parent (index + 1) (first + tree.size) others

end

variable {indentation count index parent first : Nat} {parent? : Option Nat}

/-! ## Lines and nodes -/

theorem map_entry_blockLines (lines : List Line) :
    (blockLines indentation count index lines).map Line.entry = lines.map Line.entry := by
  cases lines with
  | nil => rfl
  | cons first rest => simp [blockLines]

mutual

theorem map_entry_drawing : ∀ (tree : Tree) (parent? : Option Nat) (first : Nat),
    (drawing indentation parent? first tree).map Line.entry = entries parent? first tree
  | .node kind token value children, parent?, first => by
      unfold drawing entries
      rw [List.map_cons, map_entry_drawingAll children]

theorem map_entry_drawingAll : ∀ (trees : List Tree) (count parent index first : Nat),
    (drawingAll indentation count parent index first trees).map Line.entry =
      entriesAll parent first trees
  | [], _, _, _, _ => rfl
  | tree :: others, count, parent, index, first => by
      unfold drawingAll entriesAll
      rw [List.map_append, map_entry_blockLines, map_entry_drawing tree,
        map_entry_drawingAll others]

end

/-! ## Lines and texts -/

theorem unbroken_paddedNumber (width number : Nat) : Text.Unbroken (paddedNumber width number) := by
  unfold paddedNumber
  rw [Text.unbroken_append]
  refine ⟨?_, Text.unbroken_toDigits (by decide) number⟩
  intro character member
  rw [List.eq_of_mem_replicate member]
  decide

theorem unbroken_opening : Text.Unbroken (opening indentation count index) := by
  unfold opening
  rw [Text.unbroken_append, Text.unbroken_append]
  refine ⟨⟨?_, unbroken_paddedNumber _ _⟩, by decide⟩
  split
  · show Text.Unbroken (['└', '─'] ++ Text.spaces (indentation - 1 - 1))
    rw [Text.unbroken_append]
    exact ⟨by decide, Text.unbroken_spaces _⟩
  · exact Text.unbroken_spaces indentation

theorem unbroken_hanging : Text.Unbroken (hanging indentation count index) := by
  unfold hanging
  rw [Text.unbroken_append, Text.unbroken_append, Text.unbroken_append]
  refine ⟨⟨⟨Text.unbroken_spaces indentation, ?_⟩, by decide⟩, Text.unbroken_spaces _⟩
  split <;> decide

theorem unbroken_describe {node : Tree} (unbroken : node.kind = .rule → Text.Unbroken node.label) :
    Text.Unbroken (describe {} node.kind node.token node.value) := by
  obtain ⟨kind, token, value, children⟩ := node
  have quoted : ∀ front : Text, Text.Unbroken front →
      Text.Unbroken (front ++ Quoted.inner token ++ ['\'']) := by
    intro front unbroken
    rw [Text.unbroken_append, Text.unbroken_append]
    exact ⟨⟨unbroken, Quoted.unbroken_inner token⟩, by decide⟩
  cases kind with
  | rule =>
      show Text.Unbroken ("Rule ".toList ++ value.getD token)
      rw [Text.unbroken_append]
      exact ⟨by decide, unbroken rfl⟩
  | leaf => exact quoted "Leaf '".toList (by decide)
  | capture => exact quoted "Capture '".toList (by decide)

theorem describe_ne_nil (node : Tree) :
    describe {} node.kind node.token node.value ≠ [] := by
  obtain ⟨kind, token, value, children⟩ := node
  cases kind <;> exact List.cons_ne_nil _ _

/-- Descriptions keep to their lines: tokens are in quotes, and labels of rules do so. -/
def LabelsUnbroken (nodes : List Tree) : Prop :=
  ∀ node ∈ nodes, node.kind = .rule → Text.Unbroken node.label

theorem unbroken_lead_blockLines {lines : List Line}
    (unbroken : ∀ line ∈ lines, Text.Unbroken line.lead) :
    ∀ line ∈ blockLines indentation count index lines, Text.Unbroken line.lead := by
  intro line member
  cases lines with
  | nil => cases member
  | cons first rest =>
      rw [List.forall_mem_cons] at unbroken
      rcases List.mem_cons.mp member with rfl | inRest
      · exact Text.unbroken_append.mpr ⟨unbroken_opening, unbroken.1⟩
      · obtain ⟨inner, isInner, rfl⟩ := List.mem_map.mp inRest
        exact Text.unbroken_append.mpr ⟨unbroken_hanging, unbroken.2 inner isInner⟩

mutual

theorem unbroken_lead_drawing : ∀ (tree : Tree) (parent? : Option Nat) (first : Nat),
    ∀ line ∈ drawing indentation parent? first tree, Text.Unbroken line.lead
  | .node kind token value children, parent?, first, line, member => by
      unfold drawing at member
      rcases List.mem_cons.mp member with rfl | below
      · exact fun _ inLead => absurd inLead List.not_mem_nil
      · exact unbroken_lead_drawingAll children _ _ _ _ line below

theorem unbroken_lead_drawingAll : ∀ (trees : List Tree) (count parent index first : Nat),
    ∀ line ∈ drawingAll indentation count parent index first trees, Text.Unbroken line.lead
  | [], _, _, _, _, _, member => by
      unfold drawingAll at member
      exact absurd member List.not_mem_nil
  | tree :: others, count, parent, index, first, line, member => by
      unfold drawingAll at member
      rcases List.mem_append.mp member with inBlock | inOthers
      · exact unbroken_lead_blockLines (unbroken_lead_drawing tree _ _) line inBlock
      · exact unbroken_lead_drawingAll others _ _ _ _ line inOthers

end

theorem singleLine_text {trees : List Tree} (unbroken : LabelsUnbroken (Tree.nodesAll trees)) :
    ∀ part ∈ (drawingAll indentation count parent index first trees).map Line.text,
      Text.SingleLine part := by
  intro part member
  obtain ⟨line, isLine, rfl⟩ := List.mem_map.mp member
  have isNode : line.entry.node ∈ Tree.nodesAll trees := by
    have listed : line.entry ∈ entriesAll parent first trees := by
      rw [← map_entry_drawingAll trees count parent index first]
      exact List.mem_map_of_mem isLine
    rw [← Digraph.map_node_entriesAll trees parent first]
    exact List.mem_map_of_mem listed
  apply Text.Unbroken.singleLine
  · apply Text.unbroken_append.mpr
    exact ⟨unbroken_lead_drawingAll trees _ _ _ _ line isLine,
      unbroken_describe (unbroken _ isNode)⟩
  · exact List.append_ne_nil_of_right_ne_nil _ (describe_ne_nil line.entry.node)

theorem block_eq {drawn : Text} {lines : List Line}
    (read : Text.lines drawn = lines.map Line.text) :
    block (plain indentation) count index drawn =
      ((blockLines indentation count index lines).map Line.text).flatMap (· ++ ['\n']) := by
  unfold block
  rw [read]
  cases lines with
  | nil => rfl
  | cons first rest =>
      show opening indentation count index ++ first.text ++ ['\n'] ++
        (rest.map Line.text).flatMap (fun line => hanging indentation count index ++ line ++ ['\n']) =
          _
      rw [blockLines, List.map_cons, List.flatMap_cons, Line.text_behind, List.map_map,
        List.flatMap_map, List.flatMap_map]
      simp

mutual

theorem lines_draw : ∀ (tree : Tree) (parent? : Option Nat) (first : Nat),
    LabelsUnbroken tree.nodes →
    Text.lines (draw (plain indentation) tree) =
      (drawing indentation parent? first tree).map Line.text
  | .node kind token value children, parent?, first, unbroken => by
      obtain ⟨rootUnbroken, below⟩ := List.forall_mem_cons.mp unbroken
      have single : Text.SingleLine (describe {} kind token value) :=
        (unbroken_describe rootUnbroken).singleLine (describe_ne_nil (.node kind token value children))
      unfold draw drawing
      rw [List.map_cons, drawChildren_eq children _ first 0 (first + 1) below]
      cases children with
      | nil =>
          show Text.lines (describe {} kind token value ++ [] ++ []) = _
          rw [List.append_nil, List.append_nil, Text.lines_single single]
          rfl
      | cons child others =>
          show Text.lines (describe {} kind token value ++ ['\n'] ++ _) = _
          rw [List.append_assoc, List.singleton_append, Text.lines_append_newline single,
            Text.lines_flatMap_newline (singleLine_text below)]
          rfl

theorem drawChildren_eq : ∀ (trees : List Tree) (count parent index first : Nat),
    LabelsUnbroken (Tree.nodesAll trees) →
    drawChildren (plain indentation) count index trees =
      ((drawingAll indentation count parent index first trees).map Line.text).flatMap
        (· ++ ['\n'])
  | [], _, _, _, _, _ => rfl
  | tree :: others, count, parent, index, first, unbroken => by
      obtain ⟨inTree, inOthers⟩ := List.forall_mem_append.mp unbroken
      unfold drawChildren drawingAll
      rw [List.map_append, List.flatMap_append,
        block_eq (lines_draw tree (some parent) first inTree),
        drawChildren_eq others count parent (index + 1) _ inOthers]

end

end View

end BnfParsing
