import BnfParsing.Proofs.Tree.ElementReading
import BnfParsing.Proofs.Tree.Elements
import BnfParsing.Proofs.Tree.Nodes

/-!
Contract: what a reader of a tree's elements gets back, and when it is the tree.

A subtree is indented once for each of its ancestors. This leaves the tags as they
are, widens the white space between elements, and hangs the texts of the nodes as
often. So shape and tags are read back from every tree, and the text of a node below
the root only if it is one line.

Owns: what an element form shows of a tree, the reader of trees, and both results.

Does not own: the reader of elements.
-/

set_option autoImplicit false

namespace BnfParsing

/-- What elements show of a tree: the token of a childless node, the label of any
other. -/
inductive Shown where
  | token (text : Text)
  | node (label : Text) (children : List Shown)

namespace Tree

/-- The text that is shown of a node. -/
def shownText (tree : Tree) : Text :=
  if tree.isLeaf then tree.token else tree.label

mutual

/-- What elements show of a tree. -/
def shown : Tree → Shown
  | .node _ token value children =>
      if children.isEmpty then .token token else .node (value.getD token) (shownAll children)

def shownAll : List Tree → List Shown
  | [] => []
  | tree :: others => tree.shown :: shownAll others

end

mutual

/-- What is shown of a tree with so many ancestors, each text hanging as often. -/
def hung (depth : Nat) : Tree → Shown
  | .node _ token value children =>
      if children.isEmpty then .token (Text.hang^[depth] token)
      else .node (Text.hang^[depth] (value.getD token)) (hungAll (depth + 1) children)

def hungAll (depth : Nat) : List Tree → List Shown
  | [] => []
  | tree :: others => tree.hung depth :: hungAll depth others

end

end Tree

namespace Markup

/-! ## Reading a tree -/

/-- A text that can stand between elements for the layout alone. -/
def isLayout (text : Text) : Bool :=
  text.all fun character => character = ' ' || character = '\n'

mutual

/-- What an element shows: a token, or a node with its name and its children. -/
def Element.shown? : Element → Option Shown
  | .mk .token text [] _ => some (.token text)
  | .mk .node before (.mk .name label [] between :: children) _ =>
      if isLayout before && isLayout between then (shownAll? children).map (.node label)
      else none
  | _ => none

/-- What several elements show that are followed by nothing but layout. -/
def Element.shownAll? : List Element → Option (List Shown)
  | [] => some []
  | element :: others =>
      if isLayout element.after then do
        let first ← element.shown?
        let later ← shownAll? others
        return first :: later
      else none

end

/-- What a text shows of a tree: behind the declaration, one element. -/
def readTree (text : Text) : Option Shown := do
  let rest ← text.dropPrefix? declaration
  match ← Element.shownAll? (← readElements rest) with
  | [shown] => some shown
  | _ => none

/-! ## Indenting changes texts only -/

theorem head?_escape_eq_newline (text : Text) :
    (escape text).head? = some '\n' ↔ text.head? = some '\n' := by
  cases text with
  | nil => rfl
  | cons character rest =>
      show (escapeChar character ++ escape rest).head? = _ ↔ _
      unfold escapeChar
      split
      all_goals simp

theorem hang_escape (text : Text) : Text.hang (escape text) = escape (Text.hang text) := by
  induction text with
  | nil => rfl
  | cons character rest inductionHypothesis =>
      show Text.hang (escapeChar character ++ escape rest) = _
      by_cases newline : character = '\n'
      · subst newline
        show Text.hang ('\n' :: escape rest) = _
        rw [Text.hang_newline, Text.hang_newline, inductionHypothesis, escape_append]
        rfl
      by_cases returns : character = '\r'
      · subst returns
        show Text.hang ('\r' :: escape rest) = _
        rw [Text.hang, Text.hang, if_neg newline, if_neg newline, inductionHypothesis]
        simp only [head?_escape_eq_newline]
        split
        · rfl
        · rfl
      -- neither the character nor what it is escaped with ends a line
      · have plain : '\n' ∉ escapeChar character ∧ '\r' ∉ escapeChar character := by
          unfold escapeChar
          split
          case h_6 => simpa using ⟨Ne.symm newline, Ne.symm returns⟩
          all_goals decide
        rw [Text.hang_append_of_plain plain, inductionHypothesis, Text.hang, if_neg newline,
          if_neg fun both => returns both.1]
        rfl

def Piece.map (change : Text → Text) (piece : Piece) : Piece :=
  ⟨piece.tag, change piece.after⟩

/-- Indenting written tags is hanging the texts between them. -/
theorem hang_writeAll (pieces : List Piece) :
    Text.hang (Piece.writeAll pieces) = Piece.writeAll (pieces.map (Piece.map Text.hang)) := by
  induction pieces with
  | nil => rfl
  | cons piece others inductionHypothesis =>
      have apart : (Piece.writeAll others).head? ≠ some '\n' := by
        cases others with
        | nil => exact nofun
        | cons => exact fun same => absurd (Option.some.inj same) (by decide)
      rw [Piece.writeAll_cons, Text.hang_append_of_plain piece.tag.not_mem_written,
        Text.hang_append apart, hang_escape, inductionHypothesis, List.map_cons,
        Piece.writeAll_cons]
      rfl

/-! ## The elements of a tree -/

/-- The layout in front of the next child, or of the end of the element. -/
def gap : List Tree → Text
  | [] => "\n".toList
  | _ :: _ => "\n  ".toList

mutual

/-- The element of a tree with so many ancestors, its layout being texts as well. -/
def document (depth : Nat) (after : Text) : Tree → Element
  | .node _ token value children =>
      if children.isEmpty then .mk .token (Text.hang^[depth] token) [] after
      else
        .mk .node (Text.hang^[depth] "\n  ".toList)
          (.mk .name (Text.hang^[depth] (value.getD token)) []
              (Text.hang^[depth] (gap children)) ::
            documents depth children) after

/-- The elements of the children of a node with so many ancestors. Behind each stands
the layout in front of the next one. -/
def documents (depth : Nat) : List Tree → List Element
  | [] => []
  | tree :: others =>
      document (depth + 1) (Text.hang^[depth] (gap others)) tree :: documents depth others

end

mutual

/-- With one ancestor more, the texts of an element hang once more. -/
theorem pieces_document_succ (depth : Nat) (after : Text) : ∀ tree : Tree,
    (document (depth + 1) (Text.hang after) tree).pieces =
      (document depth after tree).pieces.map (Piece.map Text.hang)
  | .node kind token value children => by
      unfold document
      split
      · simp only [Element.pieces, Element.piecesAll, Function.iterate_succ_apply']
        rfl
      · simp only [Element.pieces, Element.piecesAll, Function.iterate_succ_apply',
          piecesAll_documents_succ depth children, List.map_cons, List.map_append]
        rfl

theorem piecesAll_documents_succ (depth : Nat) : ∀ trees : List Tree,
    Element.piecesAll (documents (depth + 1) trees) =
      (Element.piecesAll (documents depth trees)).map (Piece.map Text.hang)
  | [] => rfl
  | tree :: others => by
      unfold documents Element.piecesAll
      rw [Function.iterate_succ_apply', pieces_document_succ (depth + 1) _ tree,
        piecesAll_documents_succ depth others, List.map_append]

end

theorem Element.writeAll_pieces_after (kind : ElementKind) (text : Text)
    (children : List Element) (after : Text) :
    Piece.writeAll (mk kind text children after).pieces =
      Piece.writeAll (mk kind text children []).pieces ++ escape after := by
  have ending : ∀ after : Text, Piece.writeAll [⟨.closing kind, after⟩] =
      (Tag.closing kind).written ++ escape after := by
    intro after
    rw [Piece.writeAll_cons]
    exact congrArg _ (List.append_nil _)
  rw [pieces, pieces, ← List.cons_append, ← List.cons_append, Piece.writeAll_append,
    Piece.writeAll_append, ending, ending, List.append_assoc, List.append_assoc]
  rfl

theorem writeAll_document_after (depth : Nat) (after : Text) (tree : Tree) :
    Piece.writeAll (document depth after tree).pieces =
      Piece.writeAll (document depth [] tree).pieces ++ escape after := by
  cases tree
  unfold document
  split
  · exact Element.writeAll_pieces_after ..
  · exact Element.writeAll_pieces_after ..

mutual

/-- The element of a tree is written as the walk leaves it. -/
theorem writeAll_document : ∀ tree : Tree,
    Piece.writeAll (document 0 [] tree).pieces = element {} tree
  | .node kind token value children => by
      unfold document element
      split
      · simp only [Element.pieces, Element.piecesAll, Piece.writeAll_cons,
          Piece.writeAll_append, List.append_assoc]
        rfl
      · have inner : ∀ rest : Text,
            escape (gap children) ++
                (Piece.writeAll (Element.piecesAll (documents 0 children)) ++ rest) =
              '\n' :: indentedElements {} children ++ rest := by
          intro rest
          rw [← List.append_assoc, writeAll_documents children]
        simp only [Element.pieces, Element.piecesAll, Piece.writeAll_cons,
          Piece.writeAll_append, List.append_assoc, List.cons_append, List.nil_append,
          Function.iterate_zero, id, inner]
        rfl

theorem writeAll_documents : ∀ trees : List Tree,
    escape (gap trees) ++ Piece.writeAll (Element.piecesAll (documents 0 trees)) =
      '\n' :: indentedElements {} trees
  | [] => rfl
  | tree :: others => by
      -- with its one ancestor the first tree is written as its own element, hanging
      have first : Piece.writeAll (document 1 (gap others) tree).pieces =
          Text.hang (element {} tree) ++ escape (gap others) := by
        rw [writeAll_document_after, ← writeAll_document tree, hang_writeAll,
          ← pieces_document_succ]
        rfl
      unfold documents indentedElements
      rw [Element.piecesAll, Piece.writeAll_append]
      show _ ++ (Piece.writeAll (document 1 (gap others) tree).pieces ++ _) = _
      rw [first, List.append_assoc, writeAll_documents others, indented_element]
      simp only [List.append_assoc]
      rfl

end

/-! ## What is read back -/

theorem isLayout_hang {text : Text} (layout : isLayout text) : isLayout (Text.hang text) := by
  induction text with
  | nil => exact layout
  | cons character rest inductionHypothesis =>
      rw [isLayout, List.all_cons, Bool.and_eq_true] at layout
      have later := inductionHypothesis layout.2
      rw [Text.hang]
      split
      · exact later
      · split
        · exact later
        · rw [isLayout, List.all_cons, layout.1]
          exact later

theorem isLayout_iterate_hang {text : Text} (layout : isLayout text) (depth : Nat) :
    isLayout (Text.hang^[depth] text) := by
  induction depth with
  | zero => exact layout
  | succ depth inductionHypothesis =>
      rw [Function.iterate_succ_apply']
      exact isLayout_hang inductionHypothesis

theorem isLayout_gap (trees : List Tree) : isLayout (gap trees) := by
  cases trees <;> rfl

theorem after_document (depth : Nat) (after : Text) (tree : Tree) :
    (document depth after tree).after = after := by
  cases tree
  unfold document
  split
  · rfl
  · rfl

mutual

/-- The element of a tree shows the tree, with hanging texts. -/
theorem shown?_document (depth : Nat) (after : Text) : ∀ tree : Tree,
    (document depth after tree).shown? = some (tree.hung depth)
  | .node kind token value children => by
      unfold document Tree.hung
      split
      · rfl
      · rw [Element.shown?, isLayout_iterate_hang rfl,
          isLayout_iterate_hang (isLayout_gap children), shownAll?_documents depth children]
        rfl

theorem shownAll?_documents (depth : Nat) : ∀ trees : List Tree,
    Element.shownAll? (documents depth trees) = some (Tree.hungAll (depth + 1) trees)
  | [] => rfl
  | tree :: others => by
      have layout : isLayout
          (document (depth + 1) (Text.hang^[depth] (gap others)) tree).after := by
        rw [after_document]
        exact isLayout_iterate_hang (isLayout_gap others) depth
      unfold documents Element.shownAll? Tree.hungAll
      rw [if_pos layout, shown?_document (depth + 1) _ tree, shownAll?_documents depth others]
      rfl

end

/-- Every rendered tree is read back with hanging texts. -/
theorem readTree_render (tree : Tree) :
    readTree (Format.xml.render tree) = some (tree.hung 0) := by
  have written : element {} tree ++ ['\n'] =
      Element.writeAll [document 0 ['\n'] tree] := by
    show _ = Piece.writeAll ((document 0 ['\n'] tree).pieces ++ [])
    rw [List.append_nil, writeAll_document_after, writeAll_document]
    rfl
  have shows : Element.shownAll? [document 0 ['\n'] tree] = some [tree.hung 0] := by
    have after : (document 0 ['\n'] tree).after = ['\n'] := after_document 0 ['\n'] tree
    have layout : isLayout ['\n'] = true := rfl
    rw [Element.shownAll?, after, if_pos layout, shown?_document]
    rfl
  have rest : (declaration ++ Element.writeAll [document 0 ['\n'] tree]).dropPrefix? declaration =
      some (Element.writeAll [document 0 ['\n'] tree]) :=
    List.dropPrefix?_append_of_beq _ BEq.rfl
  rw [render_xml_eq, List.append_assoc, written, readTree, rest]
  simp only [Option.bind_eq_bind, Option.bind_some, readElements_writeAll, shows]

mutual

/-- Hanging texts are the texts of the tree if they are single lines, except that the
text of a node without ancestors may have any number of lines. -/
theorem hung_eq_shown_iff (depth : Nat) : ∀ tree : Tree,
    tree.hung depth = tree.shown ↔
      (depth = 0 ∨ '\n' ∉ tree.shownText) ∧
        ∀ node ∈ Tree.nodesAll tree.children, '\n' ∉ node.shownText
  | .node kind token value children => by
      unfold Tree.hung Tree.shown Tree.shownText
      by_cases leaf : children.isEmpty
      · rw [if_pos leaf, if_pos leaf, Shown.token.injEq, Text.iterate_hang_eq_self_iff]
        have noChildren : children = [] := List.isEmpty_iff.mp leaf
        subst noChildren
        simp [Tree.isLeaf, Tree.children, Tree.token, Tree.nodesAll]
      · rw [if_neg leaf, if_neg leaf, Shown.node.injEq, Text.iterate_hang_eq_self_iff,
          hungAll_eq_shownAll_iff depth children]
        rw [Tree.isLeaf, Tree.children, if_neg leaf]
        rfl

theorem hungAll_eq_shownAll_iff (depth : Nat) : ∀ trees : List Tree,
    Tree.hungAll (depth + 1) trees = Tree.shownAll trees ↔
      ∀ node ∈ Tree.nodesAll trees, '\n' ∉ node.shownText
  | [] => by
      simp [Tree.hungAll, Tree.shownAll, Tree.nodesAll]
  | tree :: others => by
      have first := hung_eq_shown_iff (depth + 1) tree
      rw [or_iff_right (Nat.succ_ne_zero depth)] at first
      unfold Tree.hungAll Tree.shownAll Tree.nodesAll
      rw [List.cons.injEq, first, hungAll_eq_shownAll_iff depth others, List.forall_mem_append]
      cases tree
      rw [Tree.nodes, List.forall_mem_cons]
      rfl

end

/-- The elements of a tree carry its shape and the text of its root; they carry the
other texts as well just in case each of these is a single line. -/
theorem render_read_back (tree : Tree) :
    readTree (Format.xml.render tree) = some (tree.hung 0) ∧
      (readTree (Format.xml.render tree) = some tree.shown ↔
        ∀ node ∈ Tree.nodesAll tree.children, '\n' ∉ node.shownText) := by
  have same := hung_eq_shown_iff 0 tree
  rw [eq_self, true_or, true_and] at same
  refine ⟨readTree_render tree, ?_⟩
  rw [readTree_render, Option.some.injEq, same]

/-- Two lines of a leaf below the root: the second one is read back with two spaces
more. -/
theorem brokenLeaf_read_back :
    readTree (Format.xml.render (.ofRule "<S>".toList [.leaf "a\nb".toList])) =
        some (.node "<S>".toList [.token "a\n  b".toList]) ∧
      readTree (Format.xml.render (.ofRule "<S>".toList [.leaf "a\nb".toList])) ≠
        some (Tree.ofRule "<S>".toList [.leaf "a\nb".toList]).shown := by
  have read : readTree (Format.xml.render (.ofRule "<S>".toList [.leaf "a\nb".toList])) =
      some (.node "<S>".toList [.token "a\n  b".toList]) := by
    rw [readTree_render]
    rfl
  refine ⟨read, ?_⟩
  rw [read]
  intro same
  simp [Tree.shown, Tree.shownAll, Tree.ofRule, Tree.leaf] at same

end Markup
end BnfParsing
