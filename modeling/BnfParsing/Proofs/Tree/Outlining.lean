import BnfParsing.Proofs.Tree.Nodes
import BnfParsing.Tree.Format
import Mathlib.Data.List.TakeWhile

/-!
Contract: an outline is written in two ways and shows the whole tree.

The writer counts its depth up at each visit and down at each leaving; the display of a
tree recurs. Both write one row for each node in pre-order. A row is found in the text
as long as labels keep to their line and do not start with a space, and the rows below
a node are those behind its own that lie deeper.

Owns:
- the rows of a tree, and both ways to write them;
- reading rows from a text, and labels from rows.

Does not own: kinds of nodes, and tokens with a value, which no outline shows.
-/

set_option autoImplicit false

namespace BnfParsing

/-- Lists that are divided where one condition ends have the same parts. -/
theorem append_inj_of_stops {α : Type} (holds : α → Bool)
    {front otherFront back otherBack : List α}
    (before : ∀ item ∈ front, holds item) (otherBefore : ∀ item ∈ otherFront, holds item)
    (stops : ∀ item ∈ back.head?, ¬ holds item) (otherStops : ∀ item ∈ otherBack.head?, ¬ holds item)
    (same : front ++ back = otherFront ++ otherBack) :
    front = otherFront ∧ back = otherBack := by
  have taken : ∀ {front back : List α}, (∀ item ∈ front, holds item) →
      (∀ item ∈ back.head?, ¬ holds item) → (front ++ back).takeWhile holds = front := by
    intro front back before stops
    rw [List.takeWhile_append_of_pos before]
    cases back with
    | nil => simp
    | cons item rest => simp [stops item rfl]
  have sameFront : front = otherFront := by
    rw [← taken before stops, same, taken otherBefore otherStops]
  subst sameFront
  exact ⟨rfl, List.append_cancel_left same⟩

/-- A node in an outline. -/
structure Row where
  depth : Nat
  label : Text

namespace Row

/-- The line of a row. -/
def text (row : Row) : Text :=
  Text.spaces row.depth ++ row.label ++ ['\n']

/-- The label keeps to its line and can be told from the spaces in front of it. -/
structure Plain (row : Row) : Prop where
  oneLine : '\n' ∉ row.label
  flush : row.label.head? ≠ some ' '

variable {row other : Row}

theorem Plain.ne_newline (plain : row.Plain) :
    ∀ character ∈ Text.spaces row.depth ++ row.label, character != '\n' := by
  intro character member
  rw [bne_iff_ne]
  rintro rfl
  rcases List.mem_append.mp member with inSpaces | inLabel
  · simp [Text.spaces] at inSpaces
  · exact plain.oneLine inLabel

theorem text_append (row : Row) (rest : Text) :
    row.text ++ rest = (Text.spaces row.depth ++ row.label) ++ '\n' :: rest := by
  simp [text]

theorem eq_of_line_eq (plain : row.Plain) (otherPlain : other.Plain)
    (same : Text.spaces row.depth ++ row.label = Text.spaces other.depth ++ other.label) :
    row = other := by
  obtain ⟨sameSpaces, sameLabel⟩ :
      Text.spaces row.depth = Text.spaces other.depth ∧ row.label = other.label := by
    apply append_inj_of_stops (· == ' ') _ _ _ _ same
    · intro character member
      simpa using List.eq_of_mem_replicate member
    · intro character member
      simpa using List.eq_of_mem_replicate member
    · intro character first
      rw [beq_iff_eq]
      rintro rfl
      exact plain.flush first
    · intro character first
      rw [beq_iff_eq]
      rintro rfl
      exact otherPlain.flush first
  have sameDepth := congrArg List.length sameSpaces
  rw [Text.spaces, Text.spaces, List.length_replicate, List.length_replicate] at sameDepth
  obtain ⟨depth, label⟩ := row
  obtain ⟨otherDepth, otherLabel⟩ := other
  congr

/-- The text of rows shows which rows they are. -/
theorem flatMap_text_inj {rows others : List Row} (plain : ∀ row ∈ rows, row.Plain)
    (othersPlain : ∀ row ∈ others, row.Plain)
    (same : rows.flatMap Row.text = others.flatMap Row.text) : rows = others := by
  induction rows generalizing others with
  | nil =>
      cases others with
      | nil => rfl
      | cons other others => simp [text] at same
  | cons row rows inductionHypothesis =>
      cases others with
      | nil => simp [text] at same
      | cons other others =>
          rw [List.forall_mem_cons] at plain othersPlain
          rw [List.flatMap_cons, List.flatMap_cons, text_append, text_append] at same
          obtain ⟨sameLine, sameRest⟩ := append_inj_of_stops (· != '\n')
            (plain.1.ne_newline) (othersPlain.1.ne_newline) (by simp) (by simp) same
          rw [eq_of_line_eq plain.1 othersPlain.1 sameLine,
            inductionHypothesis plain.2 othersPlain.2 (List.cons.inj sameRest).2]

end Row

/-- The labels of a tree in its shape. -/
inductive Labels where
  | node (label : Text) (children : List Labels)

namespace Labels

mutual

/-- A row for each label, in pre-order. -/
def rows (depth : Nat) : Labels → List Row
  | .node label children => ⟨depth, label⟩ :: rowsAll (depth + 1) children

/-- The rows of several trees of labels. -/
def rowsAll (depth : Nat) : List Labels → List Row
  | [] => []
  | labels :: rest => labels.rows depth ++ rowsAll depth rest

end

mutual

theorem le_depth_of_mem_rows {row : Row} : ∀ (labels : Labels) (depth : Nat),
    row ∈ labels.rows depth → depth ≤ row.depth
  | .node label children, depth, member => by
      unfold rows at member
      rcases List.mem_cons.mp member with rfl | inside
      · exact Nat.le_refl depth
      · have := le_depth_of_mem_rowsAll children (depth + 1) inside
        omega

theorem le_depth_of_mem_rowsAll {row : Row} : ∀ (trees : List Labels) (depth : Nat),
    row ∈ rowsAll depth trees → depth ≤ row.depth
  | labels :: rest, depth, member => by
      unfold rowsAll at member
      rcases List.mem_append.mp member with inFirst | inOthers
      · exact le_depth_of_mem_rows labels depth inFirst
      · exact le_depth_of_mem_rowsAll rest depth inOthers

end

/-- The rows of a tree are followed by one that is not deeper than its root. -/
theorem depth_of_mem_head?_rowsAll {row : Row} {depth : Nat} (trees : List Labels)
    (first : row ∈ (rowsAll depth trees).head?) : row.depth = depth := by
  rcases trees with _ | ⟨⟨label, children⟩, rest⟩
  · cases first
  · obtain rfl : ⟨depth, label⟩ = row := Option.some.inj first
    rfl

/-- Rows with their depths show which labels stand below which. -/
theorem rowsAll_inj : ∀ {trees others : List Labels} {depth : Nat},
    rowsAll depth trees = rowsAll depth others → trees = others
  | [], [], _, _ => rfl
  | [], .node _ _ :: _, _, same => by simp [rowsAll, rows] at same
  | .node _ _ :: _, [], _, same => by simp [rowsAll, rows] at same
  | .node label children :: rest, .node otherLabel otherChildren :: others, depth, same => by
      simp only [rowsAll, rows, List.cons_append, List.cons.injEq, Row.mk.injEq, true_and] at same
      obtain ⟨rfl, same⟩ := same
      -- what is below the first root ends where a row is no deeper than the root
      obtain ⟨sameChildren, sameRest⟩ := append_inj_of_stops (depth < ·.depth)
        (fun _ inside => decide_eq_true (le_depth_of_mem_rowsAll _ _ inside))
        (fun _ inside => decide_eq_true (le_depth_of_mem_rowsAll _ _ inside))
        (fun _ first => by simp [depth_of_mem_head?_rowsAll _ first])
        (fun _ first => by simp [depth_of_mem_head?_rowsAll _ first]) same
      rw [rowsAll_inj sameChildren, rowsAll_inj sameRest]

theorem rows_inj {labels other : Labels} {depth : Nat}
    (same : labels.rows depth = other.rows depth) : labels = other := by
  have sameAll : rowsAll depth [labels] = rowsAll depth [other] := by
    simpa only [rowsAll, List.append_nil] using same
  exact (List.cons.inj (rowsAll_inj sameAll)).1

end Labels

namespace Tree

mutual

/-- What an outline shows of a tree. -/
def labels : Tree → Labels
  | .node _ token value children => .node (value.getD token) (labelsAll children)

/-- What an outline shows of several trees. -/
def labelsAll : List Tree → List Labels
  | [] => []
  | tree :: rest => tree.labels :: labelsAll rest

end

mutual

theorem map_label_rows : ∀ (tree : Tree) (depth : Nat),
    (tree.labels.rows depth).map Row.label = tree.nodes.map label
  | .node kind token value children, depth => by
      unfold labels Labels.rows nodes
      rw [List.map_cons, List.map_cons, map_label_rowsAll children (depth + 1)]
      rfl

theorem map_label_rowsAll : ∀ (trees : List Tree) (depth : Nat),
    (Labels.rowsAll depth (labelsAll trees)).map Row.label = (nodesAll trees).map label
  | [], _ => rfl
  | tree :: rest, depth => by
      unfold labelsAll Labels.rowsAll nodesAll
      rw [List.map_append, List.map_append, map_label_rows tree, map_label_rowsAll rest]

end

/-! ## Both ways to write the rows -/

mutual

theorem outline_eq_flatMap : ∀ (tree : Tree) (depth : Nat),
    tree.outline depth = (tree.labels.rows depth).flatMap Row.text
  | .node kind token value children, depth => by
      unfold outline labels Labels.rows
      rw [List.flatMap_cons, outlineAll_eq_flatMap children (depth + 1)]
      rfl

theorem outlineAll_eq_flatMap : ∀ (trees : List Tree) (depth : Nat),
    outlineAll depth trees = (Labels.rowsAll depth (labelsAll trees)).flatMap Row.text
  | [], _ => rfl
  | tree :: rest, depth => by
      unfold outlineAll labelsAll Labels.rowsAll
      rw [List.flatMap_append, outline_eq_flatMap tree, outlineAll_eq_flatMap rest]

end

end Tree

/-- The state after rows have been written and all their nodes left. -/
def Outline.after (outline : Outline) (written : List Row) : Outline :=
  { outline with lines := (written.map Row.text).reverse ++ outline.lines }

theorem Outline.after_append (outline : Outline) (earlier later : List Row) :
    outline.after (earlier ++ later) = (outline.after earlier).after later := by
  unfold Outline.after
  rw [List.map_append, List.reverse_append, List.append_assoc]

/-- The state after the row of a node that has not been left. -/
def Outline.opened (outline : Outline) (label : Text) : Outline :=
  { outline.after [⟨outline.depth, label⟩] with depth := outline.depth + 1 }

theorem visit_outlineWriter (tree : Tree) (outline : Outline) :
    outlineWriter.visitor.visit tree outline = (outline.opened tree.label, none) := rfl

/-- The depth of before is found again, as leaving a node never stops at zero. -/
theorem pop_outlineWriter (outline : Outline) (label : Text) (inside : List Row) :
    outlineWriter.visitor.pop ((outline.opened label).after inside) =
      outline.after (⟨outline.depth, label⟩ :: inside) :=
  (outline.after_append [⟨outline.depth, label⟩] inside).symm

namespace Tree

mutual

/-- A walk leaves the depth as it was. -/
theorem prefixWalk_outlineWriter : ∀ (tree : Tree) (outline : Outline),
    tree.prefixWalk outlineWriter.visitor outline =
      (outline.after (tree.labels.rows outline.depth), none)
  | .node kind token value children, outline => by
      unfold prefixWalk labels Labels.rows
      simp only [visit_outlineWriter]
      rw [prefixWalkAll_outlineWriter children]
      exact congrArg (·, none) (pop_outlineWriter outline _ _)

theorem prefixWalkAll_outlineWriter : ∀ (trees : List Tree) (outline : Outline),
    prefixWalkAll outlineWriter.visitor trees outline =
      (outline.after (Labels.rowsAll outline.depth (labelsAll trees)), none)
  | [], _ => rfl
  | tree :: rest, outline => by
      unfold prefixWalkAll labelsAll Labels.rowsAll
      rw [prefixWalk_outlineWriter tree, Outline.after_append]
      exact prefixWalkAll_outlineWriter rest _

end

/-- No label breaks its line or starts with the character of the indentation. -/
def LabelsPlain (tree : Tree) : Prop :=
  ∀ node ∈ tree.nodes, '\n' ∉ node.label ∧ node.label.head? ≠ some ' '

theorem LabelsPlain.plain {tree : Tree} (labelsPlain : tree.LabelsPlain) :
    ∀ row ∈ tree.labels.rows 0, row.Plain := by
  intro row member
  have listed : row.label ∈ tree.nodes.map label := by
    rw [← map_label_rows tree 0]
    exact List.mem_map_of_mem member
  obtain ⟨node, isNode, same⟩ := List.mem_map.mp listed
  obtain ⟨oneLine, flush⟩ := labelsPlain node isNode
  rw [same] at oneLine flush
  exact ⟨oneLine, flush⟩

theorem render_txt_eq (tree : Tree) : Format.txt.render tree = tree.display := by
  have walked : outlineWriter.after {} tree = Outline.after {} (tree.labels.rows 0) := by
    unfold Writer.after
    exact congrArg Prod.fst (prefixWalk_outlineWriter tree {})
  show outlineWriter.text (outlineWriter.after {} tree) = tree.outline 0
  rw [walked, outline_eq_flatMap]
  show (((tree.labels.rows 0).map Row.text).reverse ++ []).reverse.flatten = _
  rw [List.append_nil, List.reverse_reverse, List.flatMap]

/-- The rendered outline is the displayed tree, and it shows the shape and the labels of
a tree, and nothing else. -/
theorem outline_shows_labels :
    (∀ tree : Tree, Format.txt.render tree = tree.display) ∧
      ∀ tree other : Tree, tree.LabelsPlain → other.LabelsPlain →
        (tree.display = other.display ↔ tree.labels = other.labels) := by
  refine ⟨render_txt_eq, fun tree other plain otherPlain => ?_⟩
  unfold display
  rw [outline_eq_flatMap, outline_eq_flatMap]
  constructor
  · intro same
    apply Labels.rows_inj
    exact Row.flatMap_text_inj plain.plain otherPlain.plain same
  · intro same
    rw [same]

/-- A tree whose labels are the values of its nodes. -/
def sentence : Tree :=
  .ofRule "<S>".toList [.leaf "x".toList, .ofRule "<c>".toList [.leaf "a b".toList, .leaf []]]

/-- The same labels without a value, and from other kinds of nodes. -/
def sentenceOfTokens : Tree :=
  .node .leaf "<S>".toList none
    [.node .capture "x".toList none [],
      .node .rule "<c>".toList none [.leaf "a b".toList, .leaf []]]

theorem sentence_labels :
    sentence.LabelsPlain ∧ sentenceOfTokens.LabelsPlain ∧
      sentence.display = "<S>\n x\n <c>\n  a b\n  \n".toList ∧
      sentenceOfTokens.display = "<S>\n x\n <c>\n  a b\n  \n".toList ∧
      sentence.labels = sentenceOfTokens.labels := by
  have plain : sentence.LabelsPlain := by
    unfold LabelsPlain
    decide
  have otherPlain : sentenceOfTokens.LabelsPlain := by
    unfold LabelsPlain
    decide
  refine ⟨plain, otherPlain, rfl, rfl, ?_⟩
  exact (outline_shows_labels.2 sentence sentenceOfTokens plain otherPlain).mp rfl

end Tree

end BnfParsing
