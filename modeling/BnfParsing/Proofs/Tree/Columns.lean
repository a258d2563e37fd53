import BnfParsing.Proofs.Tree.Drawing
import Mathlib.Data.List.Nodup

/-!
Contract: the columns of a view show the parents of the nodes.

The two leads of a block are of the same width, so that a child with all that is below
it moves by one step. Only at an indentation of one column the stroke to the first
child is a column too wide, which moves the description of this child alone and is less
than a step.

Owns:
- the widths of leads and the columns of siblings;
- lines whose parents are the nearest ones further left.

Does not own: the text of a view.
-/

set_option autoImplicit false

namespace BnfParsing.View

open BnfParsing.Digraph (Entry)

variable {indentation count index parent first : Nat} {parent? : Option Nat}

/-! ## Widths of leads -/

/-- How far children are described to the right of their parent. -/
def step (indentation count : Nat) : Nat :=
  indentation + numberWidth count + 2

theorem length_paddedNumber (within : index < count) :
    (paddedNumber (numberWidth count) index).length = numberWidth count := by
  have positive : 0 < numberWidth count := Nat.length_toDigits_pos
  have last : count - 1 < 10 ^ numberWidth count :=
    (Nat.length_toDigits_le_iff (by decide) positive).mp (Nat.le_refl _)
  have fits : (Text.ofNat index).length ≤ numberWidth count := by
    apply (Nat.length_toDigits_le_iff (by decide) positive).mpr
    omega
  unfold paddedNumber
  rw [List.length_append, List.length_replicate]
  omega

theorem length_hanging : (hanging indentation count index).length = step indentation count := by
  have bar : (if index + 1 < count then ['│'] else [' ']).length = 1 := by
    split <;> rfl
  unfold hanging step Text.spaces
  rw [List.length_append, List.length_append, List.length_append, bar, List.length_replicate,
    List.length_replicate, List.length_singleton]
  omega

/-- The stroke to the first child takes two columns even if there is but one. -/
theorem length_opening (positive : 0 < indentation) (within : index < count) :
    (opening indentation count index).length =
      step indentation count + if index = 0 ∧ indentation = 1 then 1 else 0 := by
  have colon : ": ".toList.length = 2 := rfl
  unfold opening step Text.padRight Text.spaces
  rw [List.length_append, List.length_append, length_paddedNumber within, colon]
  by_cases isFirst : index = 0
  · rw [if_pos isFirst, List.length_cons, List.length_append, List.length_singleton,
      List.length_replicate]
    split <;> omega
  · rw [if_neg isFirst, if_neg fun both => isFirst both.1, List.length_replicate]

theorem drawing_eq_cons (tree : Tree) :
    drawing indentation parent? first tree =
      ⟨[], ⟨first, parent?, tree⟩⟩ ::
        drawingAll indentation tree.children.length first 0 (first + 1) tree.children := by
  cases tree
  rfl

theorem step_le_column_blockLines (tree : Tree) (positive : 0 < indentation)
    (within : index < count) :
    ∀ line ∈ blockLines indentation count index (drawing indentation parent? first tree),
      step indentation count ≤ line.column := by
  intro line member
  rw [drawing_eq_cons, blockLines, List.mem_cons, List.mem_map] at member
  rcases member with rfl | ⟨inner, _, rfl⟩
  · rw [Line.column_behind, length_opening positive within]
    omega
  · rw [Line.column_behind, length_hanging]
    omega

theorem step_le_column {trees : List Tree} (positive : 0 < indentation)
    (within : index + trees.length ≤ count) :
    ∀ line ∈ drawingAll indentation count parent index first trees,
      step indentation count ≤ line.column := by
  induction trees generalizing index first with
  | nil =>
      unfold drawingAll
      exact fun _ member => absurd member List.not_mem_nil
  | cons tree others inductionHypothesis =>
      rw [List.length_cons] at within
      unfold drawingAll
      rw [List.forall_mem_append]
      constructor
      · apply step_le_column_blockLines tree positive
        omega
      · apply inductionHypothesis
        omega

/-! ## Lines of siblings -/

/-- How many columns too far right a node is described: one at an indentation of one, if it
is the first of its siblings, which is the node numbered right behind its parent. -/
def stroke (indentation : Nat) (entry : Entry) : Nat :=
  if indentation = 1 ∧ entry.parent?.any fun parent => entry.id = parent + 1 then 1 else 0

theorem stroke_le_one (entry : Entry) : stroke indentation entry ≤ 1 := by
  unfold stroke
  split <;> omega

theorem stroke_of_parent {entry : Entry} (isParent : entry.parent? = some parent) :
    stroke indentation entry = if indentation = 1 ∧ entry.id = parent + 1 then 1 else 0 := by
  simp [stroke, isParent]

/-- Each line below a root is a step to the right of its parent's, but for the strokes. The
root itself is described at the margin. -/
def Aligned (indentation : Nat) (root : Entry) (lines : List Line) : Prop :=
  ∀ line ∈ lines,
    (line.entry.parent? = some root.id ∧
      line.column = step indentation root.node.children.length + stroke indentation line.entry) ∨
    ∃ other ∈ lines, line.entry.parent? = some other.entry.id ∧
      line.column + stroke indentation other.entry =
        other.column + step indentation other.entry.node.children.length +
          stroke indentation line.entry

theorem Aligned.append {root : Entry} {front back : List Line}
    (frontAligned : Aligned indentation root front) (backAligned : Aligned indentation root back) :
    Aligned indentation root (front ++ back) := by
  intro line member
  rcases List.mem_append.mp member with inFront | inBack
  · rcases frontAligned line inFront with atRoot | ⟨other, isAbove, atParent⟩
    · exact .inl atRoot
    · exact .inr ⟨other, List.mem_append_left _ isAbove, atParent⟩
  · rcases backAligned line inBack with atRoot | ⟨other, isAbove, atParent⟩
    · exact .inl atRoot
    · exact .inr ⟨other, List.mem_append_right _ isAbove, atParent⟩

/-- A block is aligned below the parent if its lines are below the child: what is too wide
in front of the child is not in front of them. -/
theorem Aligned.block {root child : Entry} {front back : Text} {lines : List Line}
    (isParent : child.parent? = some root.id)
    (opens : front.length =
      step indentation root.node.children.length + stroke indentation child)
    (hangs : back.length = step indentation root.node.children.length)
    (aligned : Aligned indentation child lines) :
    Aligned indentation root
      (Line.behind front ⟨[], child⟩ :: lines.map (Line.behind back)) := by
  intro line member
  rcases List.mem_cons.mp member with rfl | below
  · refine .inl ⟨isParent, ?_⟩
    rw [Line.column_behind, opens]
    rfl
  obtain ⟨inner, isInner, rfl⟩ := List.mem_map.mp below
  right
  rcases aligned inner isInner with ⟨isChild, column⟩ | ⟨other, isOther, isAbove, column⟩
  · refine ⟨Line.behind front ⟨[], child⟩, List.mem_cons_self, isChild, ?_⟩
    have atMargin : (⟨[], child⟩ : Line).column = 0 := rfl
    rw [Line.column_behind, Line.column_behind, Line.entry_behind, Line.entry_behind, opens,
      hangs, column, atMargin]
    dsimp only
    omega
  · refine ⟨other.behind back, List.mem_cons_of_mem _ (List.mem_map_of_mem isOther), isAbove, ?_⟩
    rw [Line.column_behind, Line.column_behind, Line.entry_behind, Line.entry_behind]
    omega

mutual

theorem aligned_drawing : ∀ (tree : Tree) (parent? : Option Nat) (first : Nat),
    0 < indentation →
    Aligned indentation ⟨first, parent?, tree⟩
      (drawingAll indentation tree.children.length first 0 (first + 1) tree.children)
  | .node kind token value children, parent?, first, positive =>
      aligned_drawingAll children 0 (first + 1) ⟨first, parent?, .node kind token value children⟩
        positive (Nat.zero_add _).le (Nat.lt_succ_self first) (iff_of_true rfl rfl)

/-- The first child is the one that is numbered right behind the parent. -/
theorem aligned_drawingAll : ∀ (trees : List Tree) (index first : Nat) (root : Entry),
    0 < indentation → index + trees.length ≤ root.node.children.length → root.id < first →
    (index = 0 ↔ first = root.id + 1) →
    Aligned indentation root
      (drawingAll indentation root.node.children.length root.id index first trees)
  | [], _, _, _, _, _, _, _ => by
      unfold drawingAll
      exact fun _ member => absurd member List.not_mem_nil
  | tree :: others, index, first, root, positive, within, behind, isFirst => by
      rw [List.length_cons] at within
      have nonempty : 0 < tree.size := by
        cases tree
        unfold Tree.size
        omega
      unfold drawingAll
      rw [drawing_eq_cons, blockLines]
      refine Aligned.append (Aligned.block rfl ?_ length_hanging
        (aligned_drawing tree (some root.id) first positive)) ?_
      · rw [length_opening positive (by omega), stroke_of_parent rfl]
        simp only [isFirst, and_comm]
      · exact aligned_drawingAll others (index + 1) _ root positive (by omega) (by omega)
          (iff_of_false (by omega) (by omega))

end

/-! ## The nearest line further left -/

/-- The parent of each line is the nearest one further left, where those in front of the
lines are given from the nearest on. -/
def ParentsNearest (seen : List Line) : List Line → Prop
  | [] => True
  | line :: rest =>
      (seen.find? fun other => other.column < line.column).map (fun other => other.entry.id) =
          line.entry.parent? ∧
        ParentsNearest (line :: seen) rest

theorem parentsNearest_append {seen front back : List Line} :
    ParentsNearest seen (front ++ back) ↔
      ParentsNearest seen front ∧ ParentsNearest (front.reverse ++ seen) back := by
  induction front generalizing seen with
  | nil => simp [ParentsNearest]
  | cons line front inductionHypothesis =>
      rw [List.cons_append, ParentsNearest, ParentsNearest, inductionHypothesis, and_assoc,
        List.reverse_cons, List.append_assoc, List.singleton_append]

/-- Only how columns compare matters. -/
theorem ParentsNearest.behind {seen lines : List Line} (front : Text)
    (nearest : ParentsNearest seen lines) :
    ParentsNearest (seen.map (Line.behind front)) (lines.map (Line.behind front)) := by
  induction lines generalizing seen with
  | nil => trivial
  | cons line rest inductionHypothesis =>
      obtain ⟨atLine, below⟩ := nearest
      refine ⟨?_, inductionHypothesis below⟩
      rw [List.find?_map, Option.map_map]
      simpa [Function.comp_def] using atLine

/-- What stands in front of the root and where the root stands does not matter to lines
that are all further right. -/
theorem ParentsNearest.replace_root (seen more : List Line) {lines : List Line} {root other : Line}
    (nearest : ParentsNearest (seen ++ [root]) lines) (sameNode : other.entry = root.entry)
    (right : ∀ line ∈ lines, root.column < line.column ∧ other.column < line.column) :
    ParentsNearest (seen ++ other :: more) lines := by
  induction lines generalizing seen with
  | nil => trivial
  | cons line rest inductionHypothesis =>
      obtain ⟨atLine, below⟩ := nearest
      rw [List.forall_mem_cons] at right
      refine ⟨?_, inductionHypothesis (line :: seen) below right.2⟩
      rw [← atLine, List.find?_append, List.find?_append,
        List.find?_cons_of_pos (by simpa using right.1.2),
        List.find?_cons_of_pos (by simpa using right.1.1)]
      cases seen.find? _ with
      | none => exact congrArg (fun entry => some entry.id) sameNode
      | some found => rfl

theorem find?_root {others : List Line} {root : Line} {column : Nat}
    (left : root.column < column) (right : ∀ other ∈ others, column ≤ other.column) :
    (others ++ [root]).find? (fun other => other.column < column) = some root := by
  have passed : others.find? (fun other => other.column < column) = none := by
    rw [List.find?_eq_none]
    intro other member
    simpa using right other member
  rw [List.find?_append, passed, List.find?_cons_of_pos (by simpa using left)]
  rfl

/-- In a block the first line stays the nearest one further left for the lines below it. -/
theorem parentsNearest_block {lines : List Line} {root : Line} (seen : List Line)
    (positive : 0 < indentation) (within : index < count)
    (nearest : ParentsNearest [root] lines)
    (deeper : ∀ line ∈ lines, root.column + 1 < line.column) :
    ParentsNearest (root.behind (opening indentation count index) :: seen)
      (lines.map (Line.behind (hanging indentation count index))) := by
  refine (nearest.behind (hanging indentation count index)).replace_root [] seen rfl ?_
  intro line member
  obtain ⟨inner, isInner, rfl⟩ := List.mem_map.mp member
  have further := deeper inner isInner
  rw [Line.column_behind, Line.column_behind, Line.column_behind, length_hanging,
    length_opening positive within]
  constructor
  · omega
  · split <;> omega

mutual

theorem parentsNearest_drawing : ∀ (tree : Tree) (parent? : Option Nat) (first : Nat),
    0 < indentation →
    ParentsNearest [⟨[], ⟨first, parent?, tree⟩⟩]
      (drawingAll indentation tree.children.length first 0 (first + 1) tree.children)
  | .node _ _ _ children, _, _, positive =>
      parentsNearest_drawingAll children _ 0 _ [] _ positive (Nat.zero_add _).le rfl
        fun _ member => absurd member List.not_mem_nil

/-- The lines of the blocks behind the parent's line and those of earlier blocks. -/
theorem parentsNearest_drawingAll : ∀ (trees : List Tree) (count index first : Nat)
    (others : List Line) (root : Line),
    0 < indentation → index + trees.length ≤ count → root.column = 0 →
    (∀ other ∈ others, index ≠ 0 ∧ step indentation count ≤ other.column) →
    ParentsNearest (others ++ [root])
      (drawingAll indentation count root.entry.id index first trees)
  | [], _, _, _, _, _, _, _, _, _ => by
      unfold drawingAll
      trivial
  | tree :: later, count, index, first, others, root, positive, within, atMargin, right => by
      rw [List.length_cons] at within
      have hasNumber : index < count := by omega
      unfold drawingAll
      rw [parentsNearest_append]
      constructor
      · rw [drawing_eq_cons, blockLines]
        constructor
        · rw [find?_root]
          · rfl
          · rw [atMargin, Line.column_behind, length_opening positive hasNumber]
            unfold step
            omega
          · -- earlier blocks are not further left, and behind them no stroke moves a line
            intro other member
            obtain ⟨notFirst, further⟩ := right other member
            rw [Line.column_behind, length_opening positive hasNumber,
              if_neg fun both => notFirst both.1]
            exact further
        · apply parentsNearest_block _ positive hasNumber
            (parentsNearest_drawing tree _ first positive)
          intro line member
          have further := step_le_column positive (Nat.zero_add _).le line member
          unfold step at further
          show 0 + 1 < line.column
          omega
      · rw [← List.append_assoc]
        apply parentsNearest_drawingAll later count (index + 1) _ _ root positive (by omega) atMargin
        intro other member
        refine ⟨Nat.succ_ne_zero index, ?_⟩
        rcases List.mem_append.mp member with isBlock | isOther
        · exact step_le_column_blockLines tree positive hasNumber other (List.mem_reverse.mp isBlock)
        · exact (right other isOther).2

end

/-! ## Whole views -/

/-- The lines of the view of a tree. -/
def viewLines (indentation : Nat) (tree : Tree) : List Line :=
  drawing indentation none 0 tree

theorem viewLines_eq_cons (tree : Tree) :
    viewLines indentation tree =
      ⟨[], ⟨0, none, tree⟩⟩ ::
        drawingAll indentation tree.children.length 0 0 1 tree.children :=
  drawing_eq_cons tree

theorem map_entry_viewLines (tree : Tree) :
    (viewLines indentation tree).map Line.entry = Digraph.numbered tree :=
  map_entry_drawing tree none 0

theorem nodup_id_viewLines (tree : Tree) :
    ((viewLines indentation tree).map fun line => line.entry.id).Nodup := by
  have numbers : (viewLines indentation tree).map (Entry.id ∘ Line.entry) =
      List.range' 0 tree.size := by
    rw [← List.map_map, map_entry_viewLines]
    exact Digraph.map_id_entries tree none 0
  show ((viewLines indentation tree).map (Entry.id ∘ Line.entry)).Nodup
  rw [numbers]
  exact List.nodup_range'

/-- The line of a parent is one, so its children are described at one column from it. -/
theorem column_of_parent? {tree : Tree} {line parent : Line} (positive : 0 < indentation)
    (member : line ∈ viewLines indentation tree)
    (parentMember : parent ∈ viewLines indentation tree)
    (isParent : line.entry.parent? = some parent.entry.id) :
    line.column + stroke indentation parent.entry =
      parent.column + step indentation parent.entry.node.children.length +
        stroke indentation line.entry := by
  have one {other : Line} (otherMember : other ∈ viewLines indentation tree)
      (otherIsParent : line.entry.parent? = some other.entry.id) : other = parent := by
    have sameId : other.entry.id = parent.entry.id := by
      rw [← Option.some.injEq, ← otherIsParent, isParent]
    exact List.inj_on_of_nodup_map (nodup_id_viewLines tree) otherMember parentMember sameId
  have alike := member
  rw [viewLines_eq_cons, List.mem_cons] at alike
  rcases alike with rfl | below
  · cases isParent
  rcases aligned_drawing tree none 0 positive line below with
    ⟨atRoot, column⟩ | ⟨other, otherBelow, otherIsParent, column⟩
  · have isRoot := one (viewLines_eq_cons tree ▸ List.mem_cons_self) atRoot
    subst isRoot
    have atMargin : (⟨[], ⟨0, none, tree⟩⟩ : Line).column = 0 := rfl
    have noStroke : stroke indentation ⟨0, none, tree⟩ = 0 := if_neg (by simp)
    dsimp only
    rw [column, atMargin, noStroke, Nat.add_zero, Nat.zero_add]
  · rw [← one (viewLines_eq_cons tree ▸ List.mem_cons_of_mem _ otherBelow) otherIsParent]
    exact column

theorem parentsNearest_viewLines (tree : Tree) (positive : 0 < indentation) :
    ParentsNearest [] (viewLines indentation tree) := by
  rw [viewLines_eq_cons]
  exact ⟨rfl, parentsNearest_drawing tree none 0 positive⟩

/-- A view has one line for each node, numbered in pre-order, and each ends with the
description of its node. The descriptions of siblings start in one column to the right of
their parent's, except that at an indentation of one column the first of them, which is
numbered right behind the parent, starts a column further right. The parent of a node is
the nearest earlier one whose description starts further left. -/
theorem view_shows_tree (tree : Tree) (indentation : Nat) (positive : 0 < indentation)
    (unbroken : LabelsUnbroken tree.nodes) :
    Text.lines (draw (plain indentation) tree) = (viewLines indentation tree).map Line.text ∧
      (viewLines indentation tree).length = tree.size ∧
      (viewLines indentation tree).map (fun line => line.entry.node) = tree.nodes ∧
      (viewLines indentation tree).map Line.entry = Digraph.numbered tree ∧
      (∀ parent ∈ viewLines indentation tree, ∃ column, parent.column < column ∧
        ∀ line ∈ viewLines indentation tree, line.entry.parent? = some parent.entry.id →
          line.column =
            column + if indentation = 1 ∧ line.entry.id = parent.entry.id + 1 then 1 else 0) ∧
      ∀ (earlier : List Line) (line : Line) (later : List Line),
        viewLines indentation tree = earlier ++ line :: later →
        (earlier.reverse.find? fun other => other.column < line.column).map
          (fun other => other.entry.id) = line.entry.parent? := by
  have nodes : (viewLines indentation tree).map (fun line => line.entry.node) = tree.nodes := by
    rw [← Digraph.map_node_entries tree none 0, ← map_entry_drawing tree none 0, List.map_map]
    rfl
  refine ⟨lines_draw tree none 0 unbroken, ?_, nodes, map_entry_viewLines tree, ?_, ?_⟩
  · rw [← Tree.length_nodes, ← nodes, List.length_map]
  · intro parent parentMember
    have narrow : stroke indentation parent.entry ≤ 1 := stroke_le_one parent.entry
    have wide : 2 < step indentation parent.entry.node.children.length := by
      unfold step
      omega
    refine ⟨parent.column + step indentation parent.entry.node.children.length -
      stroke indentation parent.entry, by omega, fun line member isParent => ?_⟩
    have column := column_of_parent? positive member parentMember isParent
    rw [stroke_of_parent isParent] at column
    omega
  · intro earlier line later split
    have nearest := parentsNearest_viewLines tree positive
    rw [split, parentsNearest_append, List.append_nil] at nearest
    exact nearest.2.1

/-- Nodes of all kinds, with blocks that are closed and one that goes on. -/
def branched : Tree :=
  .ofRule "<S>".toList
    [.leaf "x".toList, .ofRule "<c>".toList [.ofMatch "k='v'".toList ["k".toList]],
      .leaf "a\nb".toList]

theorem branched_view :
    0 < 2 ∧ LabelsUnbroken branched.nodes ∧
      Text.lines (draw {} branched) =
        ["Rule <S>".toList, "└─0: Leaf 'x'".toList, "  1: Rule <c>".toList,
          "  │  └─0: Leaf 'k=\\'v\\''".toList, "  │       └─0: Capture 'k'".toList,
          "  2: Leaf 'a\\nb'".toList] ∧
      (viewLines 2 branched).map Line.column = [0, 5, 5, 10, 15, 5] := by
  have unbroken : LabelsUnbroken branched.nodes := by
    unfold LabelsUnbroken
    decide
  obtain ⟨lines, -, -, -, -, -⟩ := view_shows_tree branched 2 (by decide) unbroken
  refine ⟨by decide, unbroken, ?_, rfl⟩
  show Text.lines (draw (plain 2) branched) = _
  rw [lines]
  decide +kernel

/-- Two leaves below a root. -/
def twoLeaves : Tree :=
  .ofRule "<S>".toList [.leaf ['x'], .leaf ['y']]

/-- At an indentation of one column, two siblings are described in different columns. -/
theorem twoLeaves_misaligned :
    0 < 1 ∧ LabelsUnbroken twoLeaves.nodes ∧
      Text.lines (draw (plain 1) twoLeaves) =
        ["Rule <S>".toList, "└─0: Leaf 'x'".toList, " 1: Leaf 'y'".toList] ∧
      (viewLines 1 twoLeaves).map (fun line => (line.entry.parent?, line.column)) =
        [(none, 0), (some 0, 5), (some 0, 4)] := by
  have unbroken : LabelsUnbroken twoLeaves.nodes := by
    unfold LabelsUnbroken
    decide
  exact ⟨by decide, unbroken, by decide +kernel, rfl⟩

end BnfParsing.View
