import BnfParsing.Proofs.Tree.Notices
import BnfParsing.Tree.Format
import Mathlib.Data.List.Range

/-!
Contract: the statements of a digraph are the nodes and the edges of the tree.

The writer knows neither parents nor children. It counts the nodes it is told of
and keeps the numbers of those that have not been left. What keeps this right is
that the walk of a subtree leaves this list as it found it.

Owns:
- the nodes of a tree in pre-order, each with its number and that of its parent;
- the lines that are written for a node;
- the state after a walk, from any state;
- which nodes name a number as that of their parent.

Does not own: which labels are written alike.
-/

set_option autoImplicit false

namespace BnfParsing.Digraph

/-- A node with its number and, below the root, that of its parent. -/
structure Entry where
  id : Nat
  parent? : Option Nat
  node : Tree

mutual

/-- The nodes of a tree in pre-order, numbered from `first`. -/
def entries (parent? : Option Nat) (first : Nat) : Tree → List Entry
  | .node kind token value children =>
      ⟨first, parent?, .node kind token value children⟩ :: entriesAll first (first + 1) children

/-- The nodes of several trees below one parent. -/
def entriesAll (parent first : Nat) : List Tree → List Entry
  | [] => []
  | tree :: others =>
      entries (some parent) first tree ++ entriesAll parent (first + tree.size) others

end

/-- The statement about a node, and the one about the edge to it. -/
def Entry.statements (entry : Entry) : List Statement :=
  .node entry.id entry.node.kind entry.node.label ::
    entry.parent?.toList.map fun parent => .edge parent entry.id

/-- The nodes of a whole tree with their numbers. -/
def numbered (tree : Tree) : List Entry :=
  entries none 0 tree

/-! ## Lines -/

/-- A label inside quotes, character by character. -/
def quotedLabel (label : Text) : Text :=
  label.flatMap fun character =>
    if character = '\\' then ['\\', '\\']
    else if character = '"' then "&quot;".toList
    else [character]

/-- The attributes that show the kind of a node. -/
def kindAttributes : NodeKind → Text
  | .rule => "fontcolor=\"white\",style=\"filled\",fillcolor=\"blue\",shape=\"oval\"".toList
  | .leaf => "fontcolor=\"black\",style=\"filled\",fillcolor=\"white\",shape=\"rect\"".toList
  | .capture =>
      "fontcolor=\"black\",style=\"filled\",fillcolor=\"lightgrey\",shape=\"note\"".toList

/-- The line about a node: its number, the attributes of its kind, and its label. -/
def nodeLine (id : Nat) (kind : NodeKind) (label : Text) : Text :=
  "  ".toList ++ Nat.toDigits 10 id ++ " [".toList ++ kindAttributes kind ++ ",label=\"".toList
    ++ quotedLabel label ++ "\"];\n".toList

/-- The line about the edge to a node from its parent. -/
def edgeLine (parent id : Nat) : Text :=
  "  ".toList ++ Nat.toDigits 10 parent ++ " -> ".toList ++ Nat.toDigits 10 id ++ ";\n".toList

/-- The line about a node and, directly behind it, the one about the edge to it. -/
def Entry.lines (entry : Entry) : Text :=
  nodeLine entry.id entry.node.kind entry.node.label ++
    match entry.parent? with
    | none => []
    | some parent => edgeLine parent entry.id

theorem escape_eq_quotedLabel (label : Text) : escape label = quotedLabel label := by
  induction label with
  | nil => rfl
  | cons character rest inductionHypothesis =>
      rw [quotedLabel, List.flatMap_cons, ← quotedLabel, ← inductionHypothesis]
      unfold escape Text.replaceChar
      rw [List.flatMap_cons, List.flatMap_append]
      by_cases isBackslash : character = '\\'
      · rw [if_pos isBackslash, if_pos isBackslash]
        rfl
      · rw [if_neg isBackslash, if_neg isBackslash, List.flatMap_singleton]

/-- The attributes are those of the style, one after the other. -/
theorem attributes_append (kind : NodeKind) (rest : Text) :
    " [".toList ++ (kindAttributes kind ++ (",label=\"".toList ++ rest)) =
      " [fontcolor=\"".toList ++ ((style kind).1 ++ ("\",style=\"filled\",fillcolor=\"".toList ++
        ((style kind).2.1 ++ ("\",shape=\"".toList ++ ((style kind).2.2 ++
          ("\",label=\"".toList ++ rest)))))) := by
  cases kind <;> rfl

theorem text_node (id : Nat) (kind : NodeKind) (label : Text) :
    (Statement.node id kind label).text = nodeLine id kind label := by
  unfold nodeLine Statement.text
  rw [← escape_eq_quotedLabel]
  simp only [List.append_assoc]
  rw [attributes_append]
  rfl

theorem text_edge (parent id : Nat) : (Statement.edge parent id).text = edgeLine parent id := rfl

theorem text_statements (entry : Entry) :
    entry.statements.flatMap Statement.text = entry.lines := by
  unfold Entry.statements Entry.lines
  rw [List.flatMap_cons, text_node]
  cases entry.parent? with
  | none => rfl
  | some parent =>
      show _ ++ ((Statement.edge parent entry.id).text ++ []) = _
      rw [List.append_nil, text_edge]

variable {parent? : Option Nat} {parent first : Nat}

theorem entries_eq_cons (parent? : Option Nat) (first : Nat) (tree : Tree) :
    entries parent? first tree =
      ⟨first, parent?, tree⟩ :: entriesAll first (first + 1) tree.children := by
  cases tree
  rfl

/-! ## Numbers and nodes -/

mutual

theorem map_node_entries : ∀ (tree : Tree) (parent? : Option Nat) (first : Nat),
    (entries parent? first tree).map Entry.node = tree.nodes
  | .node kind token value children, parent?, first => by
      unfold entries Tree.nodes
      rw [List.map_cons, map_node_entriesAll children first (first + 1)]

theorem map_node_entriesAll : ∀ (trees : List Tree) (parent first : Nat),
    (entriesAll parent first trees).map Entry.node = Tree.nodesAll trees
  | [], _, _ => rfl
  | tree :: others, parent, first => by
      unfold entriesAll Tree.nodesAll
      rw [List.map_append, map_node_entries tree, map_node_entriesAll others]

end

theorem length_entries (tree : Tree) (parent? : Option Nat) (first : Nat) :
    (entries parent? first tree).length = tree.size := by
  rw [← Tree.length_nodes, ← map_node_entries tree parent? first, List.length_map]

mutual

theorem map_id_entries : ∀ (tree : Tree) (parent? : Option Nat) (first : Nat),
    (entries parent? first tree).map Entry.id = List.range' first tree.size
  | .node kind token value children, parent?, first => by
      unfold entries Tree.size
      rw [List.map_cons, map_id_entriesAll children first (first + 1), Nat.add_comm 1,
        List.range'_succ]

theorem map_id_entriesAll : ∀ (trees : List Tree) (parent first : Nat),
    (entriesAll parent first trees).map Entry.id = List.range' first (Tree.sizeAll trees)
  | [], _, _ => rfl
  | tree :: others, parent, first => by
      unfold entriesAll Tree.sizeAll
      rw [List.map_append, map_id_entries tree, map_id_entriesAll others,
        List.range'_append_1]

end

theorem id_of_mem_entries {tree : Tree} {entry : Entry}
    (member : entry ∈ entries parent? first tree) :
    first ≤ entry.id ∧ entry.id < first + tree.size := by
  have listed : entry.id ∈ (entries parent? first tree).map Entry.id :=
    List.mem_map_of_mem member
  rwa [map_id_entries, List.mem_range'_1] at listed

theorem id_of_mem_entriesAll {trees : List Tree} {entry : Entry}
    (member : entry ∈ entriesAll parent first trees) :
    first ≤ entry.id ∧ entry.id < first + Tree.sizeAll trees := by
  have listed : entry.id ∈ (entriesAll parent first trees).map Entry.id :=
    List.mem_map_of_mem member
  rwa [map_id_entriesAll, List.mem_range'_1] at listed

/-! ## The walk -/

/-- The state after the statements about some nodes, all of which have been left. -/
def State.after (state : State) (written : List Entry) : State where
  statements := (written.flatMap Entry.statements).reverse ++ state.statements
  ancestors := state.ancestors
  nodeCount := state.nodeCount + written.length

theorem State.after_append (state : State) (earlier later : List Entry) :
    state.after (earlier ++ later) = (state.after earlier).after later := by
  unfold State.after
  rw [List.flatMap_append, List.reverse_append, List.append_assoc, List.length_append,
    Nat.add_assoc]

/-- The state after the statements about a node that is now the nearest ancestor. -/
def State.opened (state : State) (entry : Entry) : State :=
  { state.after [entry] with ancestors := entry.id :: state.ancestors }

theorem visit_writer (tree : Tree) (state : State) :
    writer.visitor.visit tree state =
      (state.opened ⟨state.nodeCount, state.ancestors.head?, tree⟩, none) := by
  obtain ⟨statements, ancestors, nodeCount⟩ := state
  cases ancestors <;> rfl

/-- Leaving a node after those below it gives back the ancestors from before its visit. -/
theorem pop_writer (state : State) (entry : Entry) (inside : List Entry) :
    writer.visitor.pop ((state.opened entry).after inside) = state.after (entry :: inside) :=
  (state.after_append [entry] inside).symm

mutual

theorem prefixWalk_writer : ∀ (tree : Tree) (state : State),
    tree.prefixWalk writer.visitor state =
      (state.after (entries state.ancestors.head? state.nodeCount tree), none)
  | .node kind token value children, state => by
      unfold Tree.prefixWalk entries
      simp only [visit_writer]
      rw [prefixWalkAll_writer children (state.opened _) rfl]
      exact congrArg (·, none) (pop_writer state _ _)

/-- The walks of several trees below the nearest ancestor. -/
theorem prefixWalkAll_writer : ∀ (trees : List Tree) (state : State) {parent : Nat},
    state.ancestors.head? = some parent →
    Tree.prefixWalkAll writer.visitor trees state =
      (state.after (entriesAll parent state.nodeCount trees), none)
  | [], state, parent, nearest => by
      obtain ⟨statements, ancestors, nodeCount⟩ := state
      rfl
  | tree :: others, state, parent, nearest => by
      unfold Tree.prefixWalkAll entriesAll
      have counted : (state.after (entries (some parent) state.nodeCount tree)).nodeCount =
          state.nodeCount + tree.size :=
        congrArg (state.nodeCount + ·) (length_entries tree _ _)
      rw [prefixWalk_writer tree state, nearest, State.after_append, ← counted]
      exact prefixWalkAll_writer others _ nearest

end

/-! ## Parents -/

/-- The nodes that name a number as that of their parent. -/
def below (id : Nat) (entries : List Entry) : List Tree :=
  (entries.filter fun entry => entry.parent? = some id).map Entry.node

theorem below_append (id : Nat) (earlier later : List Entry) :
    below id (earlier ++ later) = below id earlier ++ below id later := by
  unfold below
  rw [List.filter_append, List.map_append]

theorem below_cons_of_ne {id : Nat} {entry : Entry} (differs : entry.parent? ≠ some id)
    (later : List Entry) : below id (entry :: later) = below id later := by
  unfold below
  rw [List.filter_cons_of_neg (by simpa using differs)]

mutual

/-- A number that is neither that of the parent nor given out names no parent. -/
theorem below_entries_eq_nil {id : Nat} : ∀ (tree : Tree) (parent? : Option Nat) (first : Nat),
    parent? ≠ some id → id < first ∨ first + tree.size ≤ id →
    below id (entries parent? first tree) = []
  | .node kind token value children, parent?, first, differs, outside => by
      unfold Tree.size at outside
      unfold entries
      rw [below_cons_of_ne differs]
      exact below_entriesAll_eq_nil children first (first + 1) (by omega) (by omega)

theorem below_entriesAll_eq_nil {id : Nat} : ∀ (trees : List Tree) (parent first : Nat),
    id ≠ parent → id < first ∨ first + Tree.sizeAll trees ≤ id →
    below id (entriesAll parent first trees) = []
  | [], _, _, _, _ => rfl
  | tree :: others, parent, first, differs, outside => by
      unfold Tree.sizeAll at outside
      unfold entriesAll
      rw [below_append,
        below_entries_eq_nil tree (some parent) first (by simpa using differs.symm) (by omega),
        below_entriesAll_eq_nil others parent _ differs (by omega), List.append_nil]

end

theorem below_entriesAll_parent : ∀ (trees : List Tree) (parent first : Nat), parent < first →
    below parent (entriesAll parent first trees) = trees
  | [], _, _, _ => rfl
  | tree :: others, parent, first, above => by
      have own : below parent (entries (some parent) first tree) = [tree] := by
        have deeper : below parent (entriesAll first (first + 1) tree.children) = [] :=
          below_entriesAll_eq_nil tree.children first _ (by omega) (by omega)
        rw [entries_eq_cons, ← List.singleton_append, below_append, deeper]
        simp [below]
      unfold entriesAll
      rw [below_append, own, below_entriesAll_parent others parent _ (by omega)]
      rfl

mutual

theorem below_entries_of_mem : ∀ (tree : Tree) (parent? : Option Nat) (first : Nat),
    (∀ parent ∈ parent?, parent < first) → ∀ entry ∈ entries parent? first tree,
    below entry.id (entries parent? first tree) = entry.node.children
  | .node kind token value children, parent?, first, above, entry, member => by
      have rootAside : parent? ≠ some entry.id := by
        intro same
        have numbered := id_of_mem_entries member
        have := above entry.id same
        omega
      unfold entries at member ⊢
      rw [below_cons_of_ne rootAside]
      rcases List.mem_cons.mp member with rfl | inside
      · exact below_entriesAll_parent children first (first + 1) (by omega)
      · exact below_entriesAll_of_mem children first (first + 1) (by omega) entry inside

theorem below_entriesAll_of_mem : ∀ (trees : List Tree) (parent first : Nat), parent < first →
    ∀ entry ∈ entriesAll parent first trees,
    below entry.id (entriesAll parent first trees) = entry.node.children
  | [], _, _, _, _, member => by
      unfold entriesAll at member
      exact absurd member List.not_mem_nil
  | tree :: others, parent, first, above, entry, member => by
      unfold entriesAll at member ⊢
      rw [below_append]
      rcases List.mem_append.mp member with inTree | inOthers
      · have numbered := id_of_mem_entries inTree
        rw [below_entries_of_mem tree (some parent) first (by simpa using above) entry inTree,
          below_entriesAll_eq_nil others parent _ (by omega) (by omega), List.append_nil]
      · have numbered := id_of_mem_entriesAll inOthers
        have aside : below entry.id (entries (some parent) first tree) = [] :=
          below_entries_eq_nil tree (some parent) first (by simp; omega) (by omega)
        rw [aside, below_entriesAll_of_mem others parent _ (by omega) entry inOthers,
          List.nil_append]

end

mutual

theorem isSome_parent?_of_mem_entries : ∀ (tree : Tree) (parent? : Option Nat) (first : Nat),
    parent?.isSome → ∀ entry ∈ entries parent? first tree, entry.parent?.isSome
  | .node kind token value children, parent?, first, given, entry, member => by
      unfold entries at member
      rcases List.mem_cons.mp member with rfl | inside
      · exact given
      · exact isSome_parent?_of_mem_entriesAll children first (first + 1) entry inside

theorem isSome_parent?_of_mem_entriesAll : ∀ (trees : List Tree) (parent first : Nat),
    ∀ entry ∈ entriesAll parent first trees, entry.parent?.isSome
  | [], _, _, _, member => by
      unfold entriesAll at member
      exact absurd member List.not_mem_nil
  | tree :: others, parent, first, entry, member => by
      unfold entriesAll at member
      rcases List.mem_append.mp member with inTree | inOthers
      · exact isSome_parent?_of_mem_entries tree (some parent) first rfl entry inTree
      · exact isSome_parent?_of_mem_entriesAll others parent _ entry inOthers

end

/-- Only the root has no parent. -/
theorem filter_parent?_numbered (tree : Tree) :
    (numbered tree).filter (fun entry => entry.parent? = none) = [⟨0, none, tree⟩] := by
  have deeper : (entriesAll 0 1 tree.children).filter (fun entry => entry.parent? = none) = [] := by
    rw [List.filter_eq_nil_iff]
    intro entry member orphan
    have parented := isSome_parent?_of_mem_entriesAll tree.children 0 1 entry member
    rw [of_decide_eq_true orphan] at parented
    contradiction
  unfold numbered
  rw [entries_eq_cons, List.filter_cons_of_pos (by simp), deeper]

/-! ## Whole graphs -/

theorem render_dot_eq (tree : Tree) :
    Format.dot.render tree =
      "# File auto-generated by bnf-interp\n\ndigraph G \x7b\n".toList
        ++ ((numbered tree).flatMap Entry.statements).flatMap Statement.text
        ++ "\x7d\n".toList := by
  have walked : writer.after {} tree = State.after {} (numbered tree) := by
    unfold Writer.after
    exact congrArg Prod.fst (prefixWalk_writer tree {})
  show writer.text (writer.after {} tree) = _
  rw [walked]
  show _ ++ ((((numbered tree).flatMap Entry.statements).reverse ++ []).reverse.flatMap
    Statement.text) ++ _ = _
  rw [List.append_nil, List.reverse_reverse]

/-- A rendered digraph has, for each node in pre-order, numbered from zero, the line about
the node and, after every node but the root, the line about the edge from its parent. The
nodes whose edges come from a node are its children in their order, so there is one edge
less than there are nodes. -/
theorem rendered_graph_is_tree (tree : Tree) :
    Format.dot.render tree =
        "# File auto-generated by bnf-interp\n\ndigraph G \x7b\n".toList
          ++ (numbered tree).flatMap Entry.lines
          ++ "\x7d\n".toList ∧
      (numbered tree).map Entry.node = tree.nodes ∧
      (numbered tree).map Entry.id = List.range tree.size ∧
      (numbered tree).filter (fun entry => entry.parent? = none) = [⟨0, none, tree⟩] ∧
      (∀ entry ∈ numbered tree,
        ((numbered tree).filter fun other => other.parent? = some entry.id).map Entry.node =
          entry.node.children) ∧
      (numbered tree).length = tree.size ∧
      (numbered tree).countP (fun entry => entry.parent?.isSome) + 1 = tree.size := by
  have counted : (numbered tree).length = tree.size := length_entries tree none 0
  refine ⟨?_, map_node_entries tree none 0, ?_, filter_parent?_numbered tree, ?_, counted, ?_⟩
  · rw [render_dot_eq, List.flatMap_assoc]
    simp only [text_statements]
  · rw [List.range_eq_range']
    exact map_id_entries tree none 0
  · exact below_entries_of_mem tree none 0 (by simp)
  · have split : numbered tree = ⟨0, none, tree⟩ :: entriesAll 0 1 tree.children :=
      entries_eq_cons none 0 tree
    have parented : (entriesAll 0 1 tree.children).countP (fun entry => entry.parent?.isSome) =
        (entriesAll 0 1 tree.children).length :=
      List.countP_eq_length.mpr (isSome_parent?_of_mem_entriesAll tree.children 0 1)
    rw [← counted, split, List.countP_cons_of_neg (by simp), parented, List.length_cons]

end BnfParsing.Digraph
