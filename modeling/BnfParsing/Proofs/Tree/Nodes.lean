import BnfParsing.Tree.Basic

/-!
Contract: the nodes of a tree and the texts of its leaves, in the order of the
tree.

Owns: both lists, and what they are for the nodes that a derivation builds.

Does not own: walks and paths, which visit and select nodes.
-/

set_option autoImplicit false

namespace BnfParsing.Tree

mutual

/-- Every node of the tree: the root, then those of its subtrees. -/
def nodes : Tree → List Tree
  | .node kind token value children =>
      .node kind token value children :: nodesAll children

/-- The nodes of several trees. -/
def nodesAll : List Tree → List Tree
  | [] => []
  | tree :: rest => tree.nodes ++ nodesAll rest

end

mutual

/-- The texts of the leaves. Captures are not leaves, and say nothing. -/
def leafTexts : Tree → List Text
  | .node kind token _ children =>
      (if kind = .leaf then [token] else []) ++ leafTextsAll children

/-- The texts of the leaves of several trees. -/
def leafTextsAll : List Tree → List Text
  | [] => []
  | tree :: rest => tree.leafTexts ++ leafTextsAll rest

end

theorem nodes_ofRule (name : Text) (children : List Tree) :
    (ofRule name children).nodes = ofRule name children :: nodesAll children := rfl

theorem self_mem_nodes (tree : Tree) : tree ∈ tree.nodes := by
  cases tree
  exact List.mem_cons_self

theorem mem_nodesAll {node : Tree} {trees : List Tree} :
    node ∈ nodesAll trees ↔ ∃ tree ∈ trees, node ∈ tree.nodes := by
  induction trees with
  | nil => simp [nodesAll]
  | cons tree rest inductionHypothesis =>
      simp [nodesAll, inductionHypothesis]

mutual

/-- The nodes of a subtree are nodes of the tree. -/
theorem nodes_subset {node : Tree} : ∀ {tree : Tree}, node ∈ tree.nodes → node.nodes ⊆ tree.nodes
  | .node _ _ _ _, member => by
      rcases List.mem_cons.mp member with rfl | inside
      · exact List.Subset.refl _
      · exact List.subset_cons_of_subset _ (nodes_subset_nodesAll inside)

theorem nodes_subset_nodesAll {node : Tree} :
    ∀ {trees : List Tree}, node ∈ nodesAll trees → node.nodes ⊆ nodesAll trees
  | _ :: _, member => by
      rcases List.mem_append.mp member with inFirst | inOthers
      · exact List.subset_append_of_subset_left _ (nodes_subset inFirst)
      · exact List.subset_append_of_subset_right _ (nodes_subset_nodesAll inOthers)

end

mutual

/-- What is said at the leaves is said by some leaf. -/
theorem exists_leaf_of_mem_leafTexts {text : Text} : ∀ {tree : Tree}, text ∈ tree.leafTexts →
    ∃ leaf ∈ tree.nodes, leaf.kind = .leaf ∧ leaf.token = text
  | .node kind token value children, member => by
      rcases List.mem_append.mp member with own | below
      · by_cases isLeaf : kind = .leaf
        · rw [if_pos isLeaf, List.mem_singleton] at own
          exact ⟨.node kind token value children, List.mem_cons_self, isLeaf, own.symm⟩
        · rw [if_neg isLeaf] at own
          exact absurd own List.not_mem_nil
      · obtain ⟨leaf, inside, facts⟩ := exists_leaf_of_mem_leafTextsAll below
        exact ⟨leaf, List.mem_cons_of_mem _ inside, facts⟩

theorem exists_leaf_of_mem_leafTextsAll {text : Text} :
    ∀ {trees : List Tree}, text ∈ leafTextsAll trees →
      ∃ leaf ∈ nodesAll trees, leaf.kind = .leaf ∧ leaf.token = text
  | _ :: _, member => by
      rcases List.mem_append.mp member with inFirst | inOthers
      · obtain ⟨leaf, inside, facts⟩ := exists_leaf_of_mem_leafTexts inFirst
        exact ⟨leaf, List.mem_append_left _ inside, facts⟩
      · obtain ⟨leaf, inside, facts⟩ := exists_leaf_of_mem_leafTextsAll inOthers
        exact ⟨leaf, List.mem_append_right _ inside, facts⟩

end

/-- Neither a leaf nor the groups found in it are rules. -/
theorem kind_of_mem_nodes_ofMatch {node : Tree} {text : Text} {groups : List Text}
    (member : node ∈ (ofMatch text groups).nodes) : node.kind ≠ .rule := by
  simp only [ofMatch, nodes, List.mem_cons, mem_nodesAll, List.mem_map] at member
  rcases member with rfl | ⟨tree, ⟨group, grouped, rfl⟩, inside⟩
  · simp [kind]
  · simp only [nodes, nodesAll, List.mem_singleton] at inside
    subst inside
    simp [kind]

theorem kind_of_mem_nodes_leaf {node : Tree} {text : Text} (member : node ∈ (leaf text).nodes) :
    node.kind ≠ .rule :=
  @kind_of_mem_nodes_ofMatch node text [] member

@[simp]
theorem leafTexts_ofRule (name : Text) (children : List Tree) :
    (ofRule name children).leafTexts = leafTextsAll children := rfl

@[simp]
theorem leafTexts_ofMatch (text : Text) (groups : List Text) :
    (ofMatch text groups).leafTexts = [text] := by
  have silent : ∀ groups : List Text,
      leafTextsAll (groups.map fun group => .node .capture group none []) = [] := by
    intro groups
    induction groups with
    | nil => rfl
    | cons group groups inductionHypothesis =>
        simpa [leafTextsAll, leafTexts] using inductionHypothesis
  simp [ofMatch, leafTexts, silent]

@[simp]
theorem leafTexts_leaf (text : Text) : (leaf text).leafTexts = [text] := rfl

end BnfParsing.Tree
