import BnfParsing.Proofs.Tree.Selection

/-!
Contract: paths are followed as long as no word is missing.

The counter of a name has a successor in every tree that a memory can hold. What is left
is the position of a segment, which is read from the path.

Owns:
- when a path fails, in terms of its text and the siblings it comes to;
- trees in which no counter runs out, and the paths that do not fail there.

Does not own: which nodes a path selects.
-/

set_option autoImplicit false

namespace BnfParsing.Path

/-- Each name can be counted: no name is that of as many siblings as there are words, where
its counter would have no successor. -/
def Countable (siblings : List Tree) : Prop :=
  ∀ name, countNamed name siblings < UInt64.size

theorem Countable.of_length {siblings : List Tree} (fits : siblings.length < UInt64.size) :
    Countable siblings :=
  fun _ => List.countP_le_length.trans_lt fits

/-- Siblings can be counted, and so can all children below them. -/
structure Narrow (siblings : List Tree) : Prop where
  here : Countable siblings
  below : ∀ node ∈ Tree.nodesAll siblings, Countable node.children

theorem Narrow.single {tree : Tree} (fits : ∀ node ∈ tree.nodes, Countable node.children) :
    Narrow [tree] where
  here := .of_length (show 1 < UInt64.size by decide)
  below node member := fits node (by simpa [Tree.nodesAll] using member)

theorem Narrow.children {siblings : List Tree} {tree : Tree} (narrow : Narrow siblings)
    (member : tree ∈ siblings) : Narrow tree.children := by
  have inside : ∀ node ∈ tree.nodes, node ∈ Tree.nodesAll siblings :=
    fun node found => Tree.mem_nodesAll.mpr ⟨tree, member, found⟩
  obtain ⟨kind, token, value, children⟩ := tree
  refine ⟨narrow.below _ (inside _ List.mem_cons_self), fun node found => ?_⟩
  exact narrow.below node (inside node (List.mem_cons_of_mem _ found))

theorem Narrow.group {siblings group : List Tree} (narrow : Narrow siblings) {texts : List Text}
    (member : group ∈ groups texts siblings) : Countable group := by
  cases texts with
  | nil =>
      rw [groups, List.mem_singleton] at member
      rw [member]
      exact narrow.here
  | cons text later =>
      obtain ⟨node, isReached, rfl⟩ := List.mem_map.mp member
      exact narrow.below node (mem_nodesAll_of_mem_reached isReached)

/-- Among siblings that can be counted only the largest position has no successor. -/
theorem Narrow.not_overflowing {siblings : List Tree} (narrow : Narrow siblings)
    {texts : List Text}
    (smaller : ∀ text ∈ texts, ∀ name, ¬ Indexed text name (UInt64.size - 1)) :
    ¬ Overflowing texts siblings := by
  rintro ⟨front, text, back, rfl, group, member, written | ⟨names, many⟩⟩
  · exact smaller text (List.mem_append_right _ List.mem_cons_self) _ written
  · exact absurd many (Nat.not_le_of_lt (narrow.group member _))

end BnfParsing.Path

namespace BnfParsing.Tree

open BnfParsing.Path

/-- A path either is followed to its end or needs the successor of the largest word. It does
so exactly if, behind some of its segments, the next one is `name[18446744073709551615]` and
a node of that name is among the siblings to be filtered, or at least as many of them have
the name of the segment as there are words. -/
theorem path_overflow_exact (tree : Tree) (path : Text) :
    ((∃ selected, tree.path path = .ok selected) ∨ tree.path path = .error ⟨largest⟩) ∧
      (tree.path path = .error ⟨largest⟩ ↔
        ∃ front text back, List.splitOn '.' path = front ++ text :: back ∧
          ∃ siblings ∈ groups front [tree], Overflows text siblings) := by
  rw [path_eq_reach]
  rcases reach_ofText (List.splitOn '.' path) [tree] with ⟨overflowing, failed⟩ | ⟨fine, found⟩
  · rw [failed]
    exact ⟨.inr rfl, iff_of_true rfl overflowing⟩
  · rw [found]
    exact ⟨.inl ⟨_, rfl⟩, iff_of_false nofun fine⟩

/-- The position of the root is compared, and has no successor to compare it with. -/
theorem largest_position_overflows :
    (Tree.ofRule "<S>".toList []).path "<S>[18446744073709551615]".toList =
      .error ⟨18446744073709551615⟩ := rfl

end BnfParsing.Tree
