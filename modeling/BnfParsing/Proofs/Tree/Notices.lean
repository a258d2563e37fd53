import BnfParsing.Proofs.Traversal
import BnfParsing.Proofs.Tree.Nodes
import BnfParsing.Tree.Walk
import Mathlib.Data.List.Perm.Basic

/-!
Contract: a walk is a fixed list of notices that a visitor is told of, one after
the other, until a visit stops.

Owns:
- the notices of a tree in both orders, and telling a visitor of notices;
- both walks as telling of these lists;
- the place of each visit and each leaving in the lists.

Does not own: what a visitor makes of it.
-/

set_option autoImplicit false

namespace BnfParsing

universe u v

/-- What a visitor is told of: a node, or that it is left. -/
inductive Notice where
  | visit (node : Tree)
  | pop

/-- The node that is visited, if one is. -/
def Notice.node? : Notice → Option Tree
  | .visit node => some node
  | .pop => none

namespace Visitor

variable {σ : Type u} {ε : Type v}

/-- Tells a visitor of one notice. Only a visit can stop. -/
def tell (visitor : Visitor σ ε) (state : σ) : Notice → σ × Option ε
  | .visit node => visitor.visit node state
  | .pop => (visitor.pop state, none)

/-- Tells a visitor of notices up to the first visit that stops, which is the last
one it is told of. -/
def tellAll (visitor : Visitor σ ε) : List Notice → σ → σ × Option ε
  | [], state => (state, none)
  | notice :: later, state =>
      match visitor.tell state notice with
      | (next, some stopped) => (next, some stopped)
      | (next, none) => visitor.tellAll later next

variable {visitor : Visitor σ ε} {state middle final : σ} {stopped : ε}
variable {notice : Notice} {notices later : List Notice}

theorem tellAll_cons_of_told (told : visitor.tell state notice = (middle, none))
    (later : List Notice) :
    visitor.tellAll (notice :: later) state = visitor.tellAll later middle := by
  rw [tellAll, told]

theorem tellAll_cons_of_stopped (stops : visitor.tell state notice = (middle, some stopped))
    (later : List Notice) :
    visitor.tellAll (notice :: later) state = (middle, some stopped) := by
  rw [tellAll, stops]

theorem tellAll_append_of_told (told : visitor.tellAll notices state = (middle, none))
    (later : List Notice) :
    visitor.tellAll (notices ++ later) state = visitor.tellAll later middle := by
  induction notices generalizing state with
  | nil =>
      cases told
      rfl
  | cons notice others inductionHypothesis =>
      rcases first : visitor.tell state notice with ⟨next, _ | stopped⟩
      · rw [tellAll_cons_of_told first] at told
        rw [List.cons_append, tellAll_cons_of_told first]
        exact inductionHypothesis told
      · rw [tellAll_cons_of_stopped first] at told
        cases told

theorem tellAll_append_of_stopped
    (stops : visitor.tellAll notices state = (middle, some stopped)) (later : List Notice) :
    visitor.tellAll (notices ++ later) state = (middle, some stopped) := by
  induction notices generalizing state with
  | nil => cases stops
  | cons notice others inductionHypothesis =>
      rcases first : visitor.tell state notice with ⟨next, _ | earlier⟩
      · rw [tellAll_cons_of_told first] at stops
        rw [List.cons_append, tellAll_cons_of_told first]
        exact inductionHypothesis stops
      · rw [tellAll_cons_of_stopped first] at stops
        rw [List.cons_append, tellAll_cons_of_stopped first]
        exact stops

/-- Telling stops at a visit, all before which went well. -/
theorem tellAll_eq_stopped_iff :
    visitor.tellAll notices state = (final, some stopped) ↔
      ∃ before node after middle, notices = before ++ .visit node :: after ∧
        visitor.tellAll before state = (middle, none) ∧
        visitor.visit node middle = (final, some stopped) := by
  constructor
  · intro stops
    induction notices generalizing state with
    | nil => cases stops
    | cons notice others inductionHypothesis =>
        rcases first : visitor.tell state notice with ⟨next, _ | earlier⟩
        · rw [tellAll_cons_of_told first] at stops
          obtain ⟨before, node, after, middle, rfl, told, atNode⟩ := inductionHypothesis stops
          refine ⟨notice :: before, node, after, middle, rfl, ?_, atNode⟩
          rwa [tellAll_cons_of_told first]
        · rw [tellAll_cons_of_stopped first] at stops
          cases stops
          cases notice with
          | visit node => exact ⟨[], node, others, state, rfl, rfl, first⟩
          | pop => cases first
  · rintro ⟨before, node, after, middle, rfl, told, atNode⟩
    have stops : visitor.tell middle (.visit node) = (final, some stopped) := atNode
    rw [tellAll_append_of_told told, tellAll_cons_of_stopped stops]

end Visitor

namespace Tree

mutual

/-- A node, then its subtrees from left to right, then that it is left. -/
def prefixNotices : Tree → List Notice
  | .node kind token value children =>
      .visit (.node kind token value children) :: (prefixNoticesAll children ++ [.pop])

/-- The notices of several trees, one tree after the other. -/
def prefixNoticesAll : List Tree → List Notice
  | [] => []
  | tree :: others => tree.prefixNotices ++ prefixNoticesAll others

end

mutual

/-- The subtrees of a node from left to right, then the node, then that it is
left. -/
def postfixNotices : Tree → List Notice
  | .node kind token value children =>
      postfixNoticesAll children ++ [.visit (.node kind token value children), .pop]

/-- The notices of several trees, one tree after the other. -/
def postfixNoticesAll : List Tree → List Notice
  | [] => []
  | tree :: others => tree.postfixNotices ++ postfixNoticesAll others

end

/-- The notices of a tree in an order. -/
def notices (traversal : Traversal) (tree : Tree) : List Notice :=
  match traversal with
  | .prefixOrder => tree.prefixNotices
  | .postfixOrder => tree.postfixNotices

section Walks

variable {σ : Type u} {ε : Type v}

mutual

theorem prefixWalk_eq_tellAll (visitor : Visitor σ ε) : ∀ (tree : Tree) (state : σ),
    tree.prefixWalk visitor state = visitor.tellAll tree.prefixNotices state
  | .node kind token value children, state => by
      unfold prefixWalk prefixNotices
      change (match visitor.tell state (.visit (.node kind token value children)) with
        | (state, some stopped) => (state, some stopped)
        | (state, none) => _) = _
      rcases visited : visitor.tell state (.visit (.node kind token value children)) with
        ⟨next, _ | stopped⟩
      · rw [Visitor.tellAll_cons_of_told visited]
        simp only [prefixWalkAll_eq_tellAll visitor children next]
        rcases below : visitor.tellAll (prefixNoticesAll children) next with ⟨last, _ | stopped⟩
        · rw [Visitor.tellAll_append_of_told below]
          rfl
        · rw [Visitor.tellAll_append_of_stopped below]
      · rw [Visitor.tellAll_cons_of_stopped visited]

theorem prefixWalkAll_eq_tellAll (visitor : Visitor σ ε) : ∀ (trees : List Tree) (state : σ),
    prefixWalkAll visitor trees state = visitor.tellAll (prefixNoticesAll trees) state
  | [], state => rfl
  | tree :: others, state => by
      unfold prefixWalkAll prefixNoticesAll
      rw [prefixWalk_eq_tellAll visitor tree state]
      rcases first : visitor.tellAll tree.prefixNotices state with ⟨next, _ | stopped⟩
      · rw [Visitor.tellAll_append_of_told first]
        exact prefixWalkAll_eq_tellAll visitor others next
      · rw [Visitor.tellAll_append_of_stopped first]

end

mutual

theorem postfixWalk_eq_tellAll (visitor : Visitor σ ε) : ∀ (tree : Tree) (state : σ),
    tree.postfixWalk visitor state = visitor.tellAll tree.postfixNotices state
  | .node kind token value children, state => by
      unfold postfixWalk postfixNotices
      rw [postfixWalkAll_eq_tellAll visitor children state]
      rcases below : visitor.tellAll (postfixNoticesAll children) state with ⟨next, _ | stopped⟩
      · rw [Visitor.tellAll_append_of_told below]
        change (match visitor.tell next (.visit (.node kind token value children)) with
          | (state, some stopped) => (state, some stopped)
          | (state, none) => (visitor.pop state, none)) = _
        rcases visited : visitor.tell next (.visit (.node kind token value children)) with
          ⟨last, _ | stopped⟩
        · rw [Visitor.tellAll_cons_of_told visited]
          rfl
        · rw [Visitor.tellAll_cons_of_stopped visited]
      · rw [Visitor.tellAll_append_of_stopped below]

theorem postfixWalkAll_eq_tellAll (visitor : Visitor σ ε) : ∀ (trees : List Tree) (state : σ),
    postfixWalkAll visitor trees state = visitor.tellAll (postfixNoticesAll trees) state
  | [], state => rfl
  | tree :: others, state => by
      unfold postfixWalkAll postfixNoticesAll
      rw [postfixWalk_eq_tellAll visitor tree state]
      rcases first : visitor.tellAll tree.postfixNotices state with ⟨next, _ | stopped⟩
      · rw [Visitor.tellAll_append_of_told first]
        exact postfixWalkAll_eq_tellAll visitor others next
      · rw [Visitor.tellAll_append_of_stopped first]

end

end Walks

end Tree

/-! ## The place of visits -/

namespace Notice

/-- Visits and leavings that are paired like brackets. -/
inductive Balanced : List Notice → Prop where
  | nil : Balanced []
  | pair (node : Tree) {inside after : List Notice} (insideBalanced : Balanced inside)
      (afterBalanced : Balanced after) : Balanced (.visit node :: (inside ++ .pop :: after))

theorem Balanced.append {first second : List Notice} (firstBalanced : Balanced first)
    (secondBalanced : Balanced second) : Balanced (first ++ second) := by
  induction firstBalanced with
  | nil => exact secondBalanced
  | pair node insideBalanced _ _ laterBalanced =>
      rw [List.cons_append, List.append_assoc, List.cons_append]
      exact .pair node insideBalanced laterBalanced

/-- Something holds of each node that is visited, with what comes before and after. -/
def AroundVisits (holds : List Notice → Tree → List Notice → Prop) (notices : List Notice) :
    Prop :=
  ∀ before node after, notices = before ++ .visit node :: after → holds before node after

variable {holds other : List Notice → Tree → List Notice → Prop}
variable {first second notices : List Notice}

theorem AroundVisits.imp (around : AroundVisits holds notices)
    (implies : ∀ before node after, holds before node after → other before node after) :
    AroundVisits other notices :=
  fun before node after split => implies before node after (around before node after split)

theorem AroundVisits.append
    (inFirst : AroundVisits (fun before node after => holds before node (after ++ second)) first)
    (inSecond : AroundVisits (fun before node after => holds (first ++ before) node after) second) :
    AroundVisits holds (first ++ second) := by
  intro before node after split
  rcases sides_of_append_eq split with ⟨rest, inside, rfl⟩ | ⟨start, rfl, inside⟩
  · exact inFirst before node rest inside
  · exact inSecond start node after inside

theorem aroundVisits_pop : AroundVisits holds [.pop] := by
  intro before node after split
  cases before with
  | nil => cases split
  | cons notice before => simp at split

theorem AroundVisits.visit {node : Tree} {later : List Notice} (here : holds [] node later)
    (others : AroundVisits (fun before => holds (.visit node :: before)) later) :
    AroundVisits holds (.visit node :: later) := by
  intro before found after split
  cases before with
  | nil =>
      cases split
      exact here
  | cons notice before =>
      cases split
      exact others before found after rfl

end Notice

namespace Tree

open Notice (AroundVisits Balanced)

/-- What comes after a visit starts with the notices of the subtrees, and then the
node is left. -/
def FollowedBySubtrees (_before : List Notice) (node : Tree) (after : List Notice) : Prop :=
  prefixNoticesAll node.children ++ [.pop] <+: after

/-- What comes before a visit ends with the notices of the subtrees, and the node is
left at once. -/
def PrecededBySubtrees (before : List Notice) (node : Tree) (after : List Notice) : Prop :=
  postfixNoticesAll node.children <:+ before ∧ [.pop] <+: after

mutual

theorem balanced_prefixNotices : ∀ tree : Tree, Balanced tree.prefixNotices
  | .node _ _ _ children => .pair _ (balanced_prefixNoticesAll children) .nil

theorem balanced_prefixNoticesAll : ∀ trees : List Tree, Balanced (prefixNoticesAll trees)
  | [] => .nil
  | tree :: others => (balanced_prefixNotices tree).append (balanced_prefixNoticesAll others)

end

mutual

theorem balanced_postfixNotices : ∀ tree : Tree, Balanced tree.postfixNotices
  | .node _ _ _ children => (balanced_postfixNoticesAll children).append (.pair _ .nil .nil)

theorem balanced_postfixNoticesAll : ∀ trees : List Tree, Balanced (postfixNoticesAll trees)
  | [] => .nil
  | tree :: others => (balanced_postfixNotices tree).append (balanced_postfixNoticesAll others)

end

mutual

theorem aroundVisits_prefixNotices :
    ∀ tree : Tree, AroundVisits FollowedBySubtrees tree.prefixNotices
  | .node kind token value children => by
      have below := aroundVisits_prefixNoticesAll children
      apply AroundVisits.visit
      · exact List.prefix_rfl
      · apply AroundVisits.append
        · exact below.imp fun _ _ after follows => follows.trans (List.prefix_append after _)
        · exact Notice.aroundVisits_pop

theorem aroundVisits_prefixNoticesAll :
    ∀ trees : List Tree, AroundVisits FollowedBySubtrees (prefixNoticesAll trees)
  | [] => by
      intro before node after split
      simp [prefixNoticesAll] at split
  | tree :: others => by
      apply AroundVisits.append
      · exact (aroundVisits_prefixNotices tree).imp fun _ _ after follows =>
          follows.trans (List.prefix_append after _)
      · exact aroundVisits_prefixNoticesAll others

end

mutual

theorem aroundVisits_postfixNotices :
    ∀ tree : Tree, AroundVisits PrecededBySubtrees tree.postfixNotices
  | .node kind token value children => by
      have below := aroundVisits_postfixNoticesAll children
      apply AroundVisits.append
      · exact below.imp fun _ _ after precedes =>
          ⟨precedes.1, precedes.2.trans (List.prefix_append after _)⟩
      · apply AroundVisits.visit
        · rw [List.append_nil]
          exact ⟨List.suffix_rfl, List.prefix_rfl⟩
        · exact Notice.aroundVisits_pop

theorem aroundVisits_postfixNoticesAll :
    ∀ trees : List Tree, AroundVisits PrecededBySubtrees (postfixNoticesAll trees)
  | [] => by
      intro before node after split
      simp [postfixNoticesAll] at split
  | tree :: others => by
      apply AroundVisits.append
      · exact (aroundVisits_postfixNotices tree).imp fun _ _ after precedes =>
          ⟨precedes.1, precedes.2.trans (List.prefix_append after _)⟩
      · exact (aroundVisits_postfixNoticesAll others).imp fun before _ _ precedes =>
          ⟨precedes.1.trans (List.suffix_append _ before), precedes.2⟩

end

/-! ## The number of visits -/

mutual

theorem filterMap_prefixNotices :
    ∀ tree : Tree, tree.prefixNotices.filterMap Notice.node? = tree.nodes
  | .node kind token value children => by
      have visited : Notice.node? (.visit (.node kind token value children)) =
          some (.node kind token value children) := rfl
      unfold prefixNotices nodes
      rw [List.filterMap_cons_some visited, List.filterMap_append,
        filterMap_prefixNoticesAll children]
      exact congrArg _ (List.append_nil _)

theorem filterMap_prefixNoticesAll :
    ∀ trees : List Tree, (prefixNoticesAll trees).filterMap Notice.node? = nodesAll trees
  | [] => rfl
  | tree :: others => by
      unfold prefixNoticesAll nodesAll
      rw [List.filterMap_append, filterMap_prefixNotices tree, filterMap_prefixNoticesAll others]

end

mutual

theorem filterMap_postfixNotices_perm :
    ∀ tree : Tree, (tree.postfixNotices.filterMap Notice.node?).Perm tree.nodes
  | .node kind token value children => by
      unfold postfixNotices nodes
      rw [List.filterMap_append]
      exact ((filterMap_postfixNoticesAll_perm children).append_right _).trans
        List.perm_append_comm

theorem filterMap_postfixNoticesAll_perm :
    ∀ trees : List Tree, ((postfixNoticesAll trees).filterMap Notice.node?).Perm (nodesAll trees)
  | [] => .nil
  | tree :: others => by
      unfold postfixNoticesAll nodesAll
      rw [List.filterMap_append]
      exact (filterMap_postfixNotices_perm tree).append (filterMap_postfixNoticesAll_perm others)

end

mutual

theorem length_nodes : ∀ tree : Tree, tree.nodes.length = tree.size
  | .node kind token value children => by
      unfold nodes size
      rw [List.length_cons, length_nodesAll children, Nat.add_comm]

theorem length_nodesAll : ∀ trees : List Tree, (nodesAll trees).length = sizeAll trees
  | [] => rfl
  | tree :: others => by
      unfold nodesAll sizeAll
      rw [List.length_append, length_nodes tree, length_nodesAll others]

end

/-- Each walk tells the visitor of the notices of its order until a visit stops,
and of nothing after that visit. Both lists visit each node once and are balanced:
a node is left after its subtrees in the one, visited after them and left at once in
the other. -/
theorem walk_tells_notices {σ : Type u} {ε : Type v} (visitor : Visitor σ ε) (tree : Tree)
    (state : σ) :
    (∀ traversal : Traversal,
      tree.walk traversal visitor state = visitor.tellAll (tree.notices traversal) state ∧
      (∀ final stopped, tree.walk traversal visitor state = (final, some stopped) ↔
        ∃ before node after middle,
          tree.notices traversal = before ++ .visit node :: after ∧
          visitor.tellAll before state = (middle, none) ∧
          visitor.visit node middle = (final, some stopped)) ∧
      Balanced (tree.notices traversal) ∧
      ((tree.notices traversal).filterMap Notice.node?).length = tree.size) ∧
    (AroundVisits FollowedBySubtrees tree.prefixNotices ∧
      tree.prefixNotices.filterMap Notice.node? = tree.nodes) ∧
    AroundVisits PrecededBySubtrees tree.postfixNotices ∧
      (tree.postfixNotices.filterMap Notice.node?).Perm tree.nodes := by
  have told : ∀ traversal : Traversal,
      tree.walk traversal visitor state = visitor.tellAll (tree.notices traversal) state := by
    intro traversal
    cases traversal with
    | prefixOrder => exact prefixWalk_eq_tellAll visitor tree state
    | postfixOrder => exact postfixWalk_eq_tellAll visitor tree state
  have visits : ∀ traversal : Traversal,
      ((tree.notices traversal).filterMap Notice.node?).length = tree.size := by
    intro traversal
    rw [← length_nodes]
    cases traversal with
    | prefixOrder => exact congrArg List.length (filterMap_prefixNotices tree)
    | postfixOrder => exact (filterMap_postfixNotices_perm tree).length_eq
  have balanced : ∀ traversal : Traversal, Balanced (tree.notices traversal) := by
    intro traversal
    cases traversal with
    | prefixOrder => exact balanced_prefixNotices tree
    | postfixOrder => exact balanced_postfixNotices tree
  refine ⟨fun traversal => ⟨told traversal, ?_, balanced traversal, visits traversal⟩, ?_, ?_⟩
  · intro final stopped
    rw [told traversal]
    exact Visitor.tellAll_eq_stopped_iff
  · exact ⟨aroundVisits_prefixNotices tree, filterMap_prefixNotices tree⟩
  · exact ⟨aroundVisits_postfixNotices tree, filterMap_postfixNotices_perm tree⟩

end Tree

end BnfParsing
