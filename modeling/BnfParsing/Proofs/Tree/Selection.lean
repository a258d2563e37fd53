import BnfParsing.Proofs.Traversal
import BnfParsing.Proofs.Tree.Nodes
import BnfParsing.Proofs.Tree.Siblings
import BnfParsing.Proofs.Text.Words
import Mathlib.Data.List.Forall2

/-!
Contract: a path selects the nodes whose ancestors it describes.

A path is followed level by level: each segment filters every list of siblings on
its own, with a counter that starts anew. Said without levels and counters, a node
is selected if the nodes on the way to it from the root are accepted, each among
its own siblings. A path is given up where a word is missing, and only there.

Owns:
- the chain of places that leads from the root to each node, in pre-order;
- paths as a filter of chains, and the lists of siblings they come to;
- paths on which a word is missing.

Does not own: the written form of segments, nor their selection among siblings.
-/

set_option autoImplicit false

namespace BnfParsing.Path

mutual

/-- The places on the way to each node of a tree, which stands behind the given
siblings: one chain for each node, in pre-order. -/
def chains (earlier : List Tree) : Tree → List (List Place)
  | .node kind token value children =>
      [⟨earlier, .node kind token value children⟩] ::
        (chainsAll [] children).map (⟨earlier, .node kind token value children⟩ :: ·)

/-- The chains to the nodes of several siblings behind the given ones. -/
def chainsAll (earlier : List Tree) : List Tree → List (List Place)
  | [] => []
  | tree :: others => chains earlier tree ++ chainsAll (earlier ++ [tree]) others

end

/-- The node a chain leads to. -/
def final? (chain : List Place) : Option Tree :=
  chain.getLast?.map Place.node

theorem chains_eq_cons (earlier : List Tree) (tree : Tree) :
    chains earlier tree =
      [⟨earlier, tree⟩] :: (chainsAll [] tree.children).map (⟨earlier, tree⟩ :: ·) := by
  cases tree
  rfl

theorem final?_singleton (place : Place) : final? [place] = some place.node := rfl

theorem final?_cons {chain : List Place} (nonempty : chain ≠ []) (place : Place) :
    final? (place :: chain) = final? chain := by
  unfold final?
  rw [List.getLast?_cons_of_ne_nil nonempty]

theorem ne_nil_of_mem_chainsAll {chain : List Place} {siblings earlier : List Tree}
    (member : chain ∈ chainsAll earlier siblings) : chain ≠ [] := by
  induction siblings generalizing earlier with
  | nil => cases member
  | cons tree others inductionHypothesis =>
      unfold chainsAll at member
      rcases List.mem_append.mp member with inTree | inOthers
      · rintro rfl
        rw [chains_eq_cons] at inTree
        simp at inTree
      · exact inductionHypothesis inOthers

/-- Chains below a place lead to the same nodes as those it leads. -/
theorem filterMap_final?_map_cons (place : Place) {found : List (List Place)}
    (nonempty : ∀ chain ∈ found, chain ≠ []) :
    (found.map (place :: ·)).filterMap final? = found.filterMap final? := by
  rw [List.filterMap_map]
  exact List.filterMap_congr fun chain member => final?_cons (nonempty chain member) place

mutual

theorem filterMap_final?_chains : ∀ (tree : Tree) (earlier : List Tree),
    (chains earlier tree).filterMap final? = tree.nodes
  | .node kind token value children, earlier => by
      unfold chains Tree.nodes
      rw [List.filterMap_cons_some (final?_singleton _),
        filterMap_final?_map_cons _ fun _ member => ne_nil_of_mem_chainsAll member,
        filterMap_final?_chainsAll children []]

/-- The chains lead to every node once, in pre-order. -/
theorem filterMap_final?_chainsAll : ∀ (siblings earlier : List Tree),
    (chainsAll earlier siblings).filterMap final? = Tree.nodesAll siblings
  | [], _ => rfl
  | tree :: others, earlier => by
      unfold chainsAll Tree.nodesAll
      rw [List.filterMap_append, filterMap_final?_chains tree earlier,
        filterMap_final?_chainsAll others (earlier ++ [tree])]

end

/-! ## Levels of a path -/

/-- The nodes to which chains lead whose places are accepted one by one. -/
def reached (texts : List Text) (siblings : List Tree) : List Tree :=
  ((chainsAll [] siblings).filter fun chain => List.Forall₂ Accepts texts chain).filterMap final?

theorem reached_nil (siblings : List Tree) : reached [] siblings = [] := by
  have none : (chainsAll [] siblings).filter
      (fun chain => List.Forall₂ Accepts [] chain) = [] := by
    rw [List.filter_eq_nil_iff]
    intro chain member accepted
    exact ne_nil_of_mem_chainsAll member (List.forall₂_nil_left_iff.mp (of_decide_eq_true accepted))
  unfold reached
  rw [none, List.filterMap_nil]

/-- The nodes in a tree that its root, if it is accepted, leads to. -/
theorem filter_chains_cons (text : Text) (texts : List Text) (earlier : List Tree)
    (tree : Tree) :
    ((chains earlier tree).filter fun chain =>
        List.Forall₂ Accepts (text :: texts) chain).filterMap final? =
      if Accepts text ⟨earlier, tree⟩ then
        (if texts = [] then [tree] else []) ++ reached texts tree.children
      else [] := by
  have onRoot : List.Forall₂ Accepts (text :: texts) [⟨earlier, tree⟩] ↔
      Accepts text ⟨earlier, tree⟩ ∧ texts = [] := by
    rw [List.forall₂_cons, List.forall₂_nil_right_iff]
  have onOthers : ((chainsAll [] tree.children).map (⟨earlier, tree⟩ :: ·)).filter
        (fun chain => List.Forall₂ Accepts (text :: texts) chain) =
      ((chainsAll [] tree.children).filter fun chain =>
        Accepts text ⟨earlier, tree⟩ ∧ List.Forall₂ Accepts texts chain).map
          (⟨earlier, tree⟩ :: ·) := by
    rw [List.filter_map]
    congr 2
    funext chain
    exact decide_eq_decide.mpr List.forall₂_cons
  rw [chains_eq_cons, List.filter_cons, onOthers]
  by_cases accepted : Accepts text ⟨earlier, tree⟩
  · simp only [onRoot, accepted, true_and, decide_eq_true_eq, if_true]
    have below : (((chainsAll [] tree.children).filter fun chain =>
        List.Forall₂ Accepts texts chain).map (⟨earlier, tree⟩ :: ·)).filterMap final? =
        reached texts tree.children :=
      filterMap_final?_map_cons _ fun chain member =>
        ne_nil_of_mem_chainsAll (List.mem_of_mem_filter member)
    split
    · rw [List.filterMap_cons_some (final?_singleton _), below, List.singleton_append]
    · rw [below, List.nil_append]
  · simp [onRoot, accepted]

/-- The nodes reached from siblings are reached from those that the first segment accepts. -/
theorem reached_cons (text : Text) (texts : List Text) (siblings : List Tree) :
    reached (text :: texts) siblings =
      (accepted text siblings).flatMap
        fun tree => (if texts = [] then [tree] else []) ++ reached texts tree.children := by
  have behind : ∀ earlier : List Tree,
      ((chainsAll earlier siblings).filter fun chain =>
        List.Forall₂ Accepts (text :: texts) chain).filterMap final? =
      (((places earlier siblings).filter fun place => Accepts text place).map
        Place.node).flatMap
        fun tree => (if texts = [] then [tree] else []) ++ reached texts tree.children := by
    induction siblings with
    | nil => exact fun _ => rfl
    | cons tree others inductionHypothesis =>
        intro earlier
        unfold chainsAll places
        rw [List.filter_append, List.filterMap_append, filter_chains_cons, inductionHypothesis,
          List.filter_cons]
        by_cases accepted : Accepts text ⟨earlier, tree⟩
        · rw [if_pos accepted, if_pos (decide_eq_true accepted), List.map_cons,
            List.flatMap_cons]
        · rw [if_neg accepted, if_neg (by simpa using accepted), List.nil_append]
  exact behind []

theorem reached_singleton (text : Text) (siblings : List Tree) :
    reached [text] siblings = accepted text siblings := by
  rw [reached_cons]
  simp [reached_nil]

theorem reached_cons_cons (text next : Text) (later : List Text) (siblings : List Tree) :
    reached (text :: next :: later) siblings =
      (accepted text siblings).flatMap fun tree => reached (next :: later) tree.children := by
  rw [reached_cons]
  simp

theorem mem_nodesAll_of_mem_reached {texts : List Text} {siblings : List Tree} {node : Tree}
    (member : node ∈ reached texts siblings) : node ∈ Tree.nodesAll siblings := by
  rw [← filterMap_final?_chainsAll siblings []]
  obtain ⟨chain, inFilter, leads⟩ := List.mem_filterMap.mp member
  exact List.mem_filterMap.mpr ⟨chain, List.mem_of_mem_filter inFilter, leads⟩

/-- The lists of siblings that are filtered behind the given segments: the children of
each node that these reach, and the siblings themselves behind none. -/
def groups (texts : List Text) (siblings : List Tree) : List (List Tree) :=
  match texts with
  | [] => [siblings]
  | _ :: _ => (reached texts siblings).map Tree.children

theorem groups_cons (text : Text) (texts : List Text) (siblings : List Tree) :
    groups (text :: texts) siblings =
      (accepted text siblings).flatMap fun tree => groups texts tree.children := by
  cases texts with
  | nil =>
      rw [groups, reached_singleton]
      exact (List.flatMap_pure_eq_map Tree.children _).symm
  | cons next later =>
      rw [groups, reached_cons_cons, List.map_flatMap]
      rfl

/-! ## Missing words -/

/-- Along the segments there is one that needs the successor of the largest word. -/
def Overflowing (texts : List Text) (siblings : List Tree) : Prop :=
  ∃ front text back, texts = front ++ text :: back ∧
    ∃ group ∈ groups front siblings, Overflows text group

theorem not_overflowing_nil (siblings : List Tree) : ¬ Overflowing [] siblings := by
  rintro ⟨front, text, back, split, -⟩
  simp at split

theorem overflowing_cons (text : Text) (texts : List Text) (siblings : List Tree) :
    Overflowing (text :: texts) siblings ↔
      Overflows text siblings ∨
        ∃ tree ∈ accepted text siblings, Overflowing texts tree.children := by
  constructor
  · rintro ⟨front, inner, back, split, group, member, overflows⟩
    cases front with
    | nil =>
        obtain ⟨rfl, rfl⟩ := List.cons_eq_cons.mp split
        rw [groups, List.mem_singleton] at member
        exact .inl (member ▸ overflows)
    | cons head front =>
        obtain ⟨rfl, rfl⟩ := List.cons_eq_cons.mp split
        rw [groups_cons, List.mem_flatMap] at member
        obtain ⟨tree, isAccepted, inside⟩ := member
        exact .inr ⟨tree, isAccepted, front, inner, back, rfl, group, inside, overflows⟩
  · rintro (here | ⟨tree, isAccepted, front, inner, back, rfl, group, inside, overflows⟩)
    · exact ⟨[], text, texts, rfl, siblings, List.mem_singleton.mpr rfl, here⟩
    · refine ⟨text :: front, inner, back, rfl, group, ?_, overflows⟩
      rw [groups_cons, List.mem_flatMap]
      exact ⟨tree, isAccepted, inside⟩

theorem reach_cons_cons (segment next : Segment) (later : List Segment) (siblings : List Tree) :
    reach (segment :: next :: later) siblings =
      (segment.select siblings).bind fun selected =>
        (selected.mapM fun tree => reach (next :: later) tree.children).map List.flatten := by
  rw [reach]
  · cases segment.select siblings with
    | error failure => rfl
    | ok selected =>
        simp only [bind, Except.bind]
        cases selected.mapM fun tree => reach (next :: later) tree.children <;> rfl
  · exact List.cons_ne_nil _ _

theorem reach_cons_of_error {segment : Segment} {siblings : List Tree} {failure : Overflow}
    (failed : segment.select siblings = .error failure) (rest : List Segment) :
    reach (segment :: rest) siblings = .error failure := by
  cases rest with
  | nil => exact failed
  | cons next later =>
      rw [reach_cons_cons, failed]
      rfl

/-- Level by level the accepted nodes are reached, unless a word is missing on the way. -/
theorem reach_ofText (texts : List Text) (siblings : List Tree) :
    Overflowing texts siblings ∧ reach (texts.map Segment.ofText) siblings = .error ⟨largest⟩ ∨
      ¬ Overflowing texts siblings ∧
        reach (texts.map Segment.ofText) siblings = .ok (reached texts siblings) := by
  induction texts generalizing siblings with
  | nil =>
      rw [reached_nil]
      exact .inr ⟨not_overflowing_nil siblings, rfl⟩
  | cons text texts inductionHypothesis =>
      rw [overflowing_cons, List.map_cons]
      rcases select_ofText text siblings with ⟨overflows, failed⟩ | ⟨countable, selected⟩
      · exact .inl ⟨.inl overflows, reach_cons_of_error failed _⟩
      rw [or_iff_right countable]
      cases texts with
      | nil =>
          refine .inr ⟨?_, ?_⟩
          · rintro ⟨tree, -, overflowing⟩
            exact not_overflowing_nil _ overflowing
          · rw [reached_singleton]
            exact selected
      | cons next later =>
          rw [List.map_cons, reach_cons_cons, selected, reached_cons_cons, List.flatMap_def]
          rcases mapM_eq_error_or_ok (fun tree => inductionHypothesis (Tree.children tree))
            (accepted text siblings) with ⟨overflowing, failed⟩ | ⟨fine, found⟩
          · refine .inl ⟨overflowing, ?_⟩
            simp only [Except.bind]
            rw [← List.map_cons, failed]
            rfl
          · refine .inr ⟨fine, ?_⟩
            simp only [Except.bind]
            rw [← List.map_cons, found]
            rfl

theorem reach_eq_reached {texts : List Text} {siblings : List Tree}
    (fine : ¬ Overflowing texts siblings) :
    reach (texts.map Segment.ofText) siblings = .ok (reached texts siblings) := by
  rcases reach_ofText texts siblings with ⟨overflowing, -⟩ | ⟨-, found⟩
  · exact absurd overflowing fine
  · exact found

end BnfParsing.Path

namespace BnfParsing.Tree

open BnfParsing.Path

theorem path_eq_reach (tree : Tree) (path : Text) :
    tree.path path = reach ((List.splitOn '.' path).map Segment.ofText) [tree] := by
  rw [← Text.splitOn_eq]
  rfl

/-- A path selects, in pre-order and each one once, the nodes that lie as deep as it
has segments and on whose way from the root each segment accepts the node at its
level, unless along its segments there is one that needs the successor of the largest
word. Then it selects nothing, but fails. -/
theorem path_selects_accepted (tree : Tree) (path : Text) :
    (chains [] tree).filterMap final? = tree.nodes ∧
      (¬ Overflowing (List.splitOn '.' path) [tree] ∧
          tree.path path =
            .ok (((chains [] tree).filter fun chain =>
              List.Forall₂ Accepts (List.splitOn '.' path) chain).filterMap final?) ∧
          tree.pathFirst? path =
            .ok (((chains [] tree).filter fun chain =>
              List.Forall₂ Accepts (List.splitOn '.' path) chain).filterMap final?).head? ∨
        Overflowing (List.splitOn '.' path) [tree] ∧
          tree.path path = .error ⟨largest⟩ ∧ tree.pathFirst? path = .error ⟨largest⟩) := by
  have single : chainsAll [] [tree] = chains [] tree := List.append_nil _
  refine ⟨filterMap_final?_chains tree [], ?_⟩
  rw [← single]
  rcases reach_ofText (List.splitOn '.' path) [tree] with ⟨overflowing, failed⟩ | ⟨fine, found⟩
  · rw [← path_eq_reach] at failed
    refine .inr ⟨overflowing, failed, ?_⟩
    rw [pathFirst?, failed]
    rfl
  · rw [← path_eq_reach] at found
    refine .inl ⟨fine, found, ?_⟩
    rw [pathFirst?, found]
    rfl

/-- Three items with commas between them. -/
def itemList : Tree :=
  .ofRule "<list>".toList
    [.ofRule "<item>".toList [.leaf ['a']], .leaf [','],
      .ofRule "<item>".toList [.leaf "*[0]".toList, .leaf ['b']], .leaf [','],
      .ofRule "<item>".toList [.leaf ['c']]]

example : itemList.path "<list>.<item>[+01].*".toList =
    .ok [.leaf "*[0]".toList, .leaf ['b']] := rfl

/-- No item has as many others before it, but the path that asks for one fails. -/
theorem largest_position_fails :
    ((chains [] itemList).filter fun chain => List.Forall₂ Accepts
        (List.splitOn '.' "<list>.<item>[18446744073709551615]".toList) chain).filterMap
          final? = [] ∧
      itemList.path "<list>.<item>[18446744073709551615]".toList =
        .error ⟨18446744073709551615⟩ :=
  ⟨by decide +kernel, rfl⟩

end BnfParsing.Tree
