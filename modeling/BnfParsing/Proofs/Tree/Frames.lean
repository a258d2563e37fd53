import BnfParsing.Proofs.Tree.Notices
import BnfParsing.Proofs.Tree.Reducing

/-!
Contract: what the reduction of a subtree does to the values that were on the stack
before it, which is nothing.

A rule without a handler leaves as many values as its children left, which may be
more than it has children. So the values cannot be counted exactly, but from below:
each subtree for a rule or a leaf leaves at least one.

Owns:
- the rules by which facts about notices are put together;
- the frame of each subtree of a tree whose rules have children.

Does not own: what the values are.
-/

set_option autoImplicit false

namespace BnfParsing.Reduction

universe u v

variable {σ : Type v} {α : Type u} {registry : Registry σ α}
variable {base : List (Value α)} {before middle after : Nat}

/-- There are at least `count` values above the base. -/
def Above (base : List (Value α)) (count : Nat) (state : State σ α) : Prop :=
  ∃ values, count ≤ values.length ∧ state.stack = values ++ base

/-- The handler of a rule gives a problem for the values of the children, which are on
top of the stack. -/
def Registry.Raises (registry : Registry σ α) (node : Tree) (state : State σ α)
    (problem : Problem) : Prop :=
  node.kind = .rule ∧ ∃ clean reduce values below handlers,
    registry.handler? node.token = some (.pop clean reduce) ∧
      state.stack = values.reverse ++ below ∧ values.length = node.children.length ∧
      reduce (arguments clean node.children values) state.handlers = (handlers, .error problem)

/-- The handler of a visited node gives the problem, and what was told before went
well. -/
def Registry.RaisesAmong (registry : Registry σ α) (notices : List Notice) (state : State σ α)
    (problem : Problem) : Prop :=
  ∃ front node rest middle, notices = front ++ .visit node :: rest ∧
    (reducer registry).tellAll front state = (middle, none) ∧
    registry.Raises node middle problem

/-- From at least `before` values above the base, notices leave the base alone at every
point. If they do not stop there are at least `after` values above it in the end, and
if they do, the handler of a visited node has given the problem. -/
structure Frames (registry : Registry σ α) (base : List (Value α)) (before after : Nat)
    (notices : List Notice) : Prop where
  keeps : ∀ {state : State σ α}, Above base before state → ∀ part, part <+: notices →
    base <:+ ((reducer registry).tellAll part state).1.stack
  leaves : ∀ {state final : State σ α}, Above base before state →
    (reducer registry).tellAll notices state = (final, none) → Above base after final
  raises : ∀ {state final : State σ α} {problem : Problem}, Above base before state →
    (reducer registry).tellAll notices state = (final, some problem) →
    registry.RaisesAmong notices state problem

theorem Above.suffix {state : State σ α} (above : Above base before state) :
    base <:+ state.stack := by
  obtain ⟨values, -, stacked⟩ := above
  exact ⟨values, stacked.symm⟩

/-! ## Notices one after the other -/

theorem Frames.nil : Frames registry base before before [] where
  keeps above part starts := by
    rw [List.prefix_nil.mp starts]
    exact above.suffix
  leaves above told := by
    cases told
    exact above
  raises _ stopped := by cases stopped

theorem Frames.append {notices later : List Notice}
    (first : Frames registry base before middle notices)
    (second : Frames registry base middle after later) :
    Frames registry base before after (notices ++ later) where
  keeps := by
    intro state above part starts
    obtain ⟨rest, split⟩ := starts
    rcases List.append_eq_append_iff.mp split with ⟨front, inside, -⟩ | ⟨front, rfl, inside⟩
    · exact first.keeps above part ⟨front, inside.symm⟩
    · rcases told : (reducer registry).tellAll notices state with ⟨next, _ | problem⟩
      · rw [Visitor.tellAll_append_of_told told]
        exact second.keeps (first.leaves above told) front ⟨rest, inside.symm⟩
      · rw [Visitor.tellAll_append_of_stopped told]
        have kept := first.keeps above notices List.prefix_rfl
        rwa [told] at kept
  leaves := by
    intro state final above told
    rcases toldFirst : (reducer registry).tellAll notices state with ⟨next, _ | problem⟩
    · rw [Visitor.tellAll_append_of_told toldFirst] at told
      exact second.leaves (first.leaves above toldFirst) told
    · rw [Visitor.tellAll_append_of_stopped toldFirst] at told
      cases told
  raises := by
    intro state final problem above stopped
    rcases toldFirst : (reducer registry).tellAll notices state with ⟨next, _ | earlier⟩
    · rw [Visitor.tellAll_append_of_told toldFirst] at stopped
      obtain ⟨front, node, rest, reached, rfl, toldFront, raised⟩ :=
        second.raises (first.leaves above toldFirst) stopped
      refine ⟨notices ++ front, node, rest, reached, (List.append_assoc ..).symm, ?_, raised⟩
      rwa [Visitor.tellAll_append_of_told toldFirst]
    · rw [Visitor.tellAll_append_of_stopped toldFirst] at stopped
      cases stopped
      obtain ⟨front, node, rest, reached, rfl, toldFront, raised⟩ :=
        first.raises above toldFirst
      exact ⟨front, node, rest ++ later, reached, List.append_assoc .., toldFront, raised⟩

/-- What holds above any base holds above values that are already there. -/
theorem Frames.lift {notices : List Notice} (frames : ∀ base, Frames registry base 0 after notices) :
    Frames registry base before (before + after) notices where
  keeps := by
    intro state above part starts
    exact above.suffix.trans ((frames state.stack).keeps ⟨[], Nat.le_refl 0, rfl⟩ part starts)
  leaves := by
    intro state final above told
    obtain ⟨values, enough, stacked⟩ := above
    obtain ⟨added, more, left⟩ := (frames state.stack).leaves ⟨[], Nat.le_refl 0, rfl⟩ told
    refine ⟨added ++ values, ?_, ?_⟩
    · rw [List.length_append]
      omega
    · rw [left, stacked, List.append_assoc]
  raises _ stopped := (frames _).raises ⟨[], Nat.le_refl 0, rfl⟩ stopped

/-- A notice alone. -/
theorem Frames.single {notice : Notice}
    (leaves : ∀ {state final : State σ α}, Above base before state →
      (reducer registry).tell state notice = (final, none) → Above base after final)
    (raises : ∀ {state final : State σ α} {problem : Problem}, Above base before state →
      (reducer registry).tell state notice = (final, some problem) →
      base <:+ final.stack ∧ ∃ node, notice = .visit node ∧ registry.Raises node state problem) :
    Frames registry base before after [notice] where
  keeps := by
    intro state above part starts
    rcases List.prefix_cons_iff.mp starts with rfl | ⟨rest, rfl, restStarts⟩
    · exact above.suffix
    rw [List.prefix_nil.mp restStarts]
    rcases told : (reducer registry).tell state notice with ⟨next, _ | problem⟩
    · rw [Visitor.tellAll_cons_of_told told]
      exact (leaves above told).suffix
    · rw [Visitor.tellAll_cons_of_stopped told]
      exact (raises above told).1
  leaves := by
    intro state final above told
    rcases toldFirst : (reducer registry).tell state notice with ⟨next, _ | problem⟩
    · rw [Visitor.tellAll_cons_of_told toldFirst] at told
      cases told
      exact leaves above toldFirst
    · rw [Visitor.tellAll_cons_of_stopped toldFirst] at told
      cases told
  raises := by
    intro state final problem above stopped
    rcases toldFirst : (reducer registry).tell state notice with ⟨next, _ | earlier⟩
    · rw [Visitor.tellAll_cons_of_told toldFirst] at stopped
      cases stopped
    · rw [Visitor.tellAll_cons_of_stopped toldFirst] at stopped
      cases stopped
      obtain ⟨node, rfl, raised⟩ := (raises above toldFirst).2
      exact ⟨[], node, [], state, rfl, rfl, raised⟩

/-! ## Single notices -/

theorem Frames.pop : Frames registry base before before [.pop] := by
  apply Frames.single
  · intro state final above told
    cases told
    exact above
  · intro state final problem above stopped
    cases stopped

theorem Frames.capture {node : Tree} (capture : node.kind = .capture) :
    Frames registry base before before [.visit node] := by
  apply Frames.single
  · intro state final above told
    rw [Visitor.tell, visit_capture capture] at told
    cases told
    exact above
  · intro state final problem above stopped
    rw [Visitor.tell, visit_capture capture] at stopped
    cases stopped

theorem Frames.leaf {node : Tree} (leaf : node.kind = .leaf) :
    Frames registry base before (before + 1) [.visit node] := by
  apply Frames.single
  · intro state final above told
    rw [Visitor.tell, visit_leaf leaf] at told
    cases told
    obtain ⟨values, enough, stacked⟩ := above
    refine ⟨.token node.token :: values, Nat.succ_le_succ enough, ?_⟩
    rw [stacked, List.cons_append]
  · intro state final problem above stopped
    rw [Visitor.tell, visit_leaf leaf] at stopped
    cases stopped

/-- With a value above the base for each child, a handler takes nothing from the base. -/
theorem visit_handled_above {node : Tree} {clean : Bool}
    {reduce : List (Value α) → σ → σ × Except Problem α} (rule : node.kind = .rule)
    (handled : registry.handler? node.token = some (.pop clean reduce)) {state : State σ α}
    (above : Above base node.children.length state) :
    ∃ values left, state.stack = values.reverse ++ (left ++ base) ∧
      values.length = node.children.length ∧
      (reducer registry).visit node state =
        match reduce (arguments clean node.children values) state.handlers with
        | (handlers, .ok value) => (⟨.built value :: (left ++ base), handlers⟩, none)
        | (handlers, .error problem) => (⟨left ++ base, handlers⟩, some problem) := by
  obtain ⟨values, enough, stacked⟩ := above
  have split : state.stack = (values.take node.children.length).reverse.reverse ++
      (values.drop node.children.length ++ base) := by
    rw [stacked, List.reverse_reverse, ← List.append_assoc, List.take_append_drop]
  have count : (values.take node.children.length).reverse.length = node.children.length := by
    rw [List.length_reverse, List.length_take_of_le enough]
  exact ⟨_, _, split, count, visit_handled rule handled split count⟩

/-- The visit of a rule that has children, all of which have left a value. -/
theorem Frames.rule (pops : registry.OnlyPops) {node : Tree} (rule : node.kind = .rule)
    (nonempty : node.children ≠ []) :
    Frames registry base node.children.length 1 [.visit node] := by
  rcases pops.cases node.token with unhandled | ⟨clean, reduce, handled⟩
  · have positive : 1 ≤ node.children.length := List.length_pos_iff.mpr nonempty
    apply Frames.single
    · intro state final above told
      rw [Visitor.tell, visit_unhandled rule unhandled] at told
      cases told
      obtain ⟨values, enough, stacked⟩ := above
      exact ⟨values, Nat.le_trans positive enough, stacked⟩
    · intro state final problem above stopped
      rw [Visitor.tell, visit_unhandled rule unhandled] at stopped
      cases stopped
  · apply Frames.single
    · intro state final above told
      obtain ⟨values, left, -, -, visit⟩ := visit_handled_above rule handled above
      rw [Visitor.tell, visit] at told
      split at told
      next value reduced =>
        cases told
        exact ⟨.built value :: left, Nat.succ_le_succ (Nat.zero_le _), rfl⟩
      next => cases told
    · intro state final problem above stopped
      obtain ⟨values, left, stacked, count, visit⟩ := visit_handled_above rule handled above
      rw [Visitor.tell, visit] at stopped
      split at stopped
      next => cases stopped
      next reduced =>
        cases stopped
        exact ⟨List.suffix_append left base, node, rfl, rule, clean, reduce, values, _, _,
          handled, stacked, count, reduced⟩

/-! ## Subtrees -/

mutual

theorem Frames.postfixNotices_captures : ∀ (tree : Tree) {base : List (Value α)} {before : Nat},
    (∀ node ∈ tree.nodes, node.kind = .capture) →
    Frames registry base before before tree.postfixNotices
  | .node kind token value children, base, before, captures => by
      have below : Frames registry base before before (Tree.postfixNoticesAll children) :=
        Frames.postfixNoticesAll_captures children fun node member =>
          captures node (List.mem_cons_of_mem _ member)
      exact below.append ((Frames.capture (captures _ List.mem_cons_self)).append .pop)

theorem Frames.postfixNoticesAll_captures : ∀ (trees : List Tree) {base : List (Value α)}
    {before : Nat}, (∀ node ∈ Tree.nodesAll trees, node.kind = .capture) →
    Frames registry base before before (Tree.postfixNoticesAll trees)
  | [], _, _, _ => .nil
  | tree :: others, base, before, captures => by
      have first : Frames registry base before before tree.postfixNotices :=
        Frames.postfixNotices_captures tree fun node member =>
          captures node (List.mem_append_left _ member)
      exact first.append (Frames.postfixNoticesAll_captures others fun node member =>
        captures node (List.mem_append_right _ member))

end

theorem Frames.postfixNoticesAll {trees : List Tree}
    (each : ∀ tree ∈ trees, ∀ base, Frames registry base 0 1 tree.postfixNotices) :
    Frames registry base before (before + trees.length) (Tree.postfixNoticesAll trees) := by
  induction trees generalizing before with
  | nil => exact .nil
  | cons tree others inductionHypothesis =>
      have first : Frames registry base before (before + 1) tree.postfixNotices :=
        .lift (each tree List.mem_cons_self)
      have rest : Frames registry base (before + 1) (before + 1 + others.length)
          (Tree.postfixNoticesAll others) :=
        inductionHypothesis fun other member => each other (List.mem_cons_of_mem tree member)
      rw [List.length_cons, Nat.add_comm others.length, ← Nat.add_assoc]
      exact first.append rest

/-- A subtree for a rule or a leaf leaves at least one value, where rules have children. -/
theorem Frames.postfixNotices (pops : registry.OnlyPops) {tree : Tree}
    (layered : tree.Layered fun node => node.children ≠ []) (base : List (Value α)) :
    Frames registry base 0 1 tree.postfixNotices := by
  induction layered generalizing base with
  | leaf token value captures =>
      exact (Frames.postfixNoticesAll_captures _ captures).append
        ((Frames.leaf rfl).append .pop)
  | @rule name value children nonempty _ inductionHypothesis =>
      have below : Frames registry base 0 children.length (Tree.postfixNoticesAll children) := by
        rw [← Nat.zero_add children.length]
        exact .postfixNoticesAll inductionHypothesis
      exact below.append ((Frames.rule pops rfl nonempty).append .pop)

end BnfParsing.Reduction
