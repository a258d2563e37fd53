import BnfParsing.Proofs.Tree.Nodes
import BnfParsing.Tree.Reduction

/-!
Contract: what a visit does to the stack of values, and the trees that fit it.

Owns:
- registries whose handlers get the values of the children;
- each kind of visit as one equation;
- trees of rules above leaves, below which there are only captures.

Does not own: what a whole walk leaves on the stack.
-/

set_option autoImplicit false

namespace BnfParsing

universe u v

namespace Tree

/-- A tree of rules above leaves, with nothing but captures below the leaves, in which
something holds of each node for a rule. -/
inductive Layered (holds : Tree → Prop) : Tree → Prop where
  | leaf (token : Text) (value : Option Text) {groups : List Tree}
      (captures : ∀ node ∈ nodesAll groups, node.kind = .capture) :
      Layered holds (.node .leaf token value groups)
  | rule (name : Text) (value : Option Text) {children : List Tree}
      (here : holds (.node .rule name value children))
      (below : ∀ child ∈ children, Layered holds child) :
      Layered holds (.node .rule name value children)

end Tree

namespace Reduction

variable {σ : Type v} {α : Type u} {registry : Registry σ α}

/-- No handler gets the whole stack. -/
def Registry.OnlyPops (registry : Registry σ α) : Prop :=
  ∀ rule reduce, registry.handler? rule ≠ some (.stack reduce)

theorem Registry.OnlyPops.cases (pops : registry.OnlyPops) (rule : Text) :
    registry.handler? rule = none ∨
      ∃ clean reduce, registry.handler? rule = some (.pop clean reduce) := by
  cases found : registry.handler? rule with
  | none => exact .inl rfl
  | some handler =>
      cases handler with
      | stack reduce => exact absurd found (pops rule reduce)
      | pop clean reduce => exact .inr ⟨clean, reduce, rfl⟩

theorem Registry.onlyPops_of_handlers
    (pops : ∀ entry ∈ registry.handlers, ∃ clean reduce, entry.2 = .pop clean reduce) :
    registry.OnlyPops := by
  intro rule reduce found
  obtain ⟨before, after, same, -⟩ := List.lookup_eq_some_iff.mp found
  obtain ⟨clean, other, popped⟩ := pops (rule, .stack reduce) (by simp [same])
  cases popped

theorem Registry.onlyPops_singleton (rule : Text) (clean : Bool)
    (reduce : List (Value α) → σ → σ × Except Problem α) :
    (⟨[(rule, .pop clean reduce)]⟩ : Registry σ α).OnlyPops := by
  apply onlyPops_of_handlers
  intro entry member
  obtain rfl := List.mem_singleton.mp member
  exact ⟨clean, reduce, rfl⟩

/-! ## Visits -/

theorem visit_capture {node : Tree} (capture : node.kind = .capture) (state : State σ α) :
    (reducer registry).visit node state = (state, none) := by
  simp only [reducer, capture]

theorem visit_leaf {node : Tree} (leaf : node.kind = .leaf) (state : State σ α) :
    (reducer registry).visit node state =
      (⟨.token node.token :: state.stack, state.handlers⟩, none) := by
  simp only [reducer, leaf]

theorem visit_unhandled {node : Tree} (rule : node.kind = .rule)
    (unhandled : registry.handler? node.token = none) (state : State σ α) :
    (reducer registry).visit node state = (state, none) := by
  simp only [reducer, rule, unhandled]

/-- With enough values on the stack, a handler gets as many of them as the node has
children, and they are gone whatever it makes of them. -/
theorem visit_handled {node : Tree} {clean : Bool}
    {reduce : List (Value α) → σ → σ × Except Problem α} (rule : node.kind = .rule)
    (handled : registry.handler? node.token = some (.pop clean reduce)) {state : State σ α}
    {values below : List (Value α)} (stacked : state.stack = values.reverse ++ below)
    (enough : values.length = node.children.length) :
    (reducer registry).visit node state =
      match reduce (arguments clean node.children values) state.handlers with
      | (handlers, .ok value) => (⟨.built value :: below, handlers⟩, none)
      | (handlers, .error problem) => (⟨below, handlers⟩, some problem) := by
  have count : values.reverse.length = node.children.length := by
    rw [List.length_reverse, enough]
  have taken : (state.stack.take node.children.length).reverse = values := by
    rw [stacked, List.take_left' count, List.reverse_reverse]
  have left : state.stack.drop node.children.length = below := by
    rw [stacked, List.drop_left' count]
  have reached : ¬ state.stack.length < node.children.length := by
    rw [stacked, List.length_append, count]
    omega
  rcases reduced : reduce (arguments clean node.children values) state.handlers with
    ⟨handlers, problem | value⟩ <;>
  simp only [reducer, rule, handled, reduceBy, if_neg reached, taken, left, reduced]

/-! ## Captures -/

mutual

theorem postfixWalk_captures : ∀ (tree : Tree) (state : State σ α),
    (∀ node ∈ tree.nodes, node.kind = .capture) →
    tree.postfixWalk (reducer registry) state = (state, none)
  | .node kind token value children, state, captures => by
      have below : ∀ node ∈ Tree.nodesAll children, node.kind = .capture :=
        fun node member => captures node (List.mem_cons_of_mem _ member)
      unfold Tree.postfixWalk
      rw [postfixWalkAll_captures children state below]
      simp only [visit_capture (captures _ List.mem_cons_self)]
      rfl

/-- Captures leave the stack as it is. -/
theorem postfixWalkAll_captures : ∀ (trees : List Tree) (state : State σ α),
    (∀ node ∈ Tree.nodesAll trees, node.kind = .capture) →
    Tree.postfixWalkAll (reducer registry) trees state = (state, none)
  | [], _, _ => rfl
  | tree :: others, state, captures => by
      unfold Tree.postfixWalkAll
      rw [postfixWalk_captures tree state fun node member =>
        captures node (List.mem_append_left _ member)]
      exact postfixWalkAll_captures others state fun node member =>
        captures node (List.mem_append_right _ member)

end

end Reduction

end BnfParsing
