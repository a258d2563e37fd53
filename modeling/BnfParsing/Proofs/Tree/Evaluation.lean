import BnfParsing.Proofs.Tree.Reducing
import BnfParsing.Tree.Catalogue

/-!
Contract: the reduction of a tree over a stack is its evaluation from the bottom up.

The stack has no marks between the values of different nodes: a handler takes as
many values as its node has children, whatever put them there. What keeps this
right is that each subtree leaves exactly one value, and the stack below alone.
Captures push nothing, so a leaf or a rule below a capture breaks it.

Owns:
- the evaluation of a tree by recursion;
- the stack after the walk of a tree, in terms of its evaluation;
- what goes wrong below a capture.

Does not own: trees whose rules leave more than one value.
-/

set_option autoImplicit false

namespace BnfParsing

universe u v

namespace Tree

mutual

/-- Whether no capture is met on the way from the root before a leaf. -/
def capturesBelowLeaves : Tree → Bool
  | .node .leaf _ _ _ => true
  | .node .capture _ _ _ => false
  | .node .rule _ _ children => capturesBelowLeavesAll children

/-- Whether none of several trees has a capture that is not below a leaf. -/
def capturesBelowLeavesAll : List Tree → Bool
  | [] => true
  | tree :: others => tree.capturesBelowLeaves && capturesBelowLeavesAll others

end

end Tree

namespace Reduction

variable {σ : Type v} {α : Type u} {registry : Registry σ α}

/-- The values of those children that are rules. -/
def valuesOfRules : List Tree → List (Value α) → List (Value α)
  | child :: children, value :: values =>
      if child.kind = .rule then value :: valuesOfRules children values
      else valuesOfRules children values
  | _, _ => []

/-- The value of a rule from those of its children: what its handler builds, or, where
there is none, the value of the only child. -/
def ruleValue (registry : Registry σ α) (rule : Text) (children : List Tree)
    (values : List (Value α)) (handlers : σ) : σ × Except Problem (Value α) :=
  match registry.handler? rule, values with
  | some (.pop clean reduce), values =>
      match reduce (if clean then valuesOfRules children values else values) handlers with
      | (handlers, .ok value) => (handlers, .ok (.built value))
      | (handlers, .error problem) => (handlers, .error problem)
  | none, [value] => (handlers, .ok value)
  | _, _ => (handlers, .error .empty)

mutual

/-- The value of a tree. The handlers are called from the bottom up and from left to
right; the first problem is the outcome. A capture has no value. -/
def evaluate (registry : Registry σ α) : Tree → σ → σ × Except Problem (Value α)
  | .node .leaf token _ _, handlers => (handlers, .ok (.token token))
  | .node .capture _ _ _, handlers => (handlers, .error .empty)
  | .node .rule name _ children, handlers =>
      match evaluateAll registry children handlers with
      | (handlers, .ok values) => ruleValue registry name children values handlers
      | (handlers, .error problem) => (handlers, .error problem)

/-- The values of several trees, one after the other. -/
def evaluateAll (registry : Registry σ α) : List Tree → σ → σ × Except Problem (List (Value α))
  | [], handlers => (handlers, .ok [])
  | tree :: others, handlers =>
      match evaluate registry tree handlers with
      | (handlers, .error problem) => (handlers, .error problem)
      | (handlers, .ok value) =>
          match evaluateAll registry others handlers with
          | (handlers, .error problem) => (handlers, .error problem)
          | (handlers, .ok values) => (handlers, .ok (value :: values))

end

/-- The outcome of building, given the value of the tree, which must have been built. -/
def builtValue : Value α → Except Problem α
  | .built value => .ok value
  | .token text =>
      .error (.invalid ("building finished on the token '".toList ++ text ++ ['\'']))

theorem length_evaluateAll {trees : List Tree} {before after : σ} {values : List (Value α)}
    (evaluated : evaluateAll registry trees before = (after, .ok values)) :
    values.length = trees.length := by
  induction trees generalizing before values with
  | nil =>
      cases evaluated
      rfl
  | cons tree others inductionHypothesis =>
      unfold evaluateAll at evaluated
      split at evaluated
      · cases evaluated
      · split at evaluated
        next => cases evaluated
        next later =>
          cases evaluated
          rw [List.length_cons, List.length_cons, inductionHypothesis later]

/-! ## Arguments -/

theorem arguments_eq (clean : Bool) {children : List Tree} {values : List (Value α)}
    (enough : values.length = children.length) :
    arguments clean children values =
      if clean then valuesOfRules children values else values := by
  cases clean with
  | false =>
      have all : (values.zip children).filter
          (fun pair => !false || pair.2.kind == .rule) = values.zip children :=
        List.filter_eq_self.mpr fun _ _ => rfl
      rw [if_neg Bool.false_ne_true, arguments, all, List.map_fst_zip (Nat.le_of_eq enough)]
  | true =>
      rw [if_pos rfl]
      induction children generalizing values with
      | nil =>
          obtain rfl := List.eq_nil_of_length_eq_zero enough
          rfl
      | cons child children inductionHypothesis =>
          obtain ⟨value, others, rfl⟩ := List.exists_cons_of_length_eq_add_one enough
          have rest := inductionHypothesis (Nat.succ.inj enough)
          unfold arguments at rest ⊢
          rw [List.zip_cons_cons, List.filter_cons, valuesOfRules, ← rest]
          by_cases rule : child.kind = .rule
          · simp [rule]
          · simp [rule]

/-! ## The stack after a walk -/

/-- The walk of a tree puts its value on any stack, or ends with its problem. -/
structure Reduces (registry : Registry σ α) (tree : Tree) : Prop where
  value : ∀ (state : State σ α) {after : σ} {value : Value α},
    evaluate registry tree state.handlers = (after, .ok value) →
    tree.postfixWalk (reducer registry) state = (⟨value :: state.stack, after⟩, none)
  problem : ∀ (state : State σ α) {after : σ} {problem : Problem},
    evaluate registry tree state.handlers = (after, .error problem) →
    ∃ left, tree.postfixWalk (reducer registry) state = (⟨left, after⟩, some problem)

/-- The walks of several trees put their values on any stack one by one. -/
structure ReducesAll (registry : Registry σ α) (trees : List Tree) : Prop where
  values : ∀ (state : State σ α) {after : σ} {values : List (Value α)},
    evaluateAll registry trees state.handlers = (after, .ok values) →
    Tree.postfixWalkAll (reducer registry) trees state =
      (⟨values.reverse ++ state.stack, after⟩, none)
  problem : ∀ (state : State σ α) {after : σ} {problem : Problem},
    evaluateAll registry trees state.handlers = (after, .error problem) →
    ∃ left, Tree.postfixWalkAll (reducer registry) trees state = (⟨left, after⟩, some problem)

theorem reducesAll {trees : List Tree} (each : ∀ tree ∈ trees, Reduces registry tree) :
    ReducesAll registry trees := by
  induction trees with
  | nil =>
      constructor
      · intro state after values evaluated
        cases evaluated
        rfl
      · intro state after problem evaluated
        cases evaluated
  | cons tree others inductionHypothesis =>
      have first := each tree List.mem_cons_self
      have rest := inductionHypothesis fun other member =>
        each other (List.mem_cons_of_mem tree member)
      constructor
      · intro state after values evaluated
        unfold evaluateAll at evaluated
        split at evaluated
        case h_1 => cases evaluated
        case h_2 middle value evaluatedFirst =>
          split at evaluated
          case h_1 => cases evaluated
          case h_2 evaluatedRest =>
            cases evaluated
            unfold Tree.postfixWalkAll
            rw [first.value _ evaluatedFirst, List.reverse_cons, List.append_assoc]
            exact rest.values _ evaluatedRest
      · intro state after problem evaluated
        unfold evaluateAll at evaluated
        unfold Tree.postfixWalkAll
        split at evaluated
        case h_1 evaluatedFirst =>
          cases evaluated
          obtain ⟨left, walked⟩ := first.problem _ evaluatedFirst
          exact ⟨left, by rw [walked]⟩
        case h_2 middle value evaluatedFirst =>
          rw [first.value _ evaluatedFirst]
          split at evaluated
          case h_2 => cases evaluated
          case h_1 evaluatedRest =>
            cases evaluated
            exact rest.problem _ evaluatedRest

/-- A rule without a handler has one child, whose value it passes on. -/
def PassesOn (registry : Registry σ α) (node : Tree) : Prop :=
  registry.handler? node.token = none → node.children.length = 1

/-- With the values of its children on top of the stack, the visit of a rule replaces
them with its own, or removes them if it has a problem. -/
theorem visit_rule (pops : registry.OnlyPops) {node : Tree} (rule : node.kind = .rule)
    (passes : PassesOn registry node) {values : List (Value α)}
    (enough : values.length = node.children.length) (below : List (Value α)) (before : σ) :
    (reducer registry).visit node ⟨values.reverse ++ below, before⟩ =
      match ruleValue registry node.token node.children values before with
      | (after, .ok value) => (⟨value :: below, after⟩, none)
      | (after, .error problem) => (⟨below, after⟩, some problem) := by
  rcases pops.cases node.token with unhandled | ⟨clean, reduce, handled⟩
  · obtain ⟨single, rfl⟩ := List.length_eq_one_iff.mp (enough.trans (passes unhandled))
    rw [visit_unhandled rule unhandled]
    simp only [ruleValue, unhandled]
    rfl
  · rw [visit_handled rule handled rfl enough, arguments_eq clean enough]
    simp only [ruleValue, handled]
    rcases reduce (if clean then valuesOfRules node.children values else values) before with
      ⟨after, problem | value⟩ <;> rfl

theorem reduces_leaf (token : Text) (value : Option Text) {groups : List Tree}
    (captures : ∀ node ∈ Tree.nodesAll groups, node.kind = .capture) :
    Reduces registry (.node .leaf token value groups) := by
  constructor
  · intro state after value evaluated
    cases evaluated
    unfold Tree.postfixWalk
    rw [postfixWalkAll_captures groups state captures]
    rfl
  · intro state after problem evaluated
    cases evaluated

theorem reduces_rule (pops : registry.OnlyPops) (name : Text) (value : Option Text)
    {children : List Tree} (passes : PassesOn registry (.node .rule name value children))
    (below : ReducesAll registry children) :
    Reduces registry (.node .rule name value children) := by
  constructor
  · intro state after value evaluated
    unfold evaluate at evaluated
    unfold Tree.postfixWalk
    split at evaluated
    case h_2 => cases evaluated
    case h_1 middle values evaluatedAll =>
      have visited := visit_rule pops rfl passes (length_evaluateAll evaluatedAll)
        state.stack middle
      simp only [Tree.token, Tree.children, evaluated] at visited
      rw [below.values _ evaluatedAll]
      simp only [visited]
      rfl
  · intro state after problem evaluated
    unfold evaluate at evaluated
    unfold Tree.postfixWalk
    split at evaluated
    case h_2 evaluatedAll =>
      cases evaluated
      obtain ⟨left, walked⟩ := below.problem _ evaluatedAll
      exact ⟨left, by rw [walked]⟩
    case h_1 middle values evaluatedAll =>
      have visited := visit_rule pops rfl passes (length_evaluateAll evaluatedAll)
        state.stack middle
      simp only [Tree.token, Tree.children, evaluated] at visited
      rw [below.values _ evaluatedAll]
      simp only [visited]
      exact ⟨state.stack, rfl⟩

theorem reduces_of_layered (pops : registry.OnlyPops) {tree : Tree}
    (layered : tree.Layered (PassesOn registry)) : Reduces registry tree := by
  induction layered with
  | leaf token value captures => exact reduces_leaf token value captures
  | rule name value here _ inductionHypothesis =>
      exact reduces_rule pops name value here (reducesAll inductionHypothesis)

theorem build_of_reduces {tree : Tree} (reduces : Reduces registry tree) (handlers : σ) :
    build registry tree handlers =
      ((evaluate registry tree handlers).1,
        (evaluate registry tree handlers).2.bind builtValue) := by
  unfold build
  cases evaluated : evaluate registry tree handlers with
  | mk after outcome =>
      cases outcome with
      | error problem =>
          obtain ⟨left, walked⟩ := reduces.problem ⟨[], handlers⟩ evaluated
          rw [walked]
          rfl
      | ok value =>
          rw [reduces.value ⟨[], handlers⟩ evaluated]
          cases value <;> rfl

/-! ## Captures below leaves -/

mutual

theorem captures_below : ∀ tree : Tree, tree.kind = .capture →
    (∀ node ∈ tree.nodes, node.kind ≠ .rule → ∀ child ∈ node.children, child.kind = .capture) →
    ∀ node ∈ tree.nodes, node.kind = .capture
  | .node kind token value children, capture, quiet, node, member => by
      have notRule : (Tree.node kind token value children).kind ≠ .rule := by
        rw [capture]
        decide
      rcases List.mem_cons.mp member with rfl | inside
      · exact capture
      · exact captures_belowAll children (quiet _ List.mem_cons_self notRule)
          (fun other found => quiet other (List.mem_cons_of_mem _ found)) node inside

/-- Where only rules have other children than captures, captures have captures below. -/
theorem captures_belowAll : ∀ trees : List Tree, (∀ tree ∈ trees, tree.kind = .capture) →
    (∀ node ∈ Tree.nodesAll trees, node.kind ≠ .rule →
      ∀ child ∈ node.children, child.kind = .capture) →
    ∀ node ∈ Tree.nodesAll trees, node.kind = .capture
  | [], _, _, _, member => absurd member List.not_mem_nil
  | tree :: others, captures, quiet, node, member => by
      rcases List.mem_append.mp member with inTree | inOthers
      · exact captures_below tree (captures tree List.mem_cons_self)
          (fun other found => quiet other (List.mem_append_left _ found)) node inTree
      · exact captures_belowAll others
          (fun other found => captures other (List.mem_cons_of_mem _ found))
          (fun other found => quiet other (List.mem_append_right _ found)) node inOthers

end

mutual

theorem layered_of_capturesBelowLeaves {holds : Tree → Prop} : ∀ tree : Tree,
    tree.capturesBelowLeaves →
    (∀ node ∈ tree.nodes, node.kind ≠ .rule → ∀ child ∈ node.children, child.kind = .capture) →
    (∀ node ∈ tree.nodes, node.kind = .rule → holds node) → tree.Layered holds
  | .node .leaf token value groups, _, quiet, _ => by
      refine .leaf token value (captures_belowAll groups ?_ ?_)
      · exact quiet _ List.mem_cons_self NodeKind.noConfusion
      · exact fun node found => quiet node (List.mem_cons_of_mem _ found)
  | .node .capture _ _ _, captured, _, _ => absurd captured Bool.false_ne_true
  | .node .rule name value children, captured, quiet, each =>
      .rule name value (each _ List.mem_cons_self rfl)
        (layeredAll_of_capturesBelowLeaves children captured
          (fun node found => quiet node (List.mem_cons_of_mem _ found))
          (fun node found => each node (List.mem_cons_of_mem _ found)))

theorem layeredAll_of_capturesBelowLeaves {holds : Tree → Prop} : ∀ trees : List Tree,
    Tree.capturesBelowLeavesAll trees →
    (∀ node ∈ Tree.nodesAll trees, node.kind ≠ .rule →
      ∀ child ∈ node.children, child.kind = .capture) →
    (∀ node ∈ Tree.nodesAll trees, node.kind = .rule → holds node) →
    ∀ tree ∈ trees, tree.Layered holds
  | [], _, _, _, _, member => absurd member List.not_mem_nil
  | first :: others, captured, quiet, each, tree, member => by
      obtain ⟨capturedFirst, capturedOthers⟩ := Bool.and_eq_true_iff.mp captured
      rcases List.mem_cons.mp member with same | inOthers
      · rw [same]
        exact layered_of_capturesBelowLeaves first capturedFirst
          (fun node found => quiet node (List.mem_append_left _ found))
          (fun node found => each node (List.mem_append_left _ found))
      · exact layeredAll_of_capturesBelowLeaves others capturedOthers
          (fun node found => quiet node (List.mem_append_right _ found))
          (fun node found => each node (List.mem_append_right _ found)) tree inOthers

end

/-- Where captures stand only below leaves and have only captures below them, and every
rule without a handler has one child, building a tree is evaluating it: a leaf gives
its token, a rule without a handler the value of its child, any other what its handler
builds from the values of its children. -/
theorem build_eq_evaluate (registry : Registry σ α) (tree : Tree) (handlers : σ)
    (captured : tree.capturesBelowLeaves)
    (leaves : ∀ node ∈ tree.nodes, node.kind = .leaf →
      ∀ child ∈ node.children, child.kind = .capture)
    (captures : ∀ node ∈ tree.nodes, node.kind = .capture →
      ∀ child ∈ node.children, child.kind = .capture)
    (pops : registry.OnlyPops)
    (passes : ∀ node ∈ tree.nodes, node.kind = .rule → registry.handler? node.token = none →
      node.children.length = 1) :
    build registry tree handlers =
      ((evaluate registry tree handlers).1,
        (evaluate registry tree handlers).2.bind builtValue) := by
  have quiet : ∀ node ∈ tree.nodes, node.kind ≠ .rule →
      ∀ child ∈ node.children, child.kind = .capture := by
    intro node member notRule
    cases kind : node.kind with
    | rule => exact absurd kind notRule
    | leaf => exact leaves node member kind
    | capture => exact captures node member kind
  exact build_of_reduces
    (reduces_of_layered pops (layered_of_capturesBelowLeaves tree captured quiet passes)) handlers

/-- A sum of two numbers, of which one is matched by a pattern with a group. -/
def sumTree : Tree :=
  .ofRule "<sum>".toList
    [.leaf ['('], .ofRule "<number>".toList [.ofMatch "12".toList ["2".toList]], .leaf ['+'],
      .ofRule "<term>".toList [.ofRule "<number>".toList [.leaf "-5".toList]], .leaf [')']]

/-- Handlers for sums and numbers, but none for terms. -/
def sumHandlers : Registry Catalogue.Calls Text where
  handlers :=
    [("<sum>".toList, Catalogue.popHandler true "<sum>".toList "sum"),
      ("<number>".toList, Catalogue.popHandler false "<number>".toList "negate")]

theorem sumTree_build_eq_evaluate :
    sumTree.capturesBelowLeaves ∧
      (∀ node ∈ sumTree.nodes, node.kind = .leaf →
        ∀ child ∈ node.children, child.kind = .capture) ∧
      (∀ node ∈ sumTree.nodes, node.kind = .capture →
        ∀ child ∈ node.children, child.kind = .capture) ∧
      sumHandlers.OnlyPops ∧
      (∀ node ∈ sumTree.nodes, node.kind = .rule → sumHandlers.handler? node.token = none →
        node.children.length = 1) ∧
      (build sumHandlers sumTree []).2 = .ok "-7".toList ∧
      (evaluate sumHandlers sumTree []).2.bind builtValue = .ok "-7".toList := by
  have captured : sumTree.capturesBelowLeaves := by decide
  have leaves : ∀ node ∈ sumTree.nodes, node.kind = .leaf →
      ∀ child ∈ node.children, child.kind = .capture := by decide
  have captures : ∀ node ∈ sumTree.nodes, node.kind = .capture →
      ∀ child ∈ node.children, child.kind = .capture := by decide
  have pops : sumHandlers.OnlyPops := by
    apply Registry.onlyPops_of_handlers
    intro entry member
    simp only [sumHandlers, List.mem_cons, List.not_mem_nil, or_false] at member
    rcases member with rfl | rfl
    · exact ⟨true, _, rfl⟩
    · exact ⟨false, _, rfl⟩
  have passes : ∀ node ∈ sumTree.nodes, node.kind = .rule →
      sumHandlers.handler? node.token = none → node.children.length = 1 := by decide
  have built : (build sumHandlers sumTree []).2 = .ok "-7".toList := rfl
  refine ⟨captured, leaves, captures, pops, passes, built, ?_⟩
  rw [← built, build_eq_evaluate sumHandlers sumTree [] captured leaves captures pops passes]

/-- A leaf below a capture, which is below another leaf. -/
def nestedLeaf : Tree :=
  .ofRule "<S>".toList
    [.leaf ['a'], .node .leaf ['b'] none [.node .capture ['c'] none [.leaf ['d']]]]

/-- A handler that shows its arguments. -/
def showHandlers : Registry Catalogue.Calls Text where
  handlers := [("<S>".toList, Catalogue.popHandler false "<S>".toList "show")]

/-- Captures stand only below leaves here, and leaves have only captures for children,
but the leaf below the capture takes the place of an argument. -/
theorem nestedLeaf_build_ne_evaluate :
    nestedLeaf.capturesBelowLeaves ∧
      (∀ node ∈ nestedLeaf.nodes, node.kind = .leaf →
        ∀ child ∈ node.children, child.kind = .capture) ∧
      showHandlers.OnlyPops ∧
      (∀ node ∈ nestedLeaf.nodes, node.kind = .rule →
        showHandlers.handler? node.token = none → node.children.length = 1) ∧
      (build showHandlers nestedLeaf []).2 = .ok "<S>('d','b')".toList ∧
      (evaluate showHandlers nestedLeaf []).2.bind builtValue = .ok "<S>('a','b')".toList ∧
      build showHandlers nestedLeaf [] ≠
        ((evaluate showHandlers nestedLeaf []).1,
          (evaluate showHandlers nestedLeaf []).2.bind builtValue) := by
  have built : (build showHandlers nestedLeaf []).2 = .ok "<S>('d','b')".toList := rfl
  have evaluated : (evaluate showHandlers nestedLeaf []).2.bind builtValue =
      .ok "<S>('a','b')".toList := rfl
  have pops : showHandlers.OnlyPops := Registry.onlyPops_singleton _ _ _
  refine ⟨by decide, by decide, pops, by decide, built, evaluated, ?_⟩
  intro same
  have differs := (built.symm.trans (congrArg Prod.snd same)).trans evaluated
  simp at differs

end Reduction

end BnfParsing
