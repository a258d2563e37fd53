import BnfParsing.Tree.Walk

/-!
Contract: values built from a tree by handlers for its rules.

The tree is walked in post-order over a stack of values. A leaf pushes its
token; a rule with a handler is reduced by it; a rule without one leaves the
values of its children where they are. Captures push nothing.

Owns: values, handlers with a state that lasts from tree to tree, registries,
and the reduction of a tree.

Does not own: any particular handler.
-/

set_option autoImplicit false

namespace BnfParsing.Reduction

universe u v

/-- A value on the stack. -/
inductive Value (α : Type u) where
  | token (text : Text)
  | built (value : α)
deriving DecidableEq, Repr

/-- Why a tree has no value. -/
inductive Problem where
  /-- A handler needs more values than there are. -/
  | underflow (rule : Text) (expected found : Nat)
  | invalid (reason : Text)
  | empty
deriving DecidableEq, Repr

/-- The wording of a problem. -/
def Problem.message : Problem → Text
  | .underflow rule expected found =>
      "rule ".toList ++ rule ++ " needs ".toList ++ Text.ofNat expected
        ++ " values on the stack, found ".toList ++ Text.ofNat found
  | .invalid reason => reason
  | .empty => "building finished without a value".toList

/-- How a rule is reduced. Stacks have their top first; handlers may change a
state of their own. -/
inductive Handler (σ : Type v) (α : Type u) where
  /-- Gets the whole stack. -/
  | stack (reduce : List (Value α) → σ → σ × Except Problem (List (Value α)))
  /-- Gets the values of the children in order; its result replaces them. A clean
  handler gets only the values of rules. -/
  | pop (clean : Bool) (reduce : List (Value α) → σ → σ × Except Problem α)

/-- Handlers under the names of their rules, at most one for each. -/
structure Registry (σ : Type v) (α : Type u) where
  handlers : List (Text × Handler σ α) := []

namespace Registry

variable {σ : Type v} {α : Type u}

/-- Registers a handler in place of an earlier one for the same rule. -/
def register (registry : Registry σ α) (rule : Text) (handler : Handler σ α) : Registry σ α :=
  ⟨registry.handlers.filter (fun entry => entry.1 != rule) ++ [(rule, handler)]⟩

/-- The handler of a rule. -/
def handler? (registry : Registry σ α) (rule : Text) : Option (Handler σ α) :=
  registry.handlers.lookup rule

/-- The rules that have handlers, in the order of their names. -/
def rules (registry : Registry σ α) : List Text :=
  (registry.handlers.map Prod.fst).mergeSort fun left right => !Text.precedes right left

end Registry

variable {σ : Type v} {α : Type u}

/-- The stack with its top first, and the state of the handlers. -/
structure State (σ : Type v) (α : Type u) where
  stack : List (Value α)
  handlers : σ

/-- The arguments of a handler: the values of the children in order, of which a
clean handler sees only those of rules. -/
def arguments (clean : Bool) (children : List Tree) (values : List (Value α)) :
    List (Value α) :=
  ((values.zip children).filter fun pair => !clean || pair.2.kind == .rule).map Prod.fst

/-- Reduces a rule node by its handler. -/
def reduceBy (rule : Text) (children : List Tree) (state : State σ α) :
    Handler σ α → State σ α × Option Problem
  | .stack reduce =>
      match reduce state.stack state.handlers with
      | (handlers, .ok stack) => (⟨stack, handlers⟩, none)
      | (handlers, .error problem) => (⟨state.stack, handlers⟩, some problem)
  | .pop clean reduce =>
      let count := children.length
      if state.stack.length < count then
        (state, some (.underflow rule count state.stack.length))
      else
        let values := (state.stack.take count).reverse
        let below := state.stack.drop count
        match reduce (arguments clean children values) state.handlers with
        | (handlers, .ok value) => (⟨.built value :: below, handlers⟩, none)
        | (handlers, .error problem) => (⟨below, handlers⟩, some problem)

/-- Pushes the tokens of leaves and reduces the rules that have handlers. -/
def reducer (registry : Registry σ α) : Visitor (State σ α) Problem where
  visit tree state :=
    match tree.kind with
    | .capture => (state, none)
    | .leaf => ({ state with stack := .token tree.token :: state.stack }, none)
    | .rule =>
        match registry.handler? tree.token with
        | none => (state, none)
        | some handler => reduceBy tree.token tree.children state handler
  pop state := state

/-- The value left on top of the stack, which must have been built. -/
def result : List (Value α) → Except Problem α
  | .built value :: _ => .ok value
  | .token text :: _ =>
      .error (.invalid ("building finished on the token '".toList ++ text ++ ['\'']))
  | [] => .error .empty

/-- Reduces a tree, starting from an empty stack and a state of the handlers. -/
def build (registry : Registry σ α) (tree : Tree) (handlers : σ) : σ × Except Problem α :=
  match tree.postfixWalk (reducer registry) ⟨[], handlers⟩ with
  | (state, some problem) => (state.handlers, .error problem)
  | (state, none) => (state.handlers, result state.stack)

end BnfParsing.Reduction
