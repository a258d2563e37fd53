import BnfParsing.Tree.Basic

/-!
Contract: walks over a tree that hand its nodes to a visitor.

Owns: visitors with any state and any reason to stop, the two orders of
visiting, and the visitor that records what it is told.

Does not own: the visitors that write a tree.
-/

set_option autoImplicit false

namespace BnfParsing

universe u v

/-- Someone who is told of each node, and of leaving it. A visit may end the
walk; the state it leaves is kept. -/
structure Visitor (σ : Type u) (ε : Type v) where
  visit : Tree → σ → σ × Option ε
  pop : σ → σ

namespace Tree

variable {σ : Type u} {ε : Type v}

mutual

/-- Visits a node, then its subtrees from left to right, then leaves it. -/
def prefixWalk (visitor : Visitor σ ε) : Tree → σ → σ × Option ε
  | .node kind token value children, state =>
      match visitor.visit (.node kind token value children) state with
      | (state, some stopped) => (state, some stopped)
      | (state, none) =>
          match prefixWalkAll visitor children state with
          | (state, some stopped) => (state, some stopped)
          | (state, none) => (visitor.pop state, none)

/-- The walks of several trees, one after the other. -/
def prefixWalkAll (visitor : Visitor σ ε) : List Tree → σ → σ × Option ε
  | [], state => (state, none)
  | tree :: rest, state =>
      match prefixWalk visitor tree state with
      | (state, some stopped) => (state, some stopped)
      | (state, none) => prefixWalkAll visitor rest state

end

mutual

/-- Visits the subtrees of a node from left to right, then the node, then
leaves it. -/
def postfixWalk (visitor : Visitor σ ε) : Tree → σ → σ × Option ε
  | .node kind token value children, state =>
      match postfixWalkAll visitor children state with
      | (state, some stopped) => (state, some stopped)
      | (state, none) =>
          match visitor.visit (.node kind token value children) state with
          | (state, some stopped) => (state, some stopped)
          | (state, none) => (visitor.pop state, none)

/-- The walks of several trees, one after the other. -/
def postfixWalkAll (visitor : Visitor σ ε) : List Tree → σ → σ × Option ε
  | [], state => (state, none)
  | tree :: rest, state =>
      match postfixWalk visitor tree state with
      | (state, some stopped) => (state, some stopped)
      | (state, none) => postfixWalkAll visitor rest state

end

end Tree

/-- The order in which a visitor wants to see the nodes. -/
inductive Traversal where
  | prefixOrder
  | postfixOrder
deriving DecidableEq, Repr

/-- Walks the tree in the given order. -/
def Tree.walk {σ : Type u} {ε : Type v} (traversal : Traversal) (visitor : Visitor σ ε)
    (tree : Tree) (state : σ) : σ × Option ε :=
  match traversal with
  | .prefixOrder => tree.prefixWalk visitor state
  | .postfixOrder => tree.postfixWalk visitor state

/-- What a visitor is told. -/
inductive WalkEvent where
  | visit (label : Text)
  | pop
deriving DecidableEq, Repr

/-- The events told so far, the latest first, and the number of visits. -/
structure Recording where
  events : List WalkEvent := []
  visits : Nat := 0
deriving DecidableEq, Repr

/-- Records every event. If `stop` is not zero, the visit of that number stops
the walk with the label of its node instead. -/
def recorder (stop : Nat) : Visitor Recording Text where
  visit tree recording :=
    let visits := recording.visits + 1
    if visits = stop then ({ recording with visits := visits }, some tree.label)
    else (⟨.visit tree.label :: recording.events, visits⟩, none)
  pop recording := { recording with events := .pop :: recording.events }

end BnfParsing
