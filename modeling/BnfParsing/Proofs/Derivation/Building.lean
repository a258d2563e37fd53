import BnfParsing.Proofs.Derivation.Soundness
import BnfParsing.Proofs.Tree.Frames
import BnfParsing.Tree.Catalogue

/-!
Contract: what can happen when values are built from a tree that the parser has
returned.

A rule that succeeds without consuming anything has read an empty production, and that
leaves a leaf. So no rule of such a tree is without children, and every subtree for a
rule or a leaf has a value to leave.

Owns:
- the layers of trees from the parser;
- the safety of building from them: a handler is never short of values, and a subtree
  leaves alone what was on the stack before it.

Does not own: the values that are built.
-/

set_option autoImplicit false

namespace BnfParsing

universe u v

namespace Tree

theorem layered_ofMatch {holds : Tree → Prop} (text : Text) (groups : List Text) :
    (ofMatch text groups).Layered holds := by
  apply Layered.leaf
  intro node member
  obtain ⟨group, grouped, inside⟩ := mem_nodesAll.mp member
  obtain ⟨captured, -, rfl⟩ := List.mem_map.mp grouped
  obtain rfl := List.mem_singleton.mp inside
  rfl

/-- A node of such a tree has the same layers, or belongs to what a leaf has captured. -/
theorem Layered.of_mem_nodes {holds : Tree → Prop} {tree node : Tree}
    (layered : tree.Layered holds) (member : node ∈ tree.nodes) :
    node.Layered holds ∨ ∀ inner ∈ node.nodes, inner.kind = .capture := by
  induction layered with
  | leaf token value captures =>
      rcases List.mem_cons.mp member with rfl | inside
      · exact .inl (.leaf token value captures)
      · exact .inr fun inner found => captures inner (nodes_subset_nodesAll inside found)
  | rule name value here below inductionHypothesis =>
      rcases List.mem_cons.mp member with rfl | inside
      · exact .inl (.rule name value here below)
      · obtain ⟨child, isChild, inChild⟩ := mem_nodesAll.mp inside
        exact inductionHypothesis child isChild inChild

end Tree

namespace Parser

variable {parser : Parser} {nested : Rule → Text → Traced (Option (Tree × Text))}
variable {depth : Nat} {alternative : Alternative}

/-- Every rule of a derived tree has children. -/
def AllLayered (nested : Rule → Text → Traced (Option (Tree × Text))) : Prop :=
  ∀ rule cursor child rest, (nested rule cursor).result = .ok (some (child, rest)) →
    child.Layered fun node => node.children ≠ []

theorem Reads.layered (nestedLayered : AllLayered nested) {cursor rest : Text}
    {symbol : Symbol} {child : Tree} (reads : parser.Reads nested cursor symbol child rest) :
    child.Layered fun node => node.children ≠ [] := by
  cases reads with
  | marker => exact Tree.layered_ofMatch _ []
  | nested _ derived => exact nestedLayered _ _ _ _ derived
  | text => exact Tree.layered_ofMatch _ _

theorem matchSymbols_layered (nestedLayered : AllLayered nested) {symbols : List Symbol}
    {text : Text} {matched : Matched}
    (found : (parser.matchSymbols nested depth alternative symbols text).result =
      .ok (some matched)) :
    ∀ child ∈ matched.children, child.Layered fun node => node.children ≠ [] := by
  induction symbols generalizing text matched with
  | nil =>
      simp only [matchSymbols_nil, Except.ok.injEq, Option.some.injEq] at found
      subst found
      exact List.forall_mem_nil _
  | cons symbol symbols inductionHypothesis =>
      rcases matchSymbols_cons_eq_some found with
        ⟨-, rfl⟩ | ⟨child, rest, others, reads, othersFound, rfl⟩
      · exact List.forall_mem_singleton.mpr (Tree.layered_ofMatch [] [])
      · exact List.forall_mem_cons.mpr
          ⟨reads.layered nestedLayered, inductionHypothesis othersFound⟩

/-- A match without children has read nothing, not even an empty production. -/
theorem matchSymbols_of_childless {symbols : List Symbol} {text : Text} {matched : Matched}
    (found : (parser.matchSymbols nested depth alternative symbols text).result =
      .ok (some matched)) (childless : matched.children = []) : matched = ⟨[], text, false⟩ := by
  cases symbols with
  | nil =>
      simp only [matchSymbols_nil, Except.ok.injEq, Option.some.injEq] at found
      exact found.symm
  | cons symbol symbols =>
      rcases matchSymbols_cons_eq_some found with ⟨-, rfl⟩ | ⟨child, -, others, -, -, rfl⟩
      · cases childless
      · cases childless

theorem derive_allLayered (levels : Nat) : AllLayered (derive parser levels depth) := by
  induction levels generalizing depth with
  | zero =>
      intro rule cursor child rest derived
      simp [derive_zero] at derived
  | succ levels inductionHypothesis =>
      intro rule cursor child rest derived
      obtain ⟨lower, chosen, matched, same, chooses, rfl, rfl⟩ := derive_eq_some derived
      obtain rfl : levels = lower := by omega
      have fruitful : matched.children ≠ [] := by
        intro childless
        obtain rfl := matchSymbols_of_childless chooses.matches_input childless
        exact absurd (chooses.productive rfl) Bool.false_ne_true
      exact .rule rule.name _ fruitful
        (matchSymbols_layered inductionHypothesis chooses.matches_input)

theorem tryParse_layered {input : Text} {tree : Tree}
    (found : (parser.tryParse input).result = .ok (some tree)) :
    tree.Layered fun node => node.children ≠ [] := by
  obtain ⟨rest, derived⟩ := tryParse_eq_some.mp found
  exact derive_allLayered _ _ _ _ _ derived

end Parser

namespace Reduction

variable {σ : Type v} {α : Type u} {registry : Registry σ α}

/-- A tree whose rules have children ends in no problem but on a token, unless a handler
gives one. -/
theorem build_eq_error (pops : registry.OnlyPops) {tree : Tree}
    (layered : tree.Layered fun node => node.children ≠ []) {handlers : σ} {problem : Problem}
    (failed : (build registry tree handlers).2 = .error problem) :
    (∃ token, problem =
        .invalid ("building finished on the token '".toList ++ token ++ ['\''])) ∨
      registry.RaisesAmong tree.postfixNotices ⟨[], handlers⟩ problem := by
  have frames : Frames registry [] 0 1 tree.postfixNotices :=
    .postfixNotices pops layered []
  have empty : Above [] 0 (⟨[], handlers⟩ : State σ α) := ⟨[], Nat.le_refl 0, rfl⟩
  unfold build at failed
  rw [Tree.postfixWalk_eq_tellAll] at failed
  rcases told : (reducer registry).tellAll tree.postfixNotices ⟨[], handlers⟩
    with ⟨final, _ | raised⟩
  · left
    rw [told] at failed
    replace failed : result final.stack = .error problem := failed
    obtain ⟨values, positive, stacked⟩ := frames.leaves empty told
    cases values with
    | nil => cases positive
    | cons top others =>
        rw [stacked] at failed
        cases top with
        | token text =>
            cases failed
            exact ⟨text, rfl⟩
        | built value => cases failed
  · right
    rw [told] at failed
    cases failed
    exact frames.raises empty told

/-- What is on the stack before a node's subtree stays there all the while, and a rule or
a leaf adds to it. -/
theorem framed_of_mem_nodes (pops : registry.OnlyPops) {tree : Tree}
    (layered : tree.Layered fun node => node.children ≠ []) {node : Tree}
    (member : node ∈ tree.nodes) (state : State σ α) :
    (∀ part, part <+: node.postfixNotices →
      state.stack <:+ ((reducer registry).tellAll part state).1.stack) ∧
    ∀ final, node.postfixWalk (reducer registry) state = (final, none) →
      node.kind ≠ .capture → ∃ values, values ≠ [] ∧ final.stack = values ++ state.stack := by
  have above : Above state.stack 0 state := ⟨[], Nat.le_refl 0, rfl⟩
  rcases layered.of_mem_nodes member with nodeLayered | captures
  · have frames : Frames registry state.stack 0 1 node.postfixNotices :=
      .postfixNotices pops nodeLayered state.stack
    refine ⟨frames.keeps above, ?_⟩
    intro final walked _
    rw [Tree.postfixWalk_eq_tellAll] at walked
    obtain ⟨values, positive, stacked⟩ := frames.leaves above walked
    exact ⟨values, List.ne_nil_of_length_pos positive, stacked⟩
  · have frames : Frames registry state.stack 0 0 node.postfixNotices :=
      Frames.postfixNotices_captures node captures
    refine ⟨frames.keeps above, ?_⟩
    intro final _ notCapture
    exact absurd (captures node node.self_mem_nodes) notCapture

end Reduction

namespace Parser

open Reduction

/-- From a tree that the parser has returned, building with handlers for the values of the
children ends in no problem but on a token, unless a handler gives one. The walk of a
node's subtree never takes anything from below, and adds something for a rule or a
leaf that it gets through. -/
theorem build_parsed_safe {parser : Parser} {input : Text} {tree : Tree}
    (found : (parser.tryParse input).result = .ok (some tree)) {σ : Type v} {α : Type u}
    (registry : Registry σ α) (pops : registry.OnlyPops) :
    (∀ handlers problem, (build registry tree handlers).2 = .error problem →
      (∃ token, problem =
        .invalid ("building finished on the token '".toList ++ token ++ ['\''])) ∨
      registry.RaisesAmong tree.postfixNotices ⟨[], handlers⟩ problem) ∧
    ∀ node ∈ tree.nodes, ∀ state : State σ α,
      node.postfixWalk (reducer registry) state =
        (reducer registry).tellAll node.postfixNotices state ∧
      (∀ part, part <+: node.postfixNotices →
        state.stack <:+ ((reducer registry).tellAll part state).1.stack) ∧
      ∀ final, node.postfixWalk (reducer registry) state = (final, none) →
        node.kind ≠ .capture →
        ∃ values, values ≠ [] ∧ final.stack = values ++ state.stack := by
  have layered := tryParse_layered found
  constructor
  · intro handlers problem failed
    exact build_eq_error pops layered failed
  · intro node member state
    exact ⟨Tree.postfixWalk_eq_tellAll (reducer registry) node state,
      framed_of_mem_nodes pops layered member state⟩

/-- A handler for the rule that closes, but none for the rule around it. -/
def closingHandlers : Registry Catalogue.Calls Text where
  handlers := [("<T>".toList, Catalogue.popHandler false "<T>".toList "show")]

theorem balancedTree_build_safe :
    (balanced.tryParse " a a <T> b".toList).result = .ok (some balancedTree) ∧
      closingHandlers.OnlyPops ∧
      (build closingHandlers balancedTree []).2 = .ok "<T>('b')".toList ∧
      ∀ node ∈ balancedTree.nodes, ∀ state : State Catalogue.Calls Text,
        (∀ part, part <+: node.postfixNotices →
          state.stack <:+ ((reducer closingHandlers).tellAll part state).1.stack) ∧
        ∀ final, node.postfixWalk (reducer closingHandlers) state = (final, none) →
          node.kind ≠ .capture →
          ∃ values, values ≠ [] ∧ final.stack = values ++ state.stack := by
  have found : (balanced.tryParse " a a <T> b".toList).result = .ok (some balancedTree) := rfl
  have pops : closingHandlers.OnlyPops := Registry.onlyPops_singleton _ _ _
  refine ⟨found, pops, rfl, ?_⟩
  intro node member state
  exact ((build_parsed_safe found closingHandlers pops).2 node member state).2

/-- One rule for the letter `a`. -/
def singleLetter : Parser where
  grammar :=
    { rules := [⟨"<S>".toList, [{ symbols := [.terminal ['a'] true] }]⟩]
      names_nodup := by decide }
  start := ⟨"<S>".toList, [{ symbols := [.terminal ['a'] true] }]⟩
  start_mem := List.mem_cons_self
  limit := 5
  partialInput := false
  level := .off

/-- A handler that claims to find nothing. -/
def emptyHanded : Registry Catalogue.Calls Text where
  handlers := [("<S>".toList, Catalogue.popHandler false "<S>".toList "empty")]

/-- What a handler claims is passed on, even that there is no value. -/
theorem singleLetter_build_empty :
    (singleLetter.tryParse ['a']).result =
        .ok (some (Tree.ofRule "<S>".toList [.leaf ['a']])) ∧
      emptyHanded.OnlyPops ∧
      (build emptyHanded (Tree.ofRule "<S>".toList [.leaf ['a']]) []).2 = .error .empty :=
  ⟨rfl, Registry.onlyPops_singleton _ _ _, rfl⟩

end Parser

end BnfParsing
