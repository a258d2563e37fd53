import BnfParsing.Proofs.Derivation.Choice
import BnfParsing.Proofs.Derivation.Soundness
import BnfParsing.Proofs.Text.Trimming

/-!
Contract: a nested rule of a tree has text below it, or it ends with an empty production
of its own.

A rule that leaves as much text as it was given must have read an empty production itself.
One that leaves less has passed some characters, and below the outermost level these are
not all blanks: the text it was given starts without a blank. So one of its leaves has
text.

Owns:
- where the rule nodes below the root of a tree come from, and with which alternative;
- the empty production that completes an alternative, and the leaf it leaves;
- the productivity of nested rules.

Does not own: the outermost rule, whose text may start with blanks.
-/

set_option autoImplicit false

namespace BnfParsing.Parser

variable {parser : Parser} {nested : Rule → Text → Traced (Option (Tree × Text))}
variable {levels depth : Nat} {alternative chosen : Alternative} {rule : Rule}
variable {text cursor input rest whole : Text} {matched : Matched} {tree node : Tree}

/-! ## The alternative of a rule -/

/-- The rule settles for the alternative: those tried before it are passed over, and it
matches the front of the text. -/
structure SettlesFor (parser : Parser)
    (nested : Rule → Text → Traced (Option (Tree × Text))) (depth : Nat) (rule : Rule)
    (cursor : Text) (chosen : Alternative) (matched : Matched) : Prop where
  first : ∃ before after, rule.tried = before ++ chosen :: after ∧
    ∀ earlier ∈ before, parser.PassedOver nested depth cursor earlier
  matches_cursor :
    (parser.matchSymbols nested depth chosen chosen.symbols cursor).result = .ok (some matched)

theorem exists_settlesFor
    (derived : (derive parser (levels + 1) depth rule input).result = .ok (some (tree, rest))) :
    ∃ chosen matched,
      parser.SettlesFor (derive parser levels (depth + 1)) depth rule input chosen matched ∧
        tree = Tree.ofRule rule.name matched.children ∧
        (matched.rest.length = input.length → matched.readEpsilon = true) := by
  rw [derive_succ] at derived
  rcases choice : (parser.firstMatch (derive parser levels (depth + 1)) depth input
    rule.tried).result with failure | _ | matched
  · simp [choice] at derived
  · simp [choice] at derived
  · simp only [choice] at derived
    split at derived
    next => simp at derived
    next productive =>
      simp only [Except.ok.injEq, Option.some.injEq, Prod.mk.injEq] at derived
      obtain ⟨before, chosen, after, split, earlierPassed, attempt⟩ :=
        firstMatch_eq_some_first choice
      refine ⟨chosen, matched, ⟨⟨before, after, split, earlierPassed⟩, attempt⟩,
        derived.1.symm, ?_⟩
      intro sameLength
      simpa [sameLength] using productive

/-! ## Empty productions -/

/-- The match stops at an empty production of the alternative itself, which leaves the last
child: a leaf without text. -/
def StopsAtEpsilon (parser : Parser) (nested : Rule → Text → Traced (Option (Tree × Text)))
    (depth : Nat) (alternative : Alternative) (symbols : List Symbol) (cursor : Text)
    (matched : Matched) : Prop :=
  ∃ before after children rest, symbols = before ++ .epsilon :: after ∧
    (parser.matchSymbols nested depth alternative before cursor).result =
      .ok (some ⟨children, rest, false⟩) ∧
    matched.children = children ++ [Tree.leaf []]

/-- What a symbol is read as does not depend on the symbols behind it. -/
theorem exists_child_of_matchSymbols {symbol : Symbol} {symbols : List Symbol}
    (notEpsilon : symbol ≠ .epsilon)
    (found : (parser.matchSymbols nested depth alternative (symbol :: symbols) text).result =
      .ok (some matched)) :
    ∃ child rest others,
      (∀ more, (parser.matchSymbols nested depth alternative (symbol :: more) text).result =
        (parser.matchSymbols nested depth alternative more rest).result.map
          (Option.map (Matched.cons child))) ∧
      (parser.matchSymbols nested depth alternative symbols rest).result = .ok (some others) ∧
      matched = others.cons child := by
  rw [matchSymbols_cons] at found
  cases read : parser.reading (Text.trimStart text) symbol with
  | complete =>
      cases readsAs_iff.mpr read with
      | epsilon => exact absurd rfl notEpsilon
  | leaf child rest =>
      simp only [read] at found
      obtain ⟨others, othersFound, rfl⟩ := map_cons_eq_some.mp found
      exact ⟨child, rest, others, fun more => by rw [matchSymbols_cons, read], othersFound, rfl⟩
  | nested callee =>
      rcases derived : (nested callee (Text.trimStart text)).result
        with failure | _ | ⟨child, rest⟩
      · simp [read, derived] at found
      · simp [read, derived] at found
      · simp only [read, derived] at found
        obtain ⟨others, othersFound, rfl⟩ := map_cons_eq_some.mp found
        exact ⟨child, rest, others, fun more => by simp only [matchSymbols_cons, read, derived],
          othersFound, rfl⟩
  | missing name => simp [read] at found
  | mismatch => simp [read] at found

theorem stopsAtEpsilon_of_readEpsilon {symbols : List Symbol}
    (found : (parser.matchSymbols nested depth alternative symbols text).result =
      .ok (some matched)) (readEpsilon : matched.readEpsilon = true) :
    parser.StopsAtEpsilon nested depth alternative symbols text matched := by
  induction symbols generalizing text matched with
  | nil =>
      simp only [matchSymbols_nil, Except.ok.injEq, Option.some.injEq] at found
      subst found
      contradiction
  | cons symbol symbols inductionHypothesis =>
      by_cases isEpsilon : symbol = .epsilon
      · subst isEpsilon
        cases found
        exact ⟨[], symbols, [], text, rfl, matchSymbols_nil text, rfl⟩
      · obtain ⟨child, rest, others, continues, othersFound, rfl⟩ :=
          exists_child_of_matchSymbols isEpsilon found
        obtain ⟨before, after, children, last, rfl, attempt, childrenEnd⟩ :=
          inductionHypothesis othersFound readEpsilon
        refine ⟨symbol :: before, after, child :: children, last, rfl, ?_, ?_⟩
        · rw [continues, attempt]
          rfl
        · exact congrArg (child :: ·) childrenEnd

/-! ## The origin of a node -/

/-- The search comes to the node below the outermost level: at a place of the text without
blanks in front, it derives the node from a rule of the grammar. -/
structure DerivedBelow (parser : Parser) (whole : Text) (levels depth : Nat) (rule : Rule)
    (cursor : Text) (node : Tree) : Prop where
  defined : parser.grammar.rule? rule.name = some rule
  within : cursor <:+ whole
  trimmed : Text.trimStart cursor = cursor
  derived : ∃ rest, (derive parser (levels + 1) (depth + 1) rule cursor).result =
    .ok (some (node, rest))

/-- A child of a match is derived from a rule, or there is no rule in it. -/
theorem derived_or_not_rule_of_mem_children (nestedCovers : AllCover nested)
    (within : text <:+ whole) {symbols : List Symbol}
    (found : (parser.matchSymbols nested depth alternative symbols text).result =
      .ok (some matched)) {child : Tree} (member : child ∈ matched.children) :
    (∃ callee cursor rest, parser.grammar.rule? callee.name = some callee ∧ cursor <:+ whole ∧
      Text.trimStart cursor = cursor ∧
      (nested callee cursor).result = .ok (some (child, rest))) ∨
    ∀ node ∈ child.nodes, node.kind ≠ .rule := by
  induction symbols generalizing text matched with
  | nil =>
      simp only [matchSymbols_nil, Except.ok.injEq, Option.some.injEq] at found
      subst found
      exact absurd member List.not_mem_nil
  | cons symbol symbols inductionHypothesis =>
      have trimmedWithin : Text.trimStart text <:+ whole :=
        (Text.trimStart_suffix text).trans within
      rcases matchSymbols_cons_eq_some found with
        ⟨-, rfl⟩ | ⟨first, rest, others, reads, othersFound, rfl⟩
      · obtain rfl := List.mem_singleton.mp member
        exact .inr fun _ inside => Tree.kind_of_mem_nodes_leaf inside
      · have restWithin : rest <:+ whole := (reads.covers nestedCovers).suffix.trans trimmedWithin
        rcases List.mem_cons.mp member with rfl | inOthers
        · cases reads with
          | marker => exact .inr fun _ inside => Tree.kind_of_mem_nodes_leaf inside
          | @nested name _ callee _ defined derived =>
              obtain ⟨-, rfl⟩ := Grammar.rule?_eq_some defined
              exact .inl ⟨callee, _, rest, defined, trimmedWithin, Text.trimStart_trimStart text,
                derived⟩
          | text => exact .inr fun _ inside => Tree.kind_of_mem_nodes_ofMatch inside
        · exact inductionHypothesis restWithin othersFound inOthers

/-- Every rule node below the root of a derived tree is derived itself, on what levels are
left further down. -/
theorem exists_derivedBelow (within : input <:+ whole)
    (derived : (derive parser levels depth rule input).result = .ok (some (tree, rest)))
    (member : node ∈ Tree.nodesAll tree.children) (isRule : node.kind = .rule) :
    ∃ lower deeper callee cursor, lower + deeper + 2 = levels + depth ∧
      parser.DerivedBelow whole lower deeper callee cursor node := by
  induction levels generalizing depth rule input tree rest with
  | zero => simp [derive_zero] at derived
  | succ levels inductionHypothesis =>
      obtain ⟨chosen, matched, settles, rfl, -⟩ := exists_settlesFor derived
      obtain ⟨child, isChild, inChild⟩ := Tree.mem_nodesAll.mp member
      rcases derived_or_not_rule_of_mem_children (derive_allCover levels) within
        settles.matches_cursor isChild with
        ⟨callee, cursor, behind, defined, cursorWithin, trimmed, nestedDerived⟩ | noRule
      · cases levels with
        | zero => simp [derive_zero] at nestedDerived
        | succ lower =>
            obtain ⟨kind, token, value, children⟩ := child
            rcases List.mem_cons.mp inChild with rfl | inside
            · exact ⟨lower, depth, callee, cursor, by omega, defined, cursorWithin, trimmed,
                behind, nestedDerived⟩
            · obtain ⟨lowest, deeper, inner, place, levelsLeft, below⟩ :=
                inductionHypothesis cursorWithin nestedDerived inside
              exact ⟨lowest, deeper, inner, place, by omega, below⟩
      · exact absurd isRule (noRule node inChild)

/-! ## Productivity -/

/-- A match that passes characters of a text without blanks in front has a leaf with
text. -/
theorem exists_leaf_of_shorter {symbols : List Symbol} (nestedCovers : AllCover nested)
    (trimmed : Text.trimStart cursor = cursor)
    (found : (parser.matchSymbols nested depth alternative symbols cursor).result =
      .ok (some matched)) (shorter : matched.rest.length ≠ cursor.length) :
    ∃ leaf ∈ Tree.nodesAll matched.children, leaf.kind = .leaf ∧ leaf.token ≠ [] := by
  obtain ⟨front, split, spaced⟩ := matchSymbols_covers nestedCovers found
  have notBlank : ¬ Text.isAllBlank front := by
    intro allBlank
    rw [split, Text.trimStart_blanks_append allBlank] at trimmed
    -- what is trimmed cannot be longer than what it is trimmed from
    have notLonger := (Text.trimStart_suffix matched.rest).length_le
    rw [trimmed, ← split] at notLonger
    have suffix : matched.rest <:+ cursor := ⟨front, split.symm⟩
    exact shorter (Nat.le_antisymm suffix.length_le notLonger)
  obtain ⟨piece, isPiece, pieceText⟩ :
      ∃ piece ∈ Tree.leafTextsAll matched.children, piece ≠ [] := by
    by_contra noText
    push Not at noText
    exact notBlank (spaced.isAllBlank fun piece isPiece => by rw [noText piece isPiece]; rfl)
  obtain ⟨leaf, inside, isLeaf, rfl⟩ := Tree.exists_leaf_of_mem_leafTextsAll isPiece
  exact ⟨leaf, inside, isLeaf, pieceText⟩

/-- A rule that is derived below the outermost level has text below it, or the alternative
it settles for stops at an empty production. -/
theorem DerivedBelow.productive (below : parser.DerivedBelow whole levels depth rule cursor node) :
    ∃ chosen matched,
      parser.SettlesFor (derive parser levels (depth + 2)) (depth + 1) rule cursor chosen
        matched ∧
      node = Tree.ofRule rule.name matched.children ∧
      ((∃ leaf ∈ Tree.nodesAll node.children, leaf.kind = .leaf ∧ leaf.token ≠ []) ∨
        parser.StopsAtEpsilon (derive parser levels (depth + 2)) (depth + 1) chosen
          chosen.symbols cursor matched) := by
  obtain ⟨rest, derived⟩ := below.derived
  obtain ⟨chosen, matched, settles, rfl, productive⟩ := exists_settlesFor derived
  refine ⟨chosen, matched, settles, rfl, ?_⟩
  by_cases sameLength : matched.rest.length = cursor.length
  · exact .inr (stopsAtEpsilon_of_readEpsilon settles.matches_cursor (productive sameLength))
  · exact .inl (exists_leaf_of_shorter (derive_allCover levels) below.trimmed
      settles.matches_cursor sameLength)

/-- Every rule node below the root of a returned tree has been derived below the outermost
level. Wherever the search has derived it, it has a leaf with text below it, unless its last
child is the empty leaf of an empty production in the very alternative it settled for. -/
theorem nested_rules_productive (found : (parser.tryParse input).result = .ok (some tree)) :
    ∀ node ∈ Tree.nodesAll tree.children, node.kind = .rule →
      (∃ levels depth rule cursor, levels + depth + 1 = parser.limit ∧
        parser.DerivedBelow input levels depth rule cursor node) ∧
      ∀ levels depth rule cursor, parser.DerivedBelow input levels depth rule cursor node →
        ∃ chosen matched,
          parser.SettlesFor (derive parser levels (depth + 2)) (depth + 1) rule cursor chosen
            matched ∧
          node = Tree.ofRule rule.name matched.children ∧
          ((∃ leaf ∈ Tree.nodesAll node.children, leaf.kind = .leaf ∧ leaf.token ≠ []) ∨
            parser.StopsAtEpsilon (derive parser levels (depth + 2)) (depth + 1) chosen
              chosen.symbols cursor matched) := by
  intro node member isRule
  obtain ⟨rest, derived⟩ := tryParse_eq_some.mp found
  obtain ⟨levels, depth, rule, cursor, levelsLeft, below⟩ :=
    exists_derivedBelow (List.suffix_refl input) derived member isRule
  exact ⟨⟨levels, depth, rule, cursor, by omega, below⟩, fun _ _ _ _ => DerivedBelow.productive⟩

/-- Of the rules below the root, one is an empty production and the others have text. -/
theorem balancedTree_nested_productive :
    (balanced.tryParse " a a <T> b".toList).result = .ok (some balancedTree) ∧
      (Tree.nodesAll balancedTree.children).countP (fun node => node.kind = .rule) = 3 ∧
      ∀ node ∈ Tree.nodesAll balancedTree.children, node.kind = .rule →
        ∃ levels depth rule cursor chosen matched, levels + depth + 1 = balanced.limit ∧
          balanced.DerivedBelow " a a <T> b".toList levels depth rule cursor node ∧
          balanced.SettlesFor (derive balanced levels (depth + 2)) (depth + 1) rule cursor chosen
            matched ∧
          node = Tree.ofRule rule.name matched.children ∧
          ((∃ leaf ∈ Tree.nodesAll node.children, leaf.kind = .leaf ∧ leaf.token ≠ []) ∨
            balanced.StopsAtEpsilon (derive balanced levels (depth + 2)) (depth + 1) chosen
              chosen.symbols cursor matched) := by
  have found : (balanced.tryParse " a a <T> b".toList).result = .ok (some balancedTree) := rfl
  refine ⟨found, by decide, fun node member isRule => ?_⟩
  obtain ⟨⟨levels, depth, rule, cursor, levelsLeft, below⟩, productive⟩ :=
    nested_rules_productive found node member isRule
  obtain ⟨chosen, matched, settles, same, text⟩ := productive levels depth rule cursor below
  exact ⟨levels, depth, rule, cursor, chosen, matched, levelsLeft, below, settles, same, text⟩

end BnfParsing.Parser
