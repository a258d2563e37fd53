import BnfParsing.Proofs.Derivation.Reading

/-!
Contract: what one step of a derivation can come to, apart from its notes.

Owns:
- the results of matching symbols, of choosing an alternative and of deriving a
  rule, each in terms of the results of its parts;
- the inversions of successes and of defects.

Does not own: what follows for whole derivations.
-/

set_option autoImplicit false

namespace BnfParsing

namespace Traced

variable {α β : Type}

theorem result_bind (first : Traced α) (next : α → Traced β) :
    (first >>= next).result = first.result.bind fun value => (next value).result := by
  change (andThen first next).result = _
  unfold andThen
  cases first.result <;> rfl

@[simp]
theorem result_note (level : LogLevel) (event : Event) :
    (note level event).result = .ok () := rfl

end Traced

namespace Parser

variable {parser : Parser} {nested : Rule → Text → Traced (Option (Tree × Text))}
variable {depth : Nat} {alternative : Alternative}

/-! ## Matching symbols -/

theorem matchSymbols_nil (text : Text) :
    (parser.matchSymbols nested depth alternative [] text).result =
      .ok (some ⟨[], text, false⟩) := rfl

private theorem result_cons (child : Tree) (following : Traced (Option Matched)) :
    (do
      let matched ← following
      return matched.map (Matched.cons child)).result =
      following.result.map (Option.map (Matched.cons child)) := by
  rw [Traced.result_bind]
  cases following.result <;> rfl

private theorem matchSymbols_of_readsText {symbol : Symbol} (readsText : symbol.ReadsText)
    (symbols : List Symbol) (text : Text) :
    (parser.matchSymbols nested depth alternative (symbol :: symbols) text).result =
      match consume? symbol (Text.trimStart text) with
      | some (leaf, rest) =>
          (parser.matchSymbols nested depth alternative symbols rest).result.map
            (Option.map (Matched.cons leaf))
      | none => .ok none := by
  rw [matchSymbols]
  case x_2 =>
    rintro rfl
    exact readsText.1 rfl
  case x_3 =>
    rintro name rfl
    exact readsText.2 rfl
  -- at the end of the text nothing is consumed, so the check for it adds nothing
  cases Text.trimStart text with
  | nil =>
      rw [consume?_nil]
      rfl
  | cons character rest =>
      cases consume? symbol (character :: rest) with
      | none => rfl
      | some consumed => exact result_cons consumed.1 _

/-- The first symbol decides how the others are matched, and from where. -/
theorem matchSymbols_cons (symbol : Symbol) (symbols : List Symbol) (text : Text) :
    (parser.matchSymbols nested depth alternative (symbol :: symbols) text).result =
      match parser.reading (Text.trimStart text) symbol with
      | .complete => .ok (some ⟨[Tree.leaf []], Text.trimStart text, true⟩)
      | .leaf leaf rest =>
          (parser.matchSymbols nested depth alternative symbols rest).result.map
            (Option.map (Matched.cons leaf))
      | .nested rule =>
          match (nested rule (Text.trimStart text)).result with
          | .error found => .error found
          | .ok none => .ok none
          | .ok (some (child, rest)) =>
              (parser.matchSymbols nested depth alternative symbols rest).result.map
                (Option.map (Matched.cons child))
      | .missing name => .error (.missingRule name)
      | .mismatch => .ok none := by
  rcases symbol.role with rfl | ⟨name, rfl⟩ | readsText
  · rfl
  · simp only [matchSymbols, reading]
    cases parser.marker? name (Text.trimStart text) with
    | some rest => exact result_cons (Tree.leaf name) _
    | none =>
        cases parser.grammar.rule? name with
        | none => rfl
        | some rule =>
            simp only [Traced.result_bind]
            cases (nested rule (Text.trimStart text)).result with
            | error found => rfl
            | ok derived =>
                cases derived with
                | none => rfl
                | some derived => exact result_cons derived.1 _
  · rw [reading_of_readsText readsText, matchSymbols_of_readsText readsText]
    cases consume? symbol (Text.trimStart text) <;> rfl

/-- A symbol is read at `cursor` as a child of the node, which leaves `rest`. -/
inductive Reads (parser : Parser) (nested : Rule → Text → Traced (Option (Tree × Text)))
    (cursor : Text) : Symbol → Tree → Text → Prop where
  /-- The text holds the name of a rule. -/
  | marker {name rest : Text} (allowed : parser.partialInput = true)
      (holds : cursor = name ++ rest) :
      Reads parser nested cursor (.nonTerminal name) (Tree.leaf name) rest
  /-- A rule derives the front of the text. -/
  | nested {name rest : Text} {rule : Rule} {child : Tree}
      (defined : parser.grammar.rule? name = some rule)
      (derived : (nested rule cursor).result = .ok (some (child, rest))) :
      Reads parser nested cursor (.nonTerminal name) child rest
  /-- A symbol consumes the front of the text. -/
  | text {symbol : Symbol} {length : Nat}
      (consumes : (symbol.matchPrefix cursor).consumed = some length) :
      Reads parser nested cursor symbol
        (Tree.ofMatch (cursor.take length) (symbol.groupTexts (cursor.take length)))
        (cursor.drop length)

theorem reads_of_reading_leaf {cursor rest : Text} {symbol : Symbol} {child : Tree}
    (read : parser.reading cursor symbol = .leaf child rest) :
    parser.Reads nested cursor symbol child rest := by
  cases readsAs_iff.mpr read with
  | marker marked =>
      obtain ⟨allowed, holds⟩ := marker?_eq_some.mp marked
      exact .marker allowed holds
  | text consumes => exact .text consumes

theorem reads_of_reading_nested {cursor rest : Text} {symbol : Symbol} {rule : Rule}
    {child : Tree} (read : parser.reading cursor symbol = .nested rule)
    (derived : (nested rule cursor).result = .ok (some (child, rest))) :
    parser.Reads nested cursor symbol child rest := by
  cases readsAs_iff.mpr read with
  | nested unmarked defined => exact .nested defined derived

theorem map_cons_eq_some {child : Tree} {result : Except Defect (Option Matched)}
    {matched : Matched} :
    result.map (Option.map (Matched.cons child)) = .ok (some matched) ↔
      ∃ others, result = .ok (some others) ∧ matched = others.cons child := by
  rcases result with failure | _ | others
  · simp [Except.map]
  · simp [Except.map]
  · simp only [Except.map, Option.map_some, Except.ok.injEq, Option.some.injEq,
      exists_eq_left']
    exact eq_comm

theorem map_cons_eq_none {child : Tree} {result : Except Defect (Option Matched)} :
    result.map (Option.map (Matched.cons child)) = .ok none ↔ result = .ok none := by
  rcases result with failure | _ | others
  · simp [Except.map]
  · simp [Except.map]
  · simp [Except.map]

theorem map_cons_eq_error {child : Tree} {result : Except Defect (Option Matched)}
    {failure : Defect} :
    result.map (Option.map (Matched.cons child)) = .error failure ↔
      result = .error failure := by
  cases result <;> simp [Except.map]

/-- A match of a list of symbols stops after an empty production, or reads the
first symbol as a child and goes on behind it. -/
theorem matchSymbols_cons_eq_some {symbol : Symbol} {symbols : List Symbol} {text : Text}
    {matched : Matched}
    (found : (parser.matchSymbols nested depth alternative (symbol :: symbols) text).result =
      .ok (some matched)) :
    (symbol = .epsilon ∧ matched = ⟨[Tree.leaf []], Text.trimStart text, true⟩) ∨
      ∃ child rest others, parser.Reads nested (Text.trimStart text) symbol child rest ∧
        (parser.matchSymbols nested depth alternative symbols rest).result =
          .ok (some others) ∧ matched = others.cons child := by
  rw [matchSymbols_cons] at found
  cases read : parser.reading (Text.trimStart text) symbol with
  | complete =>
      simp only [read, Except.ok.injEq, Option.some.injEq] at found
      cases readsAs_iff.mpr read with
      | epsilon => exact .inl ⟨rfl, found.symm⟩
  | leaf child rest =>
      simp only [read] at found
      obtain ⟨others, othersFound, rfl⟩ := map_cons_eq_some.mp found
      exact .inr ⟨child, rest, others, reads_of_reading_leaf read, othersFound, rfl⟩
  | nested rule =>
      simp only [read] at found
      split at found
      case h_1 => contradiction
      case h_2 => simp at found
      case h_3 child rest derived =>
        obtain ⟨others, othersFound, rfl⟩ := map_cons_eq_some.mp found
        exact .inr ⟨child, rest, others, reads_of_reading_nested read derived, othersFound, rfl⟩
  | missing name => simp [read] at found
  | mismatch => simp [read] at found

/-- A defect comes from a reference: the symbols in front of it have matched,
and its rule is missing or ends in the defect itself. -/
theorem matchSymbols_eq_error {symbols : List Symbol} {text : Text} {failure : Defect}
    (failed : (parser.matchSymbols nested depth alternative symbols text).result =
      .error failure) :
    ∃ before name after children cursor, symbols = before ++ .nonTerminal name :: after ∧
      (parser.matchSymbols nested depth alternative before text).result =
        .ok (some ⟨children, cursor, false⟩) ∧
      ((parser.grammar.rule? name = none ∧ failure = .missingRule name) ∨
        ∃ rule, parser.grammar.rule? name = some rule ∧
          (nested rule (Text.trimStart cursor)).result = .error failure) := by
  induction symbols generalizing text with
  | nil => simp [matchSymbols_nil] at failed
  | cons symbol symbols inductionHypothesis =>
      rw [matchSymbols_cons] at failed
      cases read : parser.reading (Text.trimStart text) symbol with
      | complete => simp [read] at failed
      | leaf child rest =>
          simp only [read] at failed
          obtain ⟨before, name, after, children, cursor, rfl, matched, cause⟩ :=
            inductionHypothesis (map_cons_eq_error.mp failed)
          refine ⟨symbol :: before, name, after, child :: children, cursor, rfl, ?_, cause⟩
          simp only [matchSymbols_cons, read, matched]
          rfl
      | nested rule =>
          simp only [read] at failed
          split at failed
          case h_1 inner derived =>
            cases readsAs_iff.mpr read with
            | nested unmarked defined =>
                simp only [Except.error.injEq] at failed
                subst failed
                exact ⟨[], _, symbols, [], text, rfl, matchSymbols_nil text,
                  .inr ⟨rule, defined, derived⟩⟩
          case h_2 => contradiction
          case h_3 child rest derived =>
            obtain ⟨before, name, after, children, cursor, rfl, matched, cause⟩ :=
              inductionHypothesis (map_cons_eq_error.mp failed)
            refine ⟨symbol :: before, name, after, child :: children, cursor, rfl, ?_, cause⟩
            simp only [matchSymbols_cons, read, derived, matched]
            rfl
      | missing name =>
          cases readsAs_iff.mpr read with
          | missing unmarked undefined =>
              simp only [read, Except.error.injEq] at failed
              exact ⟨[], name, symbols, [], text, rfl, matchSymbols_nil text,
                .inl ⟨undefined, failed.symm⟩⟩
      | mismatch => simp [read] at failed

/-! ## Choosing an alternative -/

theorem firstMatch_nil (input : Text) :
    (parser.firstMatch nested depth input []).result = .ok none := rfl

theorem firstMatch_cons (input : Text) (first : Alternative) (others : List Alternative) :
    (parser.firstMatch nested depth input (first :: others)).result =
      match (parser.matchSymbols nested depth first first.symbols input).result with
      | .error failure => .error failure
      | .ok none => (parser.firstMatch nested depth input others).result
      | .ok (some matched) =>
          if depth = 0 ∧ ¬ Text.isAllBlank matched.rest then
            (parser.firstMatch nested depth input others).result
          else .ok (some matched) := by
  simp only [firstMatch, Traced.result_bind, Traced.result_note, Except.bind]
  rcases (parser.matchSymbols nested depth first first.symbols input).result
    with failure | _ | matched
  · rfl
  · rfl
  · simp only
    split <;> rfl

theorem firstMatch_eq_some {input : Text} {alternatives : List Alternative}
    {matched : Matched}
    (found : (parser.firstMatch nested depth input alternatives).result =
      .ok (some matched)) :
    ∃ chosen ∈ alternatives,
      (parser.matchSymbols nested depth chosen chosen.symbols input).result =
        .ok (some matched) ∧
      (depth = 0 → Text.isAllBlank matched.rest) := by
  induction alternatives with
  | nil => simp [firstMatch_nil] at found
  | cons first others inductionHypothesis =>
      have inOthers :
          (parser.firstMatch nested depth input others).result = .ok (some matched) →
          ∃ chosen ∈ first :: others,
            (parser.matchSymbols nested depth chosen chosen.symbols input).result =
              .ok (some matched) ∧ (depth = 0 → Text.isAllBlank matched.rest) := by
        intro othersFound
        obtain ⟨chosen, member, facts⟩ := inductionHypothesis othersFound
        exact ⟨chosen, List.mem_cons_of_mem first member, facts⟩
      rw [firstMatch_cons] at found
      split at found
      case h_1 => contradiction
      case h_2 => exact inOthers found
      case h_3 attempt matches' =>
        split at found
        · exact inOthers found
        · rename_i accepted
          simp only [Except.ok.injEq, Option.some.injEq] at found
          subst found
          refine ⟨first, List.mem_cons_self, matches', ?_⟩
          intro outermost
          simpa [outermost] using accepted

theorem firstMatch_eq_error {input : Text} {alternatives : List Alternative}
    {failure : Defect}
    (failed : (parser.firstMatch nested depth input alternatives).result =
      .error failure) :
    ∃ chosen ∈ alternatives,
      (parser.matchSymbols nested depth chosen chosen.symbols input).result =
        .error failure := by
  induction alternatives with
  | nil => simp [firstMatch_nil] at failed
  | cons first others inductionHypothesis =>
      have inOthers :
          (parser.firstMatch nested depth input others).result = .error failure →
          ∃ chosen ∈ first :: others,
            (parser.matchSymbols nested depth chosen chosen.symbols input).result =
              .error failure := by
        intro othersFailed
        obtain ⟨chosen, member, fails⟩ := inductionHypothesis othersFailed
        exact ⟨chosen, List.mem_cons_of_mem first member, fails⟩
      rw [firstMatch_cons] at failed
      split at failed
      case h_1 inner fails =>
        rw [failed] at fails
        exact ⟨first, List.mem_cons_self, fails⟩
      case h_2 => exact inOthers failed
      case h_3 =>
        split at failed
        · exact inOthers failed
        · contradiction

/-! ## Deriving a rule -/

theorem derive_zero (rule : Rule) (input : Text) :
    (derive parser 0 depth rule input).result = .error (.limitReached parser.limit) := rfl

theorem derive_succ (levels : Nat) (rule : Rule) (input : Text) :
    (derive parser (levels + 1) depth rule input).result =
      match (parser.firstMatch (derive parser levels (depth + 1)) depth input
        rule.tried).result with
      | .error failure => .error failure
      | .ok none => .ok none
      | .ok (some matched) =>
          if matched.rest.length = input.length ∧ matched.readEpsilon = false then .ok none
          else .ok (some (Tree.ofRule rule.name matched.children, matched.rest)) := by
  simp only [derive, Traced.result_bind, Traced.result_note, Except.bind]
  rcases (parser.firstMatch (derive parser levels (depth + 1)) depth input
    rule.tried).result with failure | _ | matched
  · rfl
  · rfl
  · simp only
    split <;> rfl

/-- What holds of the alternative that a rule succeeds with. -/
structure Chooses (parser : Parser) (nested : Rule → Text → Traced (Option (Tree × Text)))
    (depth : Nat) (rule : Rule) (input : Text) (chosen : Alternative) (matched : Matched) :
    Prop where
  member : chosen ∈ rule.alternatives
  matches_input :
    (parser.matchSymbols nested depth chosen chosen.symbols input).result =
      .ok (some matched)
  /-- At the outermost level nothing but blanks is left over. -/
  complete : depth = 0 → Text.isAllBlank matched.rest
  /-- A match that consumes nothing has read an empty production. -/
  productive : matched.rest.length = input.length → matched.readEpsilon = true

theorem derive_eq_some {levels : Nat} {rule : Rule} {input rest : Text} {tree : Tree}
    (derived : (derive parser levels depth rule input).result = .ok (some (tree, rest))) :
    ∃ lower chosen matched, levels = lower + 1 ∧
      parser.Chooses (derive parser lower (depth + 1)) depth rule input chosen matched ∧
      tree = Tree.ofRule rule.name matched.children ∧ rest = matched.rest := by
  cases levels with
  | zero => simp [derive_zero] at derived
  | succ lower =>
      rw [derive_succ] at derived
      split at derived
      case h_1 => contradiction
      case h_2 => simp at derived
      case h_3 matched found =>
        split at derived
        · simp at derived
        · rename_i productive
          simp only [Except.ok.injEq, Option.some.injEq, Prod.mk.injEq] at derived
          obtain ⟨rfl, rfl⟩ := derived
          obtain ⟨chosen, member, matchesInput, complete⟩ := firstMatch_eq_some found
          refine ⟨lower, chosen, matched, rfl, ?_, rfl, rfl⟩
          refine ⟨Rule.mem_tried.mp member, matchesInput, complete, ?_⟩
          intro sameLength
          simpa [sameLength] using productive

theorem derive_eq_error {levels : Nat} {rule : Rule} {input : Text} {failure : Defect}
    (failed : (derive parser levels depth rule input).result = .error failure) :
    (levels = 0 ∧ failure = .limitReached parser.limit) ∨
      ∃ lower chosen, levels = lower + 1 ∧ chosen ∈ rule.alternatives ∧
        (parser.matchSymbols (derive parser lower (depth + 1)) depth chosen
          chosen.symbols input).result = .error failure := by
  cases levels with
  | zero =>
      simp only [derive_zero, Except.error.injEq] at failed
      exact .inl ⟨rfl, failed.symm⟩
  | succ lower =>
      rw [derive_succ] at failed
      split at failed
      case h_1 inner fails =>
        simp only [Except.error.injEq] at failed
        subst failed
        obtain ⟨chosen, member, matchFails⟩ := firstMatch_eq_error fails
        exact .inr ⟨lower, chosen, rfl, Rule.mem_tried.mp member, matchFails⟩
      case h_2 => contradiction
      case h_3 => split at failed <;> contradiction

theorem tryParse_result (parser : Parser) (input : Text) :
    (parser.tryParse input).result =
      (derive parser (parser.limit + 1) 0 parser.start input).result.map
        (Option.map Prod.fst) := by
  simp only [tryParse, Traced.result_bind]
  cases (derive parser (parser.limit + 1) 0 parser.start input).result <;> rfl

theorem tryParse_eq_some {input : Text} {tree : Tree} :
    (parser.tryParse input).result = .ok (some tree) ↔
      ∃ rest, (derive parser (parser.limit + 1) 0 parser.start input).result =
        .ok (some (tree, rest)) := by
  rw [tryParse_result]
  rcases (derive parser (parser.limit + 1) 0 parser.start input).result
    with failure | _ | ⟨found, rest⟩
  · simp [Except.map]
  · simp [Except.map]
  · simp [Except.map]

theorem tryParse_eq_error {input : Text} {failure : Defect} :
    (parser.tryParse input).result = .error failure ↔
      (derive parser (parser.limit + 1) 0 parser.start input).result = .error failure := by
  rw [tryParse_result]
  cases (derive parser (parser.limit + 1) 0 parser.start input).result <;>
    simp [Except.map]

end Parser

end BnfParsing
