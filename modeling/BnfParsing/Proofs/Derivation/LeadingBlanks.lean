import BnfParsing.Proofs.Derivation.Coverage
import BnfParsing.Proofs.Text.Trimming

/-!
Contract: what blanks in front of a text can change.

Blanks are skipped in front of every symbol, but a rule compares its rest with
the text it was given. Only the outermost rule is given a text with blanks in
front, and only on the empty text does that comparison come out differently.

Owns: the effect of leading blanks on symbols and on the choice of an
alternative, and the exact condition under which the outcome changes.

Does not own: blanks between symbols or at the end of a text.
-/

set_option autoImplicit false

namespace BnfParsing.Parser

variable {parser : Parser} {nested : Rule → Text → Traced (Option (Tree × Text))}
variable {depth : Nat} {alternative : Alternative} {blanks text : Text}

theorem matchSymbols_cons_trimStart (symbol : Symbol) (symbols : List Symbol) (text : Text) :
    (parser.matchSymbols nested depth alternative (symbol :: symbols)
      (Text.trimStart text)).result =
      (parser.matchSymbols nested depth alternative (symbol :: symbols) text).result := by
  rw [matchSymbols_cons, matchSymbols_cons, Text.trimStart_trimStart]

theorem matchSymbols_cons_blanks_append (allBlank : Text.isAllBlank blanks) (symbol : Symbol)
    (symbols : List Symbol) (text : Text) :
    (parser.matchSymbols nested depth alternative (symbol :: symbols) (blanks ++ text)).result =
      (parser.matchSymbols nested depth alternative (symbol :: symbols) text).result := by
  rw [← matchSymbols_cons_trimStart, Text.trimStart_blanks_append allBlank,
    matchSymbols_cons_trimStart]

/-- A match of at least one symbol has children, and starts behind the blanks. -/
structure FromTrimmed (text : Text) (matched : Matched) : Prop where
  children_ne_nil : matched.children ≠ []
  rest_suffix : matched.rest <:+ Text.trimStart text

theorem matchSymbols_cons_fromTrimmed (nestedCovers : AllCover nested) {symbol : Symbol}
    {symbols : List Symbol} {matched : Matched}
    (found : (parser.matchSymbols nested depth alternative (symbol :: symbols) text).result =
      .ok (some matched)) :
    FromTrimmed text matched := by
  constructor
  · rcases matchSymbols_cons_eq_some found with ⟨-, rfl⟩ | ⟨child, rest, others, -, -, rfl⟩
    · exact List.cons_ne_nil _ _
    · exact List.cons_ne_nil _ _
  · rw [← matchSymbols_cons_trimStart] at found
    exact (matchSymbols_covers nestedCovers found).suffix

/-- Blanks in front do not change which alternative is chosen. They do not change
its match either, unless the alternative has no symbols at all. -/
theorem firstMatch_blanks_append (nestedCovers : AllCover nested)
    (allBlank : Text.isAllBlank blanks) (text : Text) (alternatives : List Alternative) :
    ((parser.firstMatch nested depth (blanks ++ text) alternatives).result =
        (parser.firstMatch nested depth text alternatives).result ∧
      ∀ matched, (parser.firstMatch nested depth text alternatives).result =
        .ok (some matched) → FromTrimmed text matched) ∨
    ((parser.firstMatch nested depth (blanks ++ text) alternatives).result =
        .ok (some ⟨[], blanks ++ text, false⟩) ∧
      (parser.firstMatch nested depth text alternatives).result =
        .ok (some ⟨[], text, false⟩)) := by
  induction alternatives with
  | nil =>
      left
      simp [firstMatch_nil]
  | cons first others inductionHypothesis =>
      rw [firstMatch_cons, firstMatch_cons]
      cases symbolsCase : first.symbols with
      | nil =>
          -- nothing is skipped, so the rest still has its blanks; they do not
          -- count as something left over
          have sameLeftOver : Text.isAllBlank (blanks ++ text) = Text.isAllBlank text := by
            simp only [Text.isAllBlank, List.all_append, Bool.and_eq_right_iff_imp] at allBlank ⊢
            exact fun _ => allBlank
          simp only [matchSymbols_nil, sameLeftOver]
          split
          · exact inductionHypothesis
          · exact .inr ⟨rfl, rfl⟩
      | cons symbol symbols =>
          rw [matchSymbols_cons_blanks_append allBlank]
          rcases attempt : (parser.matchSymbols nested depth first (symbol :: symbols) text).result
            with failure | _ | matched
          · left
            simp
          · exact inductionHypothesis
          · simp only
            split
            · exact inductionHypothesis
            · left
              refine ⟨rfl, ?_⟩
              intro chosen same
              simp only [Except.ok.injEq, Option.some.injEq] at same
              subst same
              exact matchSymbols_cons_fromTrimmed nestedCovers attempt

/-- On the empty text the start rule settles for an alternative in which only
references match: it has children, but none is an empty production of its own. -/
def EmptyByReferences (parser : Parser) : Prop :=
  ∃ matched, (parser.firstMatch (derive parser parser.limit 1) 0 [] parser.start.tried).result =
    .ok (some matched) ∧ matched.children ≠ [] ∧ matched.readEpsilon = false

/-- The outcome of a search in terms of the choice at the outermost level. -/
theorem tryParse_of_firstMatch (parser : Parser) (input : Text) :
    (parser.tryParse input).result =
      match (parser.firstMatch (derive parser parser.limit 1) 0 input
        parser.start.tried).result with
      | .error failure => .error failure
      | .ok none => .ok none
      | .ok (some matched) =>
          if matched.rest.length = input.length ∧ matched.readEpsilon = false then .ok none
          else .ok (some (Tree.ofRule parser.start.name matched.children)) := by
  rw [tryParse_result, derive_succ]
  rcases (parser.firstMatch (derive parser parser.limit 1) 0 input parser.start.tried).result
    with failure | _ | matched
  · rfl
  · rfl
  · simp only
    split <;> rfl

/-- What the outermost level chooses behind blanks can be as long as the text only
if the text is empty. -/
theorem eq_nil_of_rest_length {input : Text} {alternatives : List Alternative}
    {matched : Matched} (fromTrimmed : FromTrimmed input matched)
    (chosen : (parser.firstMatch nested 0 input alternatives).result = .ok (some matched))
    (sameLength : matched.rest.length = input.length) : input = [] := by
  have withinInput : matched.rest <:+ input :=
    fromTrimmed.rest_suffix.trans (Text.trimStart_suffix input)
  have sameText : matched.rest = input := withinInput.eq_of_length sameLength
  obtain ⟨_, _, _, complete⟩ := firstMatch_eq_some chosen
  have nothingLeft : Text.trimStart input = [] :=
    Text.trimStart_eq_nil (sameText ▸ complete rfl)
  have rest_suffix := fromTrimmed.rest_suffix
  rw [sameText, nothingLeft] at rest_suffix
  exact List.suffix_nil.mp rest_suffix

theorem tryParse_blanks_append (parser : Parser) (allBlank : Text.isAllBlank blanks)
    {input : Text} (usual : ¬ (input = [] ∧ blanks ≠ [] ∧ parser.EmptyByReferences)) :
    (parser.tryParse (blanks ++ input)).result = (parser.tryParse input).result := by
  by_cases noBlanks : blanks = []
  · rw [noBlanks, List.nil_append]
  have longer : input.length < (blanks ++ input).length := by
    have positive := List.length_pos_iff.mpr noBlanks
    rw [List.length_append]
    omega
  rw [tryParse_of_firstMatch, tryParse_of_firstMatch]
  rcases firstMatch_blanks_append (derive_allCover parser.limit) allBlank input
    parser.start.tried with ⟨same, fromTrimmed⟩ | ⟨withBlanks, without⟩
  · rw [same]
    rcases chosen : (parser.firstMatch (derive parser parser.limit 1) 0 input
      parser.start.tried).result with failure | _ | matched
    · rfl
    · rfl
    · have fromTrimmed := fromTrimmed matched chosen
      have restLength : matched.rest.length ≤ input.length :=
        (fromTrimmed.rest_suffix.trans (Text.trimStart_suffix input)).length_le
      have consumesBlanks :
          ¬ (matched.rest.length = (blanks ++ input).length ∧ matched.readEpsilon = false) := by
        omega
      have consumes :
          ¬ (matched.rest.length = input.length ∧ matched.readEpsilon = false) := by
        rintro ⟨sameLength, noEpsilon⟩
        obtain rfl := eq_nil_of_rest_length fromTrimmed chosen sameLength
        exact usual ⟨rfl, noBlanks, matched, chosen, fromTrimmed.children_ne_nil, noEpsilon⟩
      simp only [if_neg consumesBlanks, if_neg consumes]
  · -- an alternative without symbols consumes nothing, with blanks or without
    simp [withBlanks, without]

/-- On the empty text the search then fails, and on blanks it succeeds. -/
theorem EmptyByReferences.tryParse (byReferences : parser.EmptyByReferences)
    (allBlank : Text.isAllBlank blanks) (someBlank : blanks ≠ []) :
    (parser.tryParse []).result = .ok none ∧
      ∃ tree, (parser.tryParse blanks).result = .ok (some tree) := by
  obtain ⟨matched, chosen, children_ne_nil, noEpsilon⟩ := byReferences
  rcases firstMatch_blanks_append (derive_allCover parser.limit) allBlank []
    parser.start.tried with ⟨same, fromTrimmed⟩ | ⟨-, without⟩
  · have restNil : matched.rest = [] :=
      List.suffix_nil.mp (fromTrimmed matched chosen).rest_suffix
    rw [List.append_nil] at same
    have consumesBlanks :
        ¬ (matched.rest.length = blanks.length ∧ matched.readEpsilon = false) := by
      simpa [restNil, noEpsilon, eq_comm] using someBlank
    constructor
    · simp [tryParse_of_firstMatch, chosen, restNil, noEpsilon]
    · simp [tryParse_of_firstMatch, same, chosen, if_neg consumesBlanks]
  · rw [without] at chosen
    simp only [Except.ok.injEq, Option.some.injEq] at chosen
    subst chosen
    exact absurd rfl children_ne_nil

/-- Blanks in front of a text leave the outcome as it is, with one exception: if
the start rule comes to the empty text through references alone, then the empty
text is not derived and any blanks are. -/
theorem leading_blanks_exact (parser : Parser) {blanks : Text}
    (allBlank : Text.isAllBlank blanks) (input : Text) :
    ((parser.tryParse (blanks ++ input)).result = (parser.tryParse input).result ↔
      ¬ (input = [] ∧ blanks ≠ [] ∧ parser.EmptyByReferences)) ∧
    (blanks ≠ [] → parser.EmptyByReferences →
      (parser.tryParse []).result = .ok none ∧
        ∃ tree, (parser.tryParse blanks).result = .ok (some tree)) := by
  refine ⟨⟨?_, tryParse_blanks_append parser allBlank⟩, ?_⟩
  · rintro same ⟨rfl, someBlank, byReferences⟩
    obtain ⟨emptyFails, tree, blanksSucceed⟩ := byReferences.tryParse allBlank someBlank
    rw [List.append_nil, emptyFails, blanksSucceed] at same
    simp at same
  · exact fun someBlank byReferences => byReferences.tryParse allBlank someBlank

/-- A rule that may come to nothing, but only through another rule. -/
def optionalLetter : Parser where
  grammar :=
    { rules :=
        [⟨"<S>".toList, [{ symbols := [.nonTerminal "<E>".toList] }]⟩,
          ⟨"<E>".toList, [{ symbols := [.terminal ['x'] true] }, { symbols := [.epsilon] }]⟩]
      names_nodup := by decide }
  start := ⟨"<S>".toList, [{ symbols := [.nonTerminal "<E>".toList] }]⟩
  start_mem := List.mem_cons_self
  limit := 5
  partialInput := false
  level := .off

theorem leading_blanks_optionalLetter :
    Text.isAllBlank " \t".toList ∧ "x ".toList ≠ [] ∧
      (optionalLetter.tryParse (" \t".toList ++ "x ".toList)).result =
        (optionalLetter.tryParse "x ".toList).result := by
  have allBlank : Text.isAllBlank " \t".toList := by decide
  have notEmpty : "x ".toList ≠ [] := by decide
  refine ⟨allBlank, notEmpty, ?_⟩
  refine (leading_blanks_exact optionalLetter allBlank "x ".toList).1.mpr ?_
  exact fun exception => notEmpty exception.1

/-- The empty text and a single blank are told apart. -/
theorem leading_blank_matters :
    Text.isAllBlank " ".toList ∧
      (optionalLetter.tryParse (" ".toList ++ [])).result ≠
        (optionalLetter.tryParse []).result := by
  have fails : (optionalLetter.tryParse []).result = .ok none := rfl
  have succeeds : (optionalLetter.tryParse (" ".toList ++ [])).result =
      .ok (some (.ofRule "<S>".toList [.ofRule "<E>".toList [.leaf []]])) := rfl
  refine ⟨by decide, ?_⟩
  rw [fails, succeeds]
  simp

end BnfParsing.Parser
