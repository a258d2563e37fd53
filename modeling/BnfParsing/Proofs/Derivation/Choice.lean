import BnfParsing.Proofs.Derivation.Step

/-!
Contract: what the choice between alternatives depends on.

The result of an attempt is a matter of the symbols alone. An alternative that is
passed over leaves the choice to those behind it, so an alternative that is
passed over whenever an earlier one is might as well be left out.

Owns:
- attempts that are passed over, and choices without them;
- alternatives that repeat the symbols of an earlier one, and those that go on
  where an earlier one ends;
- rules that come to the same choice, whatever nested rules come to.

Does not own: what two parsers make of such rules.
-/

set_option autoImplicit false

namespace BnfParsing

namespace Parser

variable {parser : Parser} {nested : Rule → Text → Traced (Option (Tree × Text))}
variable {depth : Nat} {input : Text} {alternative earlier redundant : Alternative}
variable {before : List Alternative}

/-- The alternative that an attempt is noted under takes no part in its result. -/
theorem matchSymbols_result_eq (alternative other : Alternative) (symbols : List Symbol)
    (text : Text) :
    (parser.matchSymbols nested depth other symbols text).result =
      (parser.matchSymbols nested depth alternative symbols text).result := by
  induction symbols generalizing text with
  | nil => rfl
  | cons symbol symbols inductionHypothesis =>
      simp only [matchSymbols_cons, inductionHypothesis]

theorem firstMatch_eq_of_symbols {alternatives others : List Alternative}
    (sameSymbols : others.map Alternative.symbols = alternatives.map Alternative.symbols) :
    (parser.firstMatch nested depth input others).result =
      (parser.firstMatch nested depth input alternatives).result := by
  induction alternatives generalizing others with
  | nil => rw [List.map_eq_nil_iff.mp sameSymbols]
  | cons first alternatives inductionHypothesis =>
      obtain ⟨otherFirst, otherRest, rfl, sameFirst, sameRest⟩ :=
        List.map_eq_cons_iff.mp sameSymbols
      rw [firstMatch_cons, firstMatch_cons, inductionHypothesis sameRest, sameFirst,
        matchSymbols_result_eq first otherFirst]

/-- The attempt leaves the choice to the alternatives behind: it does not match,
or at the outermost level it leaves something over. -/
def PassedOver (parser : Parser) (nested : Rule → Text → Traced (Option (Tree × Text)))
    (depth : Nat) (input : Text) (alternative : Alternative) : Prop :=
  (parser.matchSymbols nested depth alternative alternative.symbols input).result = .ok none ∨
    ∃ matched, (parser.matchSymbols nested depth alternative alternative.symbols input).result =
      .ok (some matched) ∧ depth = 0 ∧ ¬ Text.isAllBlank matched.rest

theorem PassedOver.of_symbols_eq (sameSymbols : earlier.symbols = alternative.symbols)
    (passedOver : parser.PassedOver nested depth input earlier) :
    parser.PassedOver nested depth input alternative := by
  unfold PassedOver at passedOver ⊢
  rwa [matchSymbols_result_eq earlier alternative, ← sameSymbols]

/-- Symbols that do not match do not match with others behind them either. -/
theorem matchSymbols_append_of_fails {symbols : List Symbol} {text : Text}
    (fails : (parser.matchSymbols nested depth alternative symbols text).result = .ok none)
    (further : List Symbol) :
    (parser.matchSymbols nested depth alternative (symbols ++ further) text).result =
      .ok none := by
  induction symbols generalizing text with
  | nil => simp [matchSymbols_nil] at fails
  | cons symbol symbols inductionHypothesis =>
      rw [matchSymbols_cons] at fails
      rw [List.cons_append, matchSymbols_cons]
      cases read : parser.reading (Text.trimStart text) symbol with
      | complete => simp [read] at fails
      | leaf child rest =>
          simp only [read, map_cons_eq_none] at fails ⊢
          exact inductionHypothesis fails
      | nested rule =>
          simp only [read] at fails ⊢
          rcases derived : (nested rule (Text.trimStart text)).result
            with failure | _ | ⟨child, rest⟩
          · simp [derived] at fails
          · rfl
          · simp only [derived, map_cons_eq_none] at fails ⊢
            exact inductionHypothesis fails
      | missing name => simp [read] at fails
      | mismatch => rfl

/-- In nested rules there is no text to be left over, so an alternative is passed
over if one whose symbols it starts with is. -/
theorem PassedOver.of_prefix (inner : depth ≠ 0)
    (isPrefix : earlier.symbols <+: alternative.symbols)
    (passedOver : parser.PassedOver nested depth input earlier) :
    parser.PassedOver nested depth input alternative := by
  obtain ⟨further, sameSymbols⟩ := isPrefix
  rcases passedOver with fails | ⟨_, _, outermost, _⟩
  · left
    rw [matchSymbols_result_eq earlier alternative, ← sameSymbols]
    exact matchSymbols_append_of_fails fails further
  · exact absurd outermost inner

theorem firstMatch_cons_of_passedOver
    (passedOver : parser.PassedOver nested depth input alternative)
    (others : List Alternative) :
    (parser.firstMatch nested depth input (alternative :: others)).result =
      (parser.firstMatch nested depth input others).result := by
  rw [firstMatch_cons]
  rcases passedOver with fails | ⟨matched, succeeds, outermost, left⟩
  · rw [fails]
  · simp only [succeeds, if_pos (And.intro outermost left)]

/-- An attempt that is not passed over settles the choice. -/
theorem firstMatch_cons_of_not_passedOver
    (settles : ¬ parser.PassedOver nested depth input alternative)
    (others later : List Alternative) :
    (parser.firstMatch nested depth input (alternative :: others)).result =
      (parser.firstMatch nested depth input (alternative :: later)).result := by
  rw [firstMatch_cons, firstMatch_cons]
  rcases attempt : (parser.matchSymbols nested depth alternative alternative.symbols input).result
    with failure | _ | matched
  · rfl
  · exact absurd (.inl attempt) settles
  · have accepted : ¬ (depth = 0 ∧ ¬ Text.isAllBlank matched.rest) :=
      fun left => settles (.inr ⟨matched, attempt, left⟩)
    simp only [if_neg accepted]

/-- The alternative that is chosen is the first one that is not passed over. -/
theorem firstMatch_eq_some_first {alternatives : List Alternative} {matched : Matched}
    (found : (parser.firstMatch nested depth input alternatives).result = .ok (some matched)) :
    ∃ before chosen after, alternatives = before ++ chosen :: after ∧
      (∀ earlier ∈ before, parser.PassedOver nested depth input earlier) ∧
      (parser.matchSymbols nested depth chosen chosen.symbols input).result =
        .ok (some matched) := by
  induction alternatives with
  | nil => simp [firstMatch_nil] at found
  | cons first others inductionHypothesis =>
      by_cases passedOver : parser.PassedOver nested depth input first
      · rw [firstMatch_cons_of_passedOver passedOver] at found
        obtain ⟨before, chosen, after, rfl, earlierPassed, attempt⟩ := inductionHypothesis found
        exact ⟨first :: before, chosen, after, rfl,
          List.forall_mem_cons.mpr ⟨passedOver, earlierPassed⟩, attempt⟩
      · -- nothing behind it matters, so it is the choice among itself alone
        rw [firstMatch_cons_of_not_passedOver passedOver others []] at found
        obtain ⟨chosen, member, attempt, _⟩ := firstMatch_eq_some found
        obtain rfl := List.mem_singleton.mp member
        exact ⟨[], chosen, others, rfl, List.forall_mem_nil _, attempt⟩

theorem firstMatch_without_passedOver
    (passedOver : parser.PassedOver nested depth input alternative)
    (before after : List Alternative) :
    (parser.firstMatch nested depth input (before ++ alternative :: after)).result =
      (parser.firstMatch nested depth input (before ++ after)).result := by
  induction before with
  | nil => exact firstMatch_cons_of_passedOver passedOver after
  | cons first before inductionHypothesis =>
      rw [List.cons_append, List.cons_append, firstMatch_cons, firstMatch_cons,
        inductionHypothesis]

/-- Behind an attempt that is not passed over nothing matters. -/
theorem firstMatch_append_of_not_passedOver (member : alternative ∈ before)
    (settles : ¬ parser.PassedOver nested depth input alternative)
    (after later : List Alternative) :
    (parser.firstMatch nested depth input (before ++ after)).result =
      (parser.firstMatch nested depth input (before ++ later)).result := by
  induction before with
  | nil => simp at member
  | cons first before inductionHypothesis =>
      rw [List.cons_append, List.cons_append]
      by_cases passedOver : parser.PassedOver nested depth input first
      · rcases List.mem_cons.mp member with rfl | inBefore
        · exact absurd passedOver settles
        · rw [firstMatch_cons_of_passedOver passedOver, firstMatch_cons_of_passedOver passedOver]
          exact inductionHypothesis inBefore
      · exact firstMatch_cons_of_not_passedOver passedOver _ _

/-- An alternative that is passed over whenever an earlier one is takes no part in
the choice. -/
theorem firstMatch_without_redundant (member : earlier ∈ before)
    (implied : parser.PassedOver nested depth input earlier →
      parser.PassedOver nested depth input redundant)
    (after : List Alternative) :
    (parser.firstMatch nested depth input (before ++ redundant :: after)).result =
      (parser.firstMatch nested depth input (before ++ after)).result := by
  by_cases passedOver : parser.PassedOver nested depth input redundant
  · exact firstMatch_without_passedOver passedOver before after
  · exact firstMatch_append_of_not_passedOver member (mt implied passedOver) _ _

/-- Alternatives with the symbols of earlier ones take no part in the choice. -/
theorem firstMatch_without_repeated {repeated : List Alternative}
    (known : ∀ alternative ∈ repeated, ∃ earlier ∈ before,
      earlier.symbols = alternative.symbols)
    (after : List Alternative) :
    (parser.firstMatch nested depth input (before ++ repeated ++ after)).result =
      (parser.firstMatch nested depth input (before ++ after)).result := by
  rw [List.append_assoc]
  induction repeated with
  | nil => rfl
  | cons alternative repeated inductionHypothesis =>
      rw [List.forall_mem_cons] at known
      obtain ⟨⟨earlier, member, sameSymbols⟩, othersKnown⟩ := known
      rw [List.cons_append, ← inductionHypothesis othersKnown]
      exact firstMatch_without_redundant member (PassedOver.of_symbols_eq sameSymbols) _

end Parser

namespace Rule

variable {rule other : Rule}

/-- Two rules of one name that come to the same choice, whatever parser attempts
their alternatives and whatever nested rules come to. -/
structure SameChoice (rule other : Rule) : Prop where
  name_eq : other.name = rule.name
  choice_eq : ∀ (parser : Parser) (nested : Rule → Text → Traced (Option (Tree × Text)))
    (depth : Nat) (input : Text),
    (parser.firstMatch nested depth input other.tried).result =
      (parser.firstMatch nested depth input rule.tried).result

theorem SameChoice.refl (rule : Rule) : rule.SameChoice rule := ⟨rfl, fun _ _ _ _ => rfl⟩

/-- Two rules of one name that come to the same choice at one depth. -/
structure SameChoiceAt (depth : Nat) (rule other : Rule) : Prop where
  name_eq : other.name = rule.name
  choice_eq : ∀ (parser : Parser) (nested : Rule → Text → Traced (Option (Tree × Text)))
    (input : Text),
    (parser.firstMatch nested depth input other.tried).result =
      (parser.firstMatch nested depth input rule.tried).result

theorem SameChoice.sameChoiceAt (sameChoice : rule.SameChoice other) (depth : Nat) :
    SameChoiceAt depth rule other :=
  ⟨sameChoice.name_eq, fun parser nested input => sameChoice.choice_eq parser nested depth input⟩

/-- Two rules of one name that come to the same choice wherever they are nested. -/
def SameNestedChoice (rule other : Rule) : Prop :=
  ∀ depth, SameChoiceAt (depth + 1) rule other

theorem SameChoice.sameNestedChoice (sameChoice : rule.SameChoice other) :
    rule.SameNestedChoice other :=
  fun depth => sameChoice.sameChoiceAt (depth + 1)

/-- Two rules of one name that attempt the same symbols in the same order. -/
structure SameTried (rule other : Rule) : Prop where
  name_eq : other.name = rule.name
  symbols_eq : other.tried.map Alternative.symbols = rule.tried.map Alternative.symbols

theorem SameTried.refl (rule : Rule) : rule.SameTried rule := ⟨rfl, rfl⟩

theorem SameTried.sameChoice (sameTried : rule.SameTried other) : rule.SameChoice other :=
  ⟨sameTried.name_eq, fun _ _ _ _ => Parser.firstMatch_eq_of_symbols sameTried.symbols_eq⟩

/-- The try-last alternatives, or the others, in the order of addition. -/
private def group (tryLast : Bool) (alternatives : List Alternative) : List Alternative :=
  alternatives.filter fun alternative => alternative.tryLast == tryLast

private theorem group_append (tryLast : Bool) (before after : List Alternative) :
    group tryLast (before ++ after) = group tryLast before ++ group tryLast after :=
  List.filter_append before after

private theorem tried_eq_groups (rule : Rule) :
    rule.tried = group false rule.alternatives ++ group true rule.alternatives := by
  simp only [tried, group, beq_false, beq_true]

private theorem exists_earlier_of_mem_group {before repeated : List Alternative}
    (known : ∀ alternative ∈ repeated, alternative ∈ before) (tryLast : Bool)
    (front : List Alternative) :
    ∀ alternative ∈ group tryLast repeated, ∃ earlier ∈ front ++ group tryLast before,
      earlier.symbols = alternative.symbols := by
  intro alternative member
  obtain ⟨inRepeated, inGroup⟩ := List.mem_filter.mp member
  have inBefore : alternative ∈ group tryLast before :=
    List.mem_filter.mpr ⟨known alternative inRepeated, inGroup⟩
  exact ⟨alternative, List.mem_append_right front inBefore, rfl⟩

/-- Alternatives that are there already may be left out where they stand again:
they are attempted in the group of the first ones, and behind them. -/
theorem sameChoice_without_repeated (name : Text) {before repeated : List Alternative}
    (known : ∀ alternative ∈ repeated, alternative ∈ before) (after : List Alternative) :
    SameChoice ⟨name, before ++ repeated ++ after⟩ ⟨name, before ++ after⟩ := by
  refine ⟨rfl, fun parser nested depth input => ?_⟩
  simp only [tried_eq_groups, group_append]
  symm
  -- first the ordinary ones are left out, then the try-last ones
  calc (parser.firstMatch nested depth input
        (group false before ++ group false repeated ++ group false after ++
          (group true before ++ group true repeated ++ group true after))).result
    _ = (parser.firstMatch nested depth input
          (group false before ++ (group false after ++
            (group true before ++ group true repeated ++ group true after)))).result := by
        rw [List.append_assoc (group false before ++ group false repeated)]
        exact Parser.firstMatch_without_repeated
          (exists_earlier_of_mem_group known false []) _
    _ = (parser.firstMatch nested depth input
          (group false before ++ group false after ++ group true before ++
            group true repeated ++ group true after)).result := by
        simp only [List.append_assoc]
    _ = (parser.firstMatch nested depth input
          (group false before ++ group false after ++ group true before ++
            group true after)).result :=
        Parser.firstMatch_without_repeated (exists_earlier_of_mem_group known true _) _
    _ = (parser.firstMatch nested depth input
          (group false before ++ group false after ++
            (group true before ++ group true after))).result := by
        rw [List.append_assoc (group false before ++ group false after)]

end Rule

end BnfParsing
