import BnfParsing.Proofs.Derivation.Agreement
import Mathlib.Data.Nat.Find

/-!
Contract: the limit on nesting decides whether there is a result, never which.

Owns: parsers under another limit, the agreement of a search with one that is
allowed more levels, and the threshold from which on the result stays the same.

Does not own: how large the threshold is.
-/

set_option autoImplicit false

namespace BnfParsing

/-- The search was ended by the limit on nesting. -/
def Defect.IsLimit (failure : Defect) : Prop := ∃ reached, failure = .limitReached reached

namespace Parser

variable {parser : Parser} {depth : Nat}

/-- The parser with another limit. -/
def withLimit (parser : Parser) (limit : Nat) : Parser := { parser with limit := limit }

theorem simulates_withLimit (excused : Defect → Prop) (parser : Parser) (limit : Nat)
    (whole : Text) :
    Simulates excused Rule.SameChoice whole parser (parser.withLimit limit) :=
  simulates_of_rules rfl (fun _ rule found => ⟨rule, found, .refl rule⟩)
    fun _ undefined => .inr undefined

/-- More levels change nothing unless the search ran out of levels. The limit
itself matters only for the wording of that defect. -/
theorem derive_agrees {levels more : Nat} (le : levels ≤ more) (limit : Nat)
    {rule otherRule : Rule} (sameChoice : rule.SameChoice otherRule) (input : Text) :
    Agrees Defect.IsLimit (derive parser levels depth rule input).result
      (derive (parser.withLimit limit) more depth otherRule input).result := by
  induction levels generalizing more depth rule otherRule input with
  | zero => exact .inl ⟨_, ⟨parser.limit, rfl⟩, derive_zero rule input⟩
  | succ levels inductionHypothesis =>
      obtain ⟨lower, rfl⟩ : ∃ lower, more = lower + 1 := ⟨more - 1, by omega⟩
      have nestedAgree : NestedAgree Defect.IsLimit Rule.SameChoice input
          (derive parser levels (depth + 1)) (derive (parser.withLimit limit) lower (depth + 1)) :=
        fun _ _ cursor nestedSame _ => inductionHypothesis (by omega) nestedSame cursor
      exact derive_succ_agrees (simulates_withLimit Defect.IsLimit parser limit input) nestedAgree
        Iff.rfl sameChoice (List.suffix_refl input)

/-- The defect names the limit of the parser. -/
theorem derive_limitReached {levels reached : Nat} {rule : Rule} {input : Text}
    (failed : (derive parser levels depth rule input).result =
      .error (.limitReached reached)) :
    reached = parser.limit := by
  induction levels generalizing depth rule input with
  | zero =>
      simp only [derive_zero, Except.error.injEq, Defect.limitReached.injEq] at failed
      exact failed.symm
  | succ levels inductionHypothesis =>
      rcases derive_eq_error failed with ⟨noLevels, _⟩ | ⟨lower, chosen, same, _, matchFails⟩
      · omega
      · obtain rfl : levels = lower := by omega
        obtain ⟨_, _, _, _, _, _, _, ⟨_, missing⟩ | ⟨callee, _, nestedFails⟩⟩ :=
          matchSymbols_eq_error matchFails
        · simp at missing
        · exact inductionHypothesis nestedFails

/-- What a parser comes to on a text under a limit. -/
def outcomeUnder (parser : Parser) (input : Text) (limit : Nat) :
    Except Defect (Option Tree) :=
  ((parser.withLimit limit).tryParse input).result

theorem outcomeUnder_agrees (input : Text) {limit higher : Nat} (le : limit ≤ higher) :
    Agrees Defect.IsLimit (parser.outcomeUnder input limit)
      (parser.outcomeUnder input higher) := by
  have agrees :
      Agrees Defect.IsLimit
        (derive (parser.withLimit limit) (limit + 1) 0 parser.start input).result
        (derive (parser.withLimit higher) (higher + 1) 0 parser.start input).result :=
    derive_agrees (by omega) higher (.refl parser.start) input
  unfold outcomeUnder
  rw [tryParse_result, tryParse_result]
  exact agrees.map (Option.map Prod.fst)

theorem outcomeUnder_limitReached {input : Text} {limit reached : Nat}
    (failed : parser.outcomeUnder input limit = .error (.limitReached reached)) :
    reached = limit :=
  derive_limitReached (tryParse_eq_error.mp failed)

/-- Without the defect of the limit, a result is the one under every higher
limit. -/
theorem outcomeUnder_eq_of_le {input : Text} {limit higher : Nat} (le : limit ≤ higher)
    (settled : ∀ reached, parser.outcomeUnder input limit ≠ .error (.limitReached reached)) :
    parser.outcomeUnder input higher = parser.outcomeUnder input limit := by
  apply (outcomeUnder_agrees input le).eq_of_not_excused
  rintro failure ⟨reached, rfl⟩
  exact settled reached

/-- A result other than the defect of the limit stays the same under every
higher limit. So there is a threshold: below it every limit is reached, from it
on the result is always the same; or else every limit is reached. -/
theorem raising_limit_keeps_outcome (parser : Parser) (input : Text) :
    (∀ limit higher, limit ≤ higher →
      (∀ reached, parser.outcomeUnder input limit ≠ .error (.limitReached reached)) →
      parser.outcomeUnder input higher = parser.outcomeUnder input limit) ∧
    ((∀ limit, parser.outcomeUnder input limit = .error (.limitReached limit)) ∨
      ∃ threshold outcome, (∀ reached, outcome ≠ .error (.limitReached reached)) ∧
        (∀ limit < threshold,
          parser.outcomeUnder input limit = .error (.limitReached limit)) ∧
        ∀ limit ≥ threshold, parser.outcomeUnder input limit = outcome) := by
  classical
  refine ⟨fun limit higher le settled => outcomeUnder_eq_of_le le settled, ?_⟩
  by_cases everyReached :
      ∀ limit, parser.outcomeUnder input limit = .error (.limitReached limit)
  · exact .inl everyReached
  · -- the threshold is the least limit that is not reached
    have someSettled : ∃ limit,
        parser.outcomeUnder input limit ≠ .error (.limitReached limit) :=
      not_forall.mp everyReached
    have settled : ∀ reached,
        parser.outcomeUnder input (Nat.find someSettled) ≠ .error (.limitReached reached) := by
      intro reached failed
      obtain rfl := outcomeUnder_limitReached failed
      exact Nat.find_spec someSettled failed
    refine .inr ⟨Nat.find someSettled, _, settled, ?_, ?_⟩
    · intro limit below
      exact not_not.mp (Nat.find_min someSettled below)
    · intro limit above
      exact outcomeUnder_eq_of_le above settled

/-- One letter `x` after the other. -/
def letters : Parser where
  grammar :=
    { rules :=
        [⟨"<S>".toList,
          [{ symbols := [.terminal ['x'] true, .nonTerminal "<S>".toList] },
            { symbols := [.terminal ['x'] true] }]⟩]
      names_nodup := by decide }
  start :=
    ⟨"<S>".toList,
      [{ symbols := [.terminal ['x'] true, .nonTerminal "<S>".toList] },
        { symbols := [.terminal ['x'] true] }]⟩
  start_mem := List.mem_cons_self
  limit := 1
  partialInput := false
  level := .off

/-- Two letters take three levels, one of them to find that no third follows. -/
theorem raising_limit_keeps_letters :
    2 ≤ 7 ∧
      (∀ reached, letters.outcomeUnder "x x".toList 2 ≠ .error (.limitReached reached)) ∧
      letters.outcomeUnder "x x".toList 7 = letters.outcomeUnder "x x".toList 2 := by
  have le : 2 ≤ 7 := by decide
  have settled : ∀ reached,
      letters.outcomeUnder "x x".toList 2 ≠ .error (.limitReached reached) := by
    intro reached failed
    cases failed
  exact ⟨le, settled, (raising_limit_keeps_outcome letters "x x".toList).1 2 7 le settled⟩

end Parser

end BnfParsing
