import BnfParsing.Grammar.Escape
import BnfParsing.Proofs.Text.Trimming
import BnfParsing.Proofs.Traversal

/-!
Contract: how resolving escapes changes a text.

Owns:
- a relation with a constructor for each way in which resolving goes on;
- the length of what a text resolves to, by which a text with an escape never
  resolves to itself;
- characters put in front of a text or behind it.

Does not own: the characters that code units stand for, or texts that do not resolve.
-/

set_option autoImplicit false

namespace BnfParsing.Escape

variable {units : List Nat} {text resolved : Text} {character : Char}

/-- What a text resolves to after the code units of the escapes just in front of
it, the latest first. -/
inductive Resolves : List Nat → Text → Text → Prop where
  | done (units : List Nat) : Resolves units [] (decodeUnits units.reverse)
  | unit {units : List Nat} {unit : Nat} {first second third fourth : Char}
      {rest resolved : Text} (value : unit? first second third fourth = some unit)
      (others : Resolves (unit :: units) rest resolved) :
      Resolves units ('\\' :: 'u' :: first :: second :: third :: fourth :: rest) resolved
  | pair (units : List Nat) {rest resolved : Text} (others : Resolves [] rest resolved) :
      Resolves units ('\\' :: '\\' :: rest)
        (decodeUnits units.reverse ++ '\\' :: '\\' :: resolved)
  | plain (units : List Nat) {character : Char} {rest resolved : Text}
      (notEscape : character = '\\' → rest.head? ≠ some 'u' ∧ rest.head? ≠ some '\\')
      (others : Resolves [] rest resolved) :
      Resolves units (character :: rest) (decodeUnits units.reverse ++ character :: resolved)

theorem resolveFrom_cons (units : List Nat)
    (notEscape : character = '\\' → text.head? ≠ some 'u' ∧ text.head? ≠ some '\\') :
    resolveFrom units (character :: text) =
      (resolveFrom [] text).map fun resolved =>
        decodeUnits units.reverse ++ character :: resolved := by
  rw [resolveFrom]
  · cases resolveFrom [] text <;> rfl
  all_goals
    intros
    simp_all

/-- A backslash that is read as it is stands neither for an escape nor for a pair. -/
theorem not_escape_of_not_cons
    (notUnit : ∀ others, character = '\\' → text = 'u' :: others → False)
    (notPair : ∀ others, character = '\\' → text = '\\' :: others → False) :
    character = '\\' → text.head? ≠ some 'u' ∧ text.head? ≠ some '\\' := by
  intro backslash
  constructor
  · intro starts
    obtain ⟨others, rfl⟩ := List.head?_eq_some_iff.mp starts
    exact notUnit others backslash rfl
  · intro starts
    obtain ⟨others, rfl⟩ := List.head?_eq_some_iff.mp starts
    exact notPair others backslash rfl

/-- What a text resolves to is related to it, case by case as it is resolved. -/
theorem resolves_of_resolveFrom (found : resolveFrom units text = .ok resolved) :
    Resolves units text resolved := by
  fun_induction resolveFrom units text generalizing resolved with
  | case1 units =>
      rw [Except.ok.injEq] at found
      exact found ▸ .done units
  | case2 units first second third fourth rest unit value inductionHypothesis =>
      exact .unit value (inductionHypothesis found)
  | case3 => cases found
  | case4 => cases found
  | case5 units rest inductionHypothesis =>
      obtain ⟨resolvedRest, others, rfl⟩ := map_eq_ok_iff.mp found
      exact .pair units (inductionHypothesis others)
  | case6 units character rest notUnit notUnitStart notPair inductionHypothesis =>
      obtain ⟨resolvedRest, others, rfl⟩ := map_eq_ok_iff.mp found
      exact .plain units (not_escape_of_not_cons notUnitStart notPair)
        (inductionHypothesis others)

theorem Resolves.resolveFrom_eq (resolves : Resolves units text resolved) :
    resolveFrom units text = .ok resolved := by
  induction resolves with
  | done units => rfl
  | unit value _ inductionHypothesis =>
      rw [resolveFrom]
      simp [value, inductionHypothesis]
  | pair units _ inductionHypothesis =>
      rw [resolveFrom, inductionHypothesis]
      rfl
  | plain units notEscape _ inductionHypothesis =>
      rw [resolveFrom_cons units notEscape, inductionHypothesis]
      rfl

theorem resolve_eq_ok_iff : resolve text = .ok resolved ↔ Resolves [] text resolved :=
  ⟨resolves_of_resolveFrom, Resolves.resolveFrom_eq⟩

/-- A character that is no backslash never belongs to an escape that follows it. -/
theorem resolve_cons (notBackslash : character ≠ '\\') (text : Text) :
    resolve (character :: text) = (resolve text).map (character :: ·) :=
  resolveFrom_cons [] fun backslash => absurd backslash notBackslash

/-- Without backslashes there is nothing to resolve. -/
theorem resolve_of_no_backslash (absent : '\\' ∉ text) : resolve text = .ok text := by
  induction text with
  | nil => rfl
  | cons first rest inductionHypothesis =>
      rw [List.mem_cons, not_or] at absent
      rw [resolve_cons (Ne.symm absent.1), inductionHypothesis absent.2]
      rfl

theorem length_decodeUnits_le (units : List Nat) : (decodeUnits units).length ≤ units.length := by
  fun_induction decodeUnits units with
  | case1 => exact le_rfl
  | case2 unit => simp
  | case3 unit next rest _ _ inductionHypothesis =>
      simp only [List.length_cons]
      omega
  | case4 unit next rest _ _ inductionHypothesis =>
      simpa using inductionHypothesis
  | case5 unit next rest _ _ inductionHypothesis =>
      simpa using inductionHypothesis
  | case6 unit next rest _ _ inductionHypothesis =>
      simpa using inductionHypothesis

theorem decodeUnits_ne_nil (nonempty : units ≠ []) : decodeUnits units ≠ [] := by
  fun_cases decodeUnits units <;> simp_all

namespace Resolves

theorem length_le (resolves : Resolves units text resolved) :
    resolved.length ≤ units.length + text.length := by
  induction resolves with
  | done units => simpa using length_decodeUnits_le units.reverse
  | unit _ _ inductionHypothesis =>
      simp only [List.length_cons] at inductionHypothesis ⊢
      omega
  | pair units _ inductionHypothesis =>
      have decoded := length_decodeUnits_le units.reverse
      simp only [List.length_append, List.length_cons, List.length_reverse,
        List.length_nil] at inductionHypothesis decoded ⊢
      omega
  | plain units _ _ inductionHypothesis =>
      have decoded := length_decodeUnits_le units.reverse
      simp only [List.length_append, List.length_cons, List.length_reverse,
        List.length_nil] at inductionHypothesis decoded ⊢
      omega

/-- Escapes take more characters than they stand for, so a text without them is
kept and any other one gets shorter. -/
theorem eq_or_length_lt (resolves : Resolves units text resolved) :
    resolved = decodeUnits units.reverse ++ text ∨
      resolved.length < units.length + text.length := by
  induction resolves with
  | done units => exact .inl (List.append_nil _).symm
  | unit _ others _ =>
      have bound := others.length_le
      simp only [List.length_cons] at bound ⊢
      exact .inr (by omega)
  | pair units _ inductionHypothesis =>
      have decoded := length_decodeUnits_le units.reverse
      rcases inductionHypothesis with rfl | shorter
      · exact .inl rfl
      · simp only [List.length_append, List.length_cons, List.length_reverse,
          List.length_nil] at shorter decoded ⊢
        exact .inr (by omega)
  | plain units _ _ inductionHypothesis =>
      have decoded := length_decodeUnits_le units.reverse
      rcases inductionHypothesis with rfl | shorter
      · exact .inl rfl
      · simp only [List.length_append, List.length_cons, List.length_reverse,
          List.length_nil] at shorter decoded ⊢
        exact .inr (by omega)

theorem ne_nil (resolves : Resolves units text resolved) (nonempty : units ≠ [] ∨ text ≠ []) :
    resolved ≠ [] := by
  induction resolves with
  | done units => exact decodeUnits_ne_nil (by simpa using nonempty)
  | unit _ _ inductionHypothesis => exact inductionHypothesis (.inl (List.cons_ne_nil _ _))
  | pair => simp
  | plain => simp

/-- A character behind a text is kept, unless it could complete an escape. -/
theorem concat {last : Char} (notUnit : last ≠ 'u') (notBackslash : last ≠ '\\')
    (resolves : Resolves units text resolved) :
    Resolves units (text ++ [last]) (resolved ++ [last]) := by
  induction resolves with
  | done units => exact .plain units (fun backslash => absurd backslash notBackslash) (.done [])
  | unit value _ inductionHypothesis => exact .unit value inductionHypothesis
  | pair units _ inductionHypothesis =>
      rw [List.append_assoc]
      exact .pair units inductionHypothesis
  | @plain units character rest resolved notEscape _ inductionHypothesis =>
      rw [List.append_assoc]
      refine .plain units (fun backslash => ?_) inductionHypothesis
      cases rest with
      | nil => simp [notUnit, notBackslash]
      | cons next others => exact notEscape backslash

end Resolves

/-- A text resolves to itself or to a shorter one. -/
theorem eq_or_length_lt_of_resolve (found : resolve text = .ok resolved) :
    resolved = text ∨ resolved.length < text.length := by
  simpa [decodeUnits] using (resolve_eq_ok_iff.mp found).eq_or_length_lt

theorem ne_nil_of_resolve (found : resolve text = .ok resolved) (nonempty : text ≠ []) :
    resolved ≠ [] :=
  (resolve_eq_ok_iff.mp found).ne_nil (.inr nonempty)

/-- Blanks around a text are kept. -/
theorem resolve_blanks_append_blanks {front back : Text} (frontBlank : Text.isAllBlank front)
    (backBlank : Text.isAllBlank back) (found : resolve text = .ok resolved) :
    resolve (front ++ text ++ back) = .ok (front ++ resolved ++ back) := by
  have notBackslash : ∀ {blank : Char}, Text.isBlank blank → blank ≠ '\\' := by
    rintro blank isBlank rfl
    exact absurd isBlank (by decide)
  have notUnit : ∀ {blank : Char}, Text.isBlank blank → blank ≠ 'u' := by
    rintro blank isBlank rfl
    exact absurd isBlank (by decide)
  have withFront : resolve (front ++ text) = .ok (front ++ resolved) := by
    induction front with
    | nil => exact found
    | cons first front inductionHypothesis =>
        simp only [Text.isAllBlank, List.all_cons, Bool.and_eq_true] at frontBlank
        rw [List.cons_append, resolve_cons (notBackslash frontBlank.1),
          inductionHypothesis frontBlank.2]
        rfl
  induction back using List.reverseRecOn with
  | nil => simpa using withFront
  | append_singleton back last inductionHypothesis =>
      rw [Text.isAllBlank_append] at backBlank
      have lastBlank : Text.isBlank last := by simpa [Text.isAllBlank] using backBlank.2
      rw [← List.append_assoc, ← List.append_assoc, resolve_eq_ok_iff]
      exact (resolve_eq_ok_iff.mp (inductionHypothesis backBlank.1)).concat (notUnit lastBlank)
        (notBackslash lastBlank)

end BnfParsing.Escape
