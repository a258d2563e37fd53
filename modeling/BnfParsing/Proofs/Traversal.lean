import Mathlib.Data.List.Forall2

/-!
Contract: lists that are visited element by element, where a visit can fail.

Owns:
- when a traversal succeeds, which element makes it fail, and what becomes of it if
  the errors are changed;
- when a computation succeeds or fails that goes on with the result of another one;
- the sides of an element in two lists that follow each other.

Does not own: what is visited.
-/

set_option autoImplicit false

namespace BnfParsing

variable {α β ε ζ : Type} {visit : α → Except ε β} {elements : List α}

/-- A traversal that does not fail relates each element with its result. -/
theorem mapM_eq_ok_iff {results : List β} :
    elements.mapM visit = .ok results ↔
      List.Forall₂ (fun element result => visit element = .ok result) elements results := by
  induction elements generalizing results with
  | nil => cases results <;> simp [pure, Except.pure]
  | cons element others inductionHypothesis =>
      rw [List.mapM_cons]
      cases first : visit element with
      | error failure => cases results <;> simp [bind, Except.bind, first]
      | ok result =>
          cases rest : others.mapM visit with
          | error failure =>
              cases results <;> simp [bind, Except.bind, ← inductionHypothesis, first, rest]
          | ok laterResults =>
              cases results <;>
                simp [bind, Except.bind, pure, Except.pure, ← inductionHypothesis, first, rest]

/-- A traversal fails at the first element that does. -/
theorem mapM_eq_error_iff {failure : ε} :
    elements.mapM visit = .error failure ↔
      ∃ before element after, elements = before ++ element :: after ∧
        (∀ earlier ∈ before, ∃ result, visit earlier = .ok result) ∧
        visit element = .error failure := by
  induction elements with
  | nil =>
      constructor
      · intro failed
        cases failed
      · rintro ⟨before, element, after, split, -⟩
        simp at split
  | cons first others inductionHypothesis =>
      rw [List.mapM_cons]
      constructor
      · intro failed
        cases visited : visit first with
        | error reason =>
            rw [visited] at failed
            cases failed
            exact ⟨[], first, others, rfl, by simp, visited⟩
        | ok result =>
            have later : others.mapM visit = .error failure := by
              rw [visited] at failed
              cases rest : others.mapM visit with
              | error reason =>
                  rw [rest] at failed
                  exact failed
              | ok results =>
                  rw [rest] at failed
                  cases failed
            obtain ⟨before, element, after, rfl, earlierFine, atElement⟩ :=
              inductionHypothesis.mp later
            refine ⟨first :: before, element, after, rfl, ?_, atElement⟩
            rw [List.forall_mem_cons]
            exact ⟨⟨result, visited⟩, earlierFine⟩
      · rintro ⟨before, element, after, split, earlierFine, atElement⟩
        cases before with
        | nil =>
            cases split
            rw [atElement]
            rfl
        | cons earlier before =>
            cases split
            rw [List.forall_mem_cons] at earlierFine
            obtain ⟨⟨result, visited⟩, othersFine⟩ := earlierFine
            have later := inductionHypothesis.mpr ⟨before, element, after, rfl, othersFine, atElement⟩
            rw [visited, later]
            rfl

theorem exists_ok_of_mapM_eq_ok {results : List β} {element : α}
    (done : elements.mapM visit = .ok results) (member : element ∈ elements) :
    ∃ result, visit element = .ok result := by
  have all := mapM_eq_ok_iff.mp done
  induction all with
  | nil => exact absurd member List.not_mem_nil
  | cons visited others inductionHypothesis =>
      rcases List.mem_cons.mp member with rfl | inOthers
      · exact ⟨_, visited⟩
      · exact inductionHypothesis (mapM_eq_ok_iff.mpr others) inOthers

theorem map_eq_ok_iff {result : Except ε α} {wrap : α → β} {wrapped : β} :
    result.map wrap = .ok wrapped ↔ ∃ found, result = .ok found ∧ wrap found = wrapped := by
  cases result <;> simp [Except.map]

theorem map_eq_error_iff {result : Except ε α} {wrap : α → β} {failure : ε} :
    result.map wrap = .error failure ↔ result = .error failure := by
  cases result <;> simp [Except.map]

/-- A result in other terms fails exactly as the result itself does. -/
theorem map_mapError_eq_error_iff {result : Except ε α} {change : ε → ζ} {wrap : α → β}
    {failure : ζ} :
    (result.mapError change).map wrap = .error failure ↔
      ∃ reason, result = .error reason ∧ change reason = failure := by
  cases result <;> simp [Except.mapError, Except.map]

theorem mapError_eq_ok_iff {result : Except ε α} {change : ε → ζ} {found : α} :
    result.mapError change = .ok found ↔ result = .ok found := by
  cases result <;> simp [Except.mapError]

theorem mapError_eq_error_iff {result : Except ε α} {change : ε → ζ} {failure : ζ} :
    result.mapError change = .error failure ↔
      ∃ reason, result = .error reason ∧ change reason = failure := by
  cases result <;> simp [Except.mapError]

theorem bind_eq_ok_iff {first : Except ε α} {next : α → Except ε β} {result : β} :
    first.bind next = .ok result ↔ ∃ found, first = .ok found ∧ next found = .ok result := by
  cases first <;> simp [Except.bind]

theorem bind_eq_error_iff {first : Except ε α} {next : α → Except ε β} {failure : ε} :
    first.bind next = .error failure ↔
      first = .error failure ∨ ∃ found, first = .ok found ∧ next found = .error failure := by
  cases first <;> simp [Except.bind]

/-- A traversal whose visits fail alike, if they fail. -/
theorem mapM_eq_error_or_ok {fails : α → Prop} {failure : ε} {result : α → β}
    (each : ∀ element, fails element ∧ visit element = .error failure ∨
      ¬ fails element ∧ visit element = .ok (result element)) (elements : List α) :
    (∃ element ∈ elements, fails element) ∧ elements.mapM visit = .error failure ∨
      ¬ (∃ element ∈ elements, fails element) ∧
        elements.mapM visit = .ok (elements.map result) := by
  induction elements with
  | nil => exact .inr ⟨by simp, rfl⟩
  | cons element others inductionHypothesis =>
      rw [List.mapM_cons, List.exists_mem_cons_iff]
      rcases each element with ⟨here, failed⟩ | ⟨fine, visited⟩
      · rw [failed]
        exact .inl ⟨.inl here, rfl⟩
      rw [visited, or_iff_right fine]
      rcases inductionHypothesis with ⟨later, failed⟩ | ⟨fineLater, found⟩
      · rw [failed]
        exact .inl ⟨later, rfl⟩
      · rw [found]
        exact .inr ⟨fineLater, rfl⟩

/-- A change of errors passes through a traversal. -/
theorem mapM_mapError (visit : α → Except ε β) (change : ε → ζ) (elements : List α) :
    (elements.mapM fun element => (visit element).mapError change) =
      (elements.mapM visit).mapError change := by
  induction elements with
  | nil => rfl
  | cons element others inductionHypothesis =>
      rw [List.mapM_cons, List.mapM_cons, inductionHypothesis]
      cases visit element with
      | error failure => rfl
      | ok result => cases others.mapM visit <;> rfl

/-- An element of two lists that follow each other stands in the first or in the second. -/
theorem sides_of_append_eq {first second before after : List α} {element : α}
    (split : first ++ second = before ++ element :: after) :
    (∃ rest, first = before ++ element :: rest ∧ after = rest ++ second) ∨
      ∃ start, before = first ++ start ∧ second = start ++ element :: after := by
  rcases List.append_eq_append_iff.mp split with ⟨start, inFront, inside⟩ | ⟨rest, inside, ends⟩
  · exact .inr ⟨start, inFront, inside⟩
  · cases rest with
    | nil => exact .inr ⟨[], by simpa using inside.symm, ends.symm⟩
    | cons head rest =>
        obtain ⟨rfl, rfl⟩ := List.cons_eq_cons.mp ends
        exact .inl ⟨rest, inside, rfl⟩

end BnfParsing
