import BnfParsing.Proofs.Derivation.Step

/-!
Contract: the steps of a derivation together with what they note down.

Results alone do not tell what has been tried in vain. Here each step is given as a
whole, with the notes before and after the nested rules that it goes on with.

Owns:
- the notes of a computation that goes on with another one;
- matching symbols in terms of the reading of the first one and its own notes.

Does not own: what follows for all notes of a derivation.
-/

set_option autoImplicit false

namespace BnfParsing

attribute [ext] Traced

namespace Traced

variable {α β : Type}

theorem events_bind (first : Traced α) (next : α → Traced β) :
    (first >>= next).events =
      first.events ++
        match first.result with
        | .ok value => (next value).events
        | .error _ => [] := by
  change (andThen first next).events = _
  unfold andThen
  cases first.result with
  | error found => exact (List.append_nil _).symm
  | ok value => rfl

private theorem id_map (computation : Traced α) : id <$> computation = computation := by
  obtain ⟨events, result⟩ := computation
  cases result with
  | error found => rfl
  | ok value => exact congrArg (Traced.mk · (.ok value)) (List.append_nil events)

private theorem bind_assoc {γ : Type} (first : Traced α) (next : α → Traced β)
    (last : β → Traced γ) :
    first >>= next >>= last = first >>= fun value => next value >>= last := by
  apply Traced.ext
  · simp only [events_bind, result_bind]
    cases first.result with
    | error found => simp [Except.bind]
    | ok value => cases (next value).result <;> simp [Except.bind]
  · simp only [result_bind]
    cases first.result <;> rfl

instance : LawfulMonad Traced :=
  LawfulMonad.mk' Traced id_map (fun _ _ => rfl) bind_assoc

@[simp]
theorem events_map (change : α → β) (computation : Traced α) :
    (change <$> computation).events = computation.events := by
  rw [← bind_pure_comp, events_bind]
  cases computation.result <;> exact List.append_nil _

@[simp]
theorem result_map (change : α → β) (computation : Traced α) :
    (change <$> computation).result = computation.result.map change := by
  rw [← bind_pure_comp, result_bind]
  cases computation.result <;> rfl

end Traced

namespace Parser

variable {parser : Parser} {nested : Rule → Text → Traced (Option (Tree × Text))}
variable {depth : Nat} {alternative : Alternative}

/-- The note that a symbol does not match, which is not taken at the end of the text. -/
def noteMismatch (parser : Parser) (depth : Nat) (alternative : Alternative) (symbol : Symbol)
    (cursor : Text) : Traced Unit :=
  if cursor.isEmpty then pure ()
  else Traced.note parser.level (.mismatch depth symbol alternative)

/-- What follows the first symbol, with what it was read as in front. -/
private theorem followedBy_eq (child : Tree) (following : Traced (Option Matched)) :
    (do
      let matched ← following
      return matched.map (Matched.cons child)) =
      Option.map (Matched.cons child) <$> following :=
  bind_pure_comp _ _

/-- The first symbol decides how the others are matched, and what is noted if it fails. -/
theorem matchSymbols_cons_eq (symbol : Symbol) (symbols : List Symbol) (text : Text) :
    parser.matchSymbols nested depth alternative (symbol :: symbols) text =
      match parser.reading (Text.trimStart text) symbol with
      | .complete => pure (some ⟨[Tree.leaf []], Text.trimStart text, true⟩)
      | .leaf leaf rest =>
          Option.map (Matched.cons leaf) <$>
            parser.matchSymbols nested depth alternative symbols rest
      | .nested rule => do
          match ← nested rule (Text.trimStart text) with
          | some (child, rest) =>
              Option.map (Matched.cons child) <$>
                parser.matchSymbols nested depth alternative symbols rest
          | none =>
              Traced.note parser.level (.nestedFailure depth symbol.name alternative)
              return none
      | .missing name => Traced.defect (.missingRule name)
      | .mismatch => do
          parser.noteMismatch depth alternative symbol (Text.trimStart text)
          return none := by
  rcases symbol.role with rfl | ⟨name, rfl⟩ | readsText
  · rfl
  · simp only [matchSymbols, reading]
    cases parser.marker? name (Text.trimStart text) with
    | some rest => exact followedBy_eq _ _
    | none =>
        cases parser.grammar.rule? name with
        | none => rfl
        | some rule =>
            simp only [followedBy_eq]
            rfl
  · rw [reading_of_readsText readsText, matchSymbols]
    case x_2 =>
      rintro rfl
      exact readsText.1 rfl
    case x_3 =>
      rintro name rfl
      exact readsText.2 rfl
    cases Text.trimStart text with
    | nil =>
        rw [consume?_nil]
        rfl
    | cons character rest =>
        cases consume? symbol (character :: rest) with
        | none => rfl
        | some consumed => exact followedBy_eq _ _

end Parser

end BnfParsing
