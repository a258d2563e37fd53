import BnfParsing.Proofs.Grammar.CodeUnits
import BnfParsing.Proofs.Grammar.Escaping

/-!
Contract: a text is read back from every way to write it with escapes.

Any characters of a text may be written as the escapes of their code units, with digits in
either case. Only a backslash has to be written so, since one that is written as it is could
start an escape or a pair of backslashes.

Owns:
- code units written as escapes in a row, and reading them behind other code units;
- the ways to write a character, and a text with a way for each of its places;
- reading such a text back.

Does not own: texts with backslashes that start no escape.
-/

set_option autoImplicit false

namespace BnfParsing.Escape

/-- Code units as escapes in a row. The argument tells, for the number of a unit in the row
and the number of a digit in it, whether this digit is in upper case. -/
def escapes (isUpper : Nat → Nat → Bool) : List Nat → Text
  | [] => []
  | unit :: units =>
      '\\' :: 'u' :: digits (isUpper 0) unit ++ escapes (fun place => isUpper (place + 1)) units

/-- Reading collects the units of escapes in a row, the latest first. -/
theorem Resolves.escapes_append {isUpper : Nat → Nat → Bool} {units earlier : List Nat}
    {rest resolved : Text} (bounded : ∀ unit ∈ units, unit < 0x10000)
    (others : Resolves (units.reverse ++ earlier) rest resolved) :
    Resolves earlier (escapes isUpper units ++ rest) resolved := by
  induction units generalizing earlier isUpper with
  | nil => exact others
  | cons unit units inductionHypothesis =>
      rw [List.forall_mem_cons] at bounded
      rw [List.reverse_cons, List.append_assoc] at others
      exact .unit (unit?_eq_some_iff.mpr ⟨bounded.1, isUpper 0, rfl⟩)
        (inductionHypothesis bounded.2 others)

/-- How a character is written: as it is, or as the escapes of its code units. -/
inductive Spelling where
  | plain
  | escaped (isUpper : Nat → Nat → Bool)

/-- The character written in this way. -/
def Spelling.write (character : Char) : Spelling → Text
  | .plain => [character]
  | .escaped isUpper => escapes isUpper (codeUnits character)

/-- The text with each character written in the way that goes with its place. -/
def write (spellings : Nat → Spelling) : Text → Text
  | [] => []
  | character :: rest =>
      (spellings 0).write character ++ write (fun place => spellings (place + 1)) rest

/-- The characters whose units have been collected come out in front of the rest. -/
theorem resolves_write {spellings : Nat → Spelling} {text : Text}
    (backslashEscaped : ∀ place, text[place]? = some '\\' → spellings place ≠ .plain)
    (pending : Text) :
    Resolves (pending.flatMap codeUnits).reverse (write spellings text) (pending ++ text) := by
  induction text generalizing pending spellings with
  | nil =>
      have done := Resolves.done (pending.flatMap codeUnits).reverse
      rw [List.reverse_reverse, decodeUnits_flatMap_codeUnits] at done
      rwa [List.append_nil]
  | cons character rest inductionHypothesis =>
      have laterEscaped : ∀ place, rest[place]? = some '\\' → spellings (place + 1) ≠ .plain :=
        fun place => backslashEscaped (place + 1)
      rw [write]
      cases spelling : spellings 0 with
      | plain =>
          have notBackslash : character ≠ '\\' := by
            rintro rfl
            exact backslashEscaped 0 rfl spelling
          have plain := Resolves.plain (pending.flatMap codeUnits).reverse
            (fun backslash => absurd backslash notBackslash) (inductionHypothesis laterEscaped [])
          rwa [List.reverse_reverse, decodeUnits_flatMap_codeUnits] at plain
      | escaped isUpper =>
          apply Resolves.escapes_append (codeUnits_lt character)
          have collected := inductionHypothesis laterEscaped (pending ++ [character])
          rwa [List.flatMap_append, List.flatMap_singleton, List.reverse_append,
            List.append_assoc, List.singleton_append] at collected

/-- Resolving escapes undoes writing a text with them, whichever characters are escaped, as
long as every backslash is. -/
theorem resolve_write (text : Text) (spellings : Nat → Spelling)
    (backslashEscaped : ∀ place, text[place]? = some '\\' → spellings place ≠ .plain) :
    resolve (write spellings text) = .ok text :=
  resolve_eq_ok_iff.mpr (resolves_write backslashEscaped [])

/-- Escapes at the second and the third place, with digits in both cases. -/
def secondAndThird : Nat → Spelling
  | 1 => .escaped fun _ _ => true
  | 2 => .escaped fun unit digit => unit == digit
  | _ => .plain

/-- A backslash, then a character outside of the basic plane, then what would be the rest of an
escape if the backslash had been written as it is. -/
theorem secondAndThird_resolve :
    (∀ place, "a\\😀u0041".toList[place]? = some '\\' → secondAndThird place ≠ .plain) ∧
      write secondAndThird "a\\😀u0041".toList = "a\\u005C\\uD83d\\udE00u0041".toList ∧
      resolve "a\\u005C\\uD83d\\udE00u0041".toList = .ok "a\\😀u0041".toList := by
  have escaped : ∀ place, "a\\😀u0041".toList[place]? = some '\\' →
      secondAndThird place ≠ .plain := by
    intro place found
    match place with
    | 0 => cases found
    | 1 => simp [secondAndThird]
    | 2 => simp [secondAndThird]
    | place + 3 =>
        have member : '\\' ∈ "u0041".toList := List.mem_of_getElem? found
        exact absurd member (by decide)
  have written : write secondAndThird "a\\😀u0041".toList =
      "a\\u005C\\uD83d\\udE00u0041".toList := by decide
  have readBack := resolve_write _ _ escaped
  rw [written] at readBack
  exact ⟨escaped, written, readBack⟩

end BnfParsing.Escape
