import BnfParsing.Proofs.Regex.Preference
import BnfParsing.Proofs.Symbol.Numerals

/-!
Contract: the pattern of numerals, and that it prefers the longest one.

The pattern prefers more digits, a point and an exponent wherever they can be had.
None of these choices is ever taken back: what follows digits is optional, so it
cannot fail, and a point or the letter of an exponent is given up only together with
all that it leads to.

Owns:
- the pattern and its program;
- the preferred way through each of its parts, and the parts that fail;
- the agreement of the pattern with the scanner.

Does not own: how a search finds the preferred way.
-/

set_option autoImplicit false

namespace BnfParsing

namespace Numeral

open Regex Regex.Search

/-! ## The pattern -/

/-- The decimal digits. -/
def digitSet : CodePointSet := ⟨[48, 58]⟩

/-- The two signs. -/
def signSet : CodePointSet := ⟨[43, 44, 45, 46]⟩

/-- The decimal point alone. -/
def pointSet : CodePointSet := ⟨[46, 47]⟩

/-- The letter of an exponent in either case. -/
def letterSet : CodePointSet := ⟨[69, 70, 101, 102]⟩

/-- The program of the pattern, from its end to its start. -/
def program : Program := #[
  .accept,
  -- from 1: digits of an exponent, its sign, its letter, and at 6 whether there is one
  .fork 2 0, .oneOf digitSet 1, .oneOf signSet 2, .fork 3 2, .oneOf letterSet 4, .fork 5 0,
  -- from 7: digits behind the point of a mantissa without whole digits, and this point
  .fork 8 6, .oneOf digitSet 7, .oneOf pointSet 8,
  -- from 10: digits behind another point, this point, and at 14 whether there is one
  .fork 11 6, .oneOf digitSet 10, .fork 11 6, .oneOf pointSet 12, .fork 13 6,
  -- from 15: whole digits, and at 17 the start of the mantissa
  .fork 16 14, .oneOf digitSet 15, .fork 16 9,
  -- from 18: a sign, and whether there is one
  .oneOf signSet 17, .fork 18 17, .assertion .textStart 19]

/-- The pattern of numerals. -/
def regex : Regex where
  pattern := "^[+-]?(?:[0-9]+(?:\\.[0-9]*)?|\\.[0-9]+)(?:[eE][+-]?[0-9]+)?".toList
  expression :=
    .sequence
      (.sequence
        (.sequence (.assertion .textStart) (.repetition (.oneOf signSet) 0 (some 1) true))
        (.choice
          (.sequence (.repetition (.oneOf digitSet) 1 none true)
            (.repetition (.sequence (.oneOf pointSet) (.repetition (.oneOf digitSet) 0 none true))
              0 (some 1) true))
          (.sequence (.oneOf pointSet) (.repetition (.oneOf digitSet) 1 none true))))
      (.repetition
        (.sequence
          (.sequence (.oneOf letterSet) (.repetition (.oneOf signSet) 0 (some 1) true))
          (.repetition (.oneOf digitSet) 1 none true))
        0 (some 1) true)
  entry := ⟨20, program⟩
  expression_eq := by decide +kernel
  entry_eq := rfl

/-! ## Sets -/

section Sets

variable {character : Char}

theorem containsChar_digitSet :
    digitSet.containsChar character = true ↔ character.isDigit = true := by
  have membership : digitSet.containsChar character =
      if character.toNat < 48 then false else if character.toNat < 58 then true else false := rfl
  have digit : character.isDigit =
      (decide (48 ≤ character.toNat) && decide (character.toNat ≤ 57)) := rfl
  rw [membership, digit]
  grind

theorem containsChar_signSet :
    signSet.containsChar character = true ↔ character = '+' ∨ character = '-' := by
  have membership : signSet.containsChar character =
      if character.toNat < 43 then false else if character.toNat < 44 then true else
        if character.toNat < 45 then false else if character.toNat < 46 then true else false := rfl
  have plus : '+'.toNat = 43 := rfl
  have minus : '-'.toNat = 45 := rfl
  rw [membership, ← Char.toNat_inj, ← Char.toNat_inj, plus, minus]
  grind

theorem containsChar_pointSet : pointSet.containsChar character = true ↔ character = '.' := by
  have membership : pointSet.containsChar character =
      if character.toNat < 46 then false else if character.toNat < 47 then true else false := rfl
  have point : '.'.toNat = 46 := rfl
  rw [membership, ← Char.toNat_inj, point]
  grind

theorem containsChar_letterSet :
    letterSet.containsChar character = true ↔ character = 'e' ∨ character = 'E' := by
  have membership : letterSet.containsChar character =
      if character.toNat < 69 then false else if character.toNat < 70 then true else
        if character.toNat < 101 then false else if character.toNat < 102 then true else false :=
    rfl
  have lower : 'e'.toNat = 101 := rfl
  have upper : 'E'.toNat = 69 := rfl
  rw [membership, ← Char.toNat_inj, ← Char.toNat_inj, lower, upper]
  grind

end Sets

/-! ## Parts of a program -/

section Parts

variable {program : Program} {text rest : Text}
variable {address inside loop exit position stop : Nat}

theorem getElem?_toArray_eq_head? (text : Text) (position : Nat) :
    text.toArray[position]? = (text.drop position).head? := by
  rw [List.getElem?_toArray, List.head?_drop]

section Ahead

variable {character : Char} (ahead : text.drop position = character :: rest)

include ahead

theorem getElem?_of_drop : text.toArray[position]? = some character := by
  rw [getElem?_toArray_eq_head?, ahead]
  rfl

theorem drop_succ_of_drop : text.drop (position + 1) = rest := by
  rw [← List.drop_drop, ahead]
  rfl

end Ahead

theorem fails_digit (digit : program[inside]? = some (.oneOf digitSet address))
    (noDigit : NoDigit (text.drop position)) : Fails program text.toArray ⟨inside, position⟩ := by
  refine .of_oneOf digit ?_
  intro character read inSet
  rw [getElem?_toArray_eq_head?] at read
  rw [containsChar_digitSet, noDigit character read] at inSet
  contradiction

/-- Optional digits are all taken if what follows can be had behind them. -/
theorem prefers_digits (first : program[address]? = some (.fork inside exit))
    (again : program[loop]? = some (.fork inside exit))
    (digit : program[inside]? = some (.oneOf digitSet loop))
    (further : Prefers program text.toArray
      ⟨exit, position + (digits (text.drop position)).1.length⟩ stop) :
    Prefers program text.toArray ⟨address, position⟩ stop := by
  generalize ahead : text.drop position = rest at further
  induction rest generalizing address position with
  | nil => exact .of_fork_other first (fails_digit digit (by rw [ahead]; rintro _ ⟨⟩)) further
  | cons character rest inductionHypothesis =>
      by_cases isDigit : character.isDigit = true
      · have counted : (digits (character :: rest)).1.length = 1 + (digits rest).1.length := by
          simp [digits, isDigit, Nat.add_comm]
        rw [counted, ← Nat.add_assoc] at further
        exact .of_fork first (.of_oneOf digit (getElem?_of_drop ahead)
          (containsChar_digitSet.mpr isDigit)
          (inductionHypothesis again (drop_succ_of_drop ahead) further))
      · have noDigit : NoDigit (character :: rest) := by
          rintro _ ⟨⟩
          simpa using isDigit
        rw [digits_of_noDigit noDigit] at further
        exact .of_fork_other first (fails_digit digit (ahead ▸ noDigit)) further

/-- Digits of which there has to be one are all taken as well. -/
theorem prefers_someDigits (again : program[loop]? = some (.fork inside exit))
    (digit : program[inside]? = some (.oneOf digitSet loop))
    (nonempty : (digits (text.drop position)).1 ≠ [])
    (further : Prefers program text.toArray
      ⟨exit, position + (digits (text.drop position)).1.length⟩ stop) :
    Prefers program text.toArray ⟨inside, position⟩ stop := by
  obtain ⟨character, rest, ahead, isDigit, counted⟩ := exists_cons_of_digits_ne_nil nonempty
  rw [counted, ← Nat.add_assoc, ← drop_succ_of_drop ahead] at further
  exact .of_oneOf digit (getElem?_of_drop ahead) (containsChar_digitSet.mpr isDigit)
    (prefers_digits again again digit further)

/-- An optional sign is taken if there is one. -/
theorem prefers_sign (fork : program[address]? = some (.fork inside exit))
    (sign : program[inside]? = some (.oneOf signSet exit))
    (further : Prefers program text.toArray
      ⟨exit, position + signLength (text.drop position)⟩ stop) :
    Prefers program text.toArray ⟨address, position⟩ stop := by
  rcases signLength_cases (text.drop position) with
    ⟨character, isHead, isSign, one⟩ | ⟨noSign, zero⟩
  · rw [one] at further
    rw [← getElem?_toArray_eq_head?] at isHead
    exact .of_fork fork (.of_oneOf sign isHead (containsChar_signSet.mpr isSign) further)
  · rw [zero] at further
    refine .of_fork_other fork (.of_oneOf sign ?_) further
    intro character read inSet
    rw [getElem?_toArray_eq_head?] at read
    exact absurd (containsChar_signSet.mp inSet) (noSign character read)

/-- An optional sign fails if what follows can be had neither behind it nor in its
place. -/
theorem fails_sign (fork : program[address]? = some (.fork inside exit))
    (sign : program[inside]? = some (.oneOf signSet exit))
    (behind : Fails program text.toArray ⟨exit, position + signLength (text.drop position)⟩)
    (without : Fails program text.toArray ⟨exit, position⟩) :
    Fails program text.toArray ⟨address, position⟩ := by
  refine .of_fork fork (.of_oneOf sign ?_) without
  intro character read inSet
  rw [getElem?_toArray_eq_head?] at read
  rcases signLength_cases (text.drop position) with ⟨-, -, -, one⟩ | ⟨noSign, -⟩
  · rwa [one] at behind
  · exact absurd (containsChar_signSet.mp inSet) (noSign character read)

end Parts

/-! ## The way through the pattern -/

variable {text : Text} {position length stop : Nat}

/-- From 6 an exponent is taken if there is one, and the pattern ends. -/
theorem prefers_exponent (text : Text) (position : Nat) :
    Prefers program text.toArray ⟨6, position⟩
      (position + exponentLength (text.drop position)) := by
  have choice : program[6]? = some (.fork 5 0) := rfl
  have letterHere : program[5]? = some (.oneOf letterSet 4) := rfl
  have signChoice : program[4]? = some (.fork 3 2) := rfl
  have signHere : program[3]? = some (.oneOf signSet 2) := rfl
  have digitHere : program[2]? = some (.oneOf digitSet 1) := rfl
  have again : program[1]? = some (.fork 2 0) := rfl
  have accept (position : Nat) : Prefers program text.toArray ⟨0, position⟩ position :=
    ⟨0, .accept rfl⟩
  rcases exponentLength_cases (text.drop position) with
    ⟨letter, rest, ahead, isLetter, nonempty, taken⟩ | ⟨noDigit, taken⟩
  · rw [taken]
    refine .of_fork choice (.of_oneOf letterHere (getElem?_of_drop ahead)
      (containsChar_letterSet.mpr isLetter) ?_)
    rw [← drop_succ_of_drop ahead] at nonempty ⊢
    rw [List.drop_drop] at nonempty ⊢
    refine prefers_sign signChoice signHere (prefers_someDigits again digitHere nonempty ?_)
    rw [← Nat.add_assoc, ← Nat.add_assoc]
    exact accept _
  · rw [taken, Nat.add_zero]
    refine .of_fork_other choice (.of_oneOf letterHere ?_) (accept position)
    intro letter read inSet
    rw [getElem?_toArray_eq_head?] at read
    obtain ⟨rest, ahead⟩ := List.head?_eq_some_iff.mp read
    have noneBehind := noDigit letter rest ahead (containsChar_letterSet.mp inSet)
    have noneWithout := noDigit_of_noDigit_drop noneBehind
    rw [← drop_succ_of_drop ahead] at noneBehind noneWithout
    rw [List.drop_drop] at noneBehind
    exact fails_sign signChoice signHere (fails_digit digitHere noneBehind)
      (fails_digit digitHere noneWithout)

/-- From 14 a point is taken if there is one, with the digits behind it. -/
theorem prefers_fraction
    (further : Prefers program text.toArray
      ⟨6, position + fractionLength (text.drop position)⟩ stop) :
    Prefers program text.toArray ⟨14, position⟩ stop := by
  have choice : program[14]? = some (.fork 13 6) := rfl
  have pointHere : program[13]? = some (.oneOf pointSet 12) := rfl
  have first : program[12]? = some (.fork 11 6) := rfl
  have digitHere : program[11]? = some (.oneOf digitSet 10) := rfl
  have again : program[10]? = some (.fork 11 6) := rfl
  by_cases isPoint : (text.drop position).head? = some '.'
  · obtain ⟨rest, ahead⟩ := List.head?_eq_some_iff.mp isPoint
    rw [ahead, fractionLength, ← Nat.add_assoc, ← drop_succ_of_drop ahead] at further
    exact .of_fork choice (.of_oneOf pointHere (getElem?_of_drop ahead)
      (containsChar_pointSet.mpr rfl) (prefers_digits first again digitHere further))
  · rw [fractionLength_of_head?_ne isPoint] at further
    refine .of_fork_other choice (.of_oneOf pointHere ?_) further
    intro character read inSet
    rw [getElem?_toArray_eq_head?, containsChar_pointSet.mp inSet] at read
    exact absurd read isPoint

/-- From 17 the mantissa that the scanner reads is taken. -/
theorem prefers_mantissa (read : mantissaLength? (text.drop position) = some length)
    (further : Prefers program text.toArray ⟨6, position + length⟩ stop) :
    Prefers program text.toArray ⟨17, position⟩ stop := by
  have choice : program[17]? = some (.fork 16 9) := rfl
  have wholeHere : program[16]? = some (.oneOf digitSet 15) := rfl
  have wholeAgain : program[15]? = some (.fork 16 14) := rfl
  have pointHere : program[9]? = some (.oneOf pointSet 8) := rfl
  have digitHere : program[8]? = some (.oneOf digitSet 7) := rfl
  have again : program[7]? = some (.fork 8 6) := rfl
  rcases mantissa_cases (text.drop position) with
    ⟨whole, rest, ahead, areDigits, nonempty, ends⟩ | ⟨rest, ahead⟩ | ends
  · rw [ahead, mantissaLength?_whole areDigits nonempty ends, Option.some.injEq] at read
    have taken : (digits (text.drop position)).1 = whole := by
      rw [ahead, digits_append_of_noDigit areDigits ends]
    have behind : text.drop (position + whole.length) = rest := by
      rw [← List.drop_drop, ahead, List.drop_left]
    refine .of_fork choice (prefers_someDigits wholeAgain wholeHere (by rwa [taken]) ?_)
    rw [taken]
    refine prefers_fraction ?_
    rwa [behind, Nat.add_assoc, read]
  · rw [ahead, mantissaLength?_point, Option.ite_none_left_eq_some, Option.some.injEq] at read
    obtain ⟨nonempty, rfl⟩ := read
    rw [← Nat.add_assoc, ← drop_succ_of_drop ahead] at further
    rw [← drop_succ_of_drop ahead] at nonempty
    exact .of_fork_other choice (fails_digit wholeHere (ahead ▸ noDigit_point rest))
      (.of_oneOf pointHere (getElem?_of_drop ahead) (containsChar_pointSet.mpr rfl)
        (prefers_someDigits again digitHere nonempty further))
  · rw [mantissaLength?_of_endsMantissa ends] at read
    contradiction

theorem fails_mantissa (nothing : mantissaLength? (text.drop position) = none) :
    Fails program text.toArray ⟨17, position⟩ := by
  have choice : program[17]? = some (.fork 16 9) := rfl
  have wholeHere : program[16]? = some (.oneOf digitSet 15) := rfl
  have pointHere : program[9]? = some (.oneOf pointSet 8) := rfl
  have digitHere : program[8]? = some (.oneOf digitSet 7) := rfl
  rcases mantissa_cases (text.drop position) with
    ⟨whole, rest, ahead, areDigits, nonempty, ends⟩ | ⟨rest, ahead⟩ | ends
  · rw [ahead, mantissaLength?_whole areDigits nonempty ends] at nothing
    contradiction
  · rw [ahead, mantissaLength?_point, ite_eq_left_iff] at nothing
    have noDigits : (digits rest).1 = [] := by simpa using nothing
    refine .of_fork choice (fails_digit wholeHere (ahead ▸ noDigit_point rest))
      (.of_oneOf pointHere ?_)
    intro _ _ _
    refine fails_digit digitHere ?_
    rw [drop_succ_of_drop ahead]
    exact noDigit_of_digits_eq_nil noDigits
  · refine .of_fork choice (fails_digit wholeHere ends.1) (.of_oneOf pointHere ?_)
    intro character read inSet
    rw [getElem?_toArray_eq_head?, containsChar_pointSet.mp inSet] at read
    exact absurd read ends.2

theorem prefers_numeral (read : length? text = some length) :
    Prefers program text.toArray ⟨20, 0⟩ length := by
  have start : program[20]? = some (.assertion .textStart 19) := rfl
  have signChoice : program[19]? = some (.fork 18 17) := rfl
  have signHere : program[18]? = some (.oneOf signSet 17) := rfl
  obtain ⟨mantissa, mantissaRead, rfl⟩ := length?_eq_some_iff.mp read
  refine .of_assertion start rfl (prefers_sign signChoice signHere ?_)
  rw [List.drop_zero, Nat.zero_add]
  exact prefers_mantissa mantissaRead (prefers_exponent text _)

theorem fails_numeral (nothing : length? text = none) (start : Nat)
    (inside : start ≤ text.length) : Fails program text.toArray ⟨20, start⟩ := by
  have atStart : program[20]? = some (.assertion .textStart 19) := rfl
  have signChoice : program[19]? = some (.fork 18 17) := rfl
  have signHere : program[18]? = some (.oneOf signSet 17) := rfl
  refine .of_assertion atStart ?_
  intro holds
  cases start with
  | succ earlier =>
      -- further on there is a character in front
      have before : before? text.toArray (earlier + 1) = some text[earlier] := by
        rw [before?, if_neg (Nat.succ_ne_zero earlier), Nat.add_sub_cancel, List.getElem?_toArray]
        exact List.getElem?_eq_getElem inside
      rw [before] at holds
      contradiction
  | zero =>
      have noMantissa := length?_eq_none_iff_mantissaLength?.mp nothing
      refine fails_sign signChoice signHere ?_ (fails_mantissa ?_)
      · rw [List.drop_zero, Nat.zero_add]
        exact fails_mantissa noMantissa
      · rw [List.drop_zero]
        by_cases signed : signLength text = 0
        · rwa [signed, List.drop_zero] at noMantissa
        · exact mantissaLength?_of_endsMantissa (endsMantissa_of_signLength_ne_zero signed)

/-- The search for the pattern finds what the scanner takes. -/
theorem matchPrefix_regex (name text : Text) :
    (Symbol.pattern regex).matchPrefix text = (Symbol.number name).matchPrefix text := by
  rw [Symbol.matchPrefix, Symbol.matchPrefix]
  cases read : length? text with
  | none => rw [find?_eq_none_of_fails (fails_numeral read)]
  | some length =>
      have noEarlier : ∀ other < 0,
          Fails regex.entry.program text.toArray ⟨regex.entry.address, other⟩ := by simp
      obtain ⟨found, isFound, -, stops⟩ :=
        find?_of_prefers (Nat.zero_le _) noEarlier (prefers_numeral read)
      rw [isFound]
      simp only [stops]

end Numeral

/-- The symbol for numerals takes the longest numeral at the front of a text, in
characters as well as in bytes, and nothing matches it exactly if no front of the text
is a numeral. The search for the pattern, which only has an order of preference,
comes to the same. -/
theorem Symbol.number_takes_longest (name text : Text) :
    (∀ length, (number name).matchPrefix text = .matched length ↔
        ∃ front, Numeral.IsLongest text front ∧ front.length = length) ∧
      ((number name).matchPrefix text = .noMatch ↔
        ∀ front, front <+: text → ¬ Numeral.IsNumeral front) ∧
      (number name).matchBytes text = (number name).matchPrefix text ∧
      (pattern Numeral.regex).matchPrefix text = (number name).matchPrefix text := by
  refine ⟨fun length => ?_, ?_, ?_, Numeral.matchPrefix_regex name text⟩
  · rw [← Numeral.length?_eq_some_iff_longest, matchPrefix]
    cases Numeral.length? text <;> simp
  · rw [← Numeral.length?_eq_none_iff, matchPrefix]
    cases Numeral.length? text <;> simp
  · rw [matchBytes, matchPrefix]
    cases read : Numeral.length? text with
    | none => rfl
    | some length =>
        have isLongest := Numeral.isLongest_take read
        simp only [isLongest.isNumeral.byteLength_eq,
          List.length_take_of_le (Numeral.length?_le read)]

/-- A point needs no digits behind it, but an exponent does. -/
example : (Symbol.number []).matchPrefix "-1.e+x".toList = .matched 3 := by decide

end BnfParsing
