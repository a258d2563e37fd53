import BnfParsing.Proofs.Regex.Position
import BnfParsing.Proofs.Text.Offsets
import BnfParsing.Symbol

/-!
Contract: what a symbol consumes is a non-empty part of the text it is compared
with.

Owns: the bounds on numeric literals and on prefix matches, for every kind of
symbol.

Does not own: which texts a symbol matches.
-/

set_option autoImplicit false

namespace BnfParsing

namespace Numeral

theorem length_digits (text : Text) :
    (digits text).1.length + (digits text).2.length = text.length := by
  simp only [digits]
  rw [← List.length_append, List.takeWhile_append_dropWhile]

theorem signLength_le (text : Text) : signLength text ≤ text.length := by
  unfold signLength
  split <;> simp

theorem exponentLength_le (text : Text) : exponentLength text ≤ text.length := by
  cases text with
  | nil => simp [exponentLength]
  | cons letter rest =>
      simp only [exponentLength]
      split
      · split
        case h_1 => exact Nat.zero_le _
        case h_2 count digitCount =>
          have counted := length_digits (rest.drop (signLength rest))
          have signBound := signLength_le rest
          rw [digitCount, List.length_drop] at counted
          simp only [List.length_cons]
          omega
      · exact Nat.zero_le _

theorem mantissaLength?_le {text : Text} {length : Nat}
    (read : mantissaLength? text = some length) : length ≤ text.length := by
  have counted := length_digits text
  simp only [mantissaLength?] at read
  split at read
  case h_1 rest whole point =>
    -- no digit stands before the point
    have fraction := length_digits rest
    rw [whole, point, List.length_nil, List.length_cons] at counted
    split at read
    case h_1 => simp at read
    case h_2 count digitCount =>
      simp only [Option.some.injEq] at read
      omega
  case h_2 => simp at read
  case h_3 rest point _ =>
    have fraction := length_digits rest
    rw [point, List.length_cons] at counted
    simp only [Option.some.injEq] at read
    omega
  case h_4 =>
    simp only [Option.some.injEq] at read
    omega

/-- A numeric literal lies within the text. -/
theorem length?_le {text : Text} {length : Nat} (read : length? text = some length) :
    length ≤ text.length := by
  unfold length? at read
  simp only [Option.pure_def, Option.bind_eq_bind, Option.bind_eq_some_iff,
    Option.some.injEq] at read
  obtain ⟨mantissa, mantissaRead, rfl⟩ := read
  have signBound := signLength_le text
  have mantissaBound := mantissaLength?_le mantissaRead
  have exponentBound := exponentLength_le (text.drop (signLength text + mantissa))
  rw [List.length_drop] at mantissaBound exponentBound
  omega

end Numeral

namespace Symbol

/-- A literal matches the front that has as many bytes as it has itself. -/
theorem matchLiteral_eq_matched_iff {literal text : Text} {caseSensitive : Bool}
    {length : Nat} :
    matchLiteral literal caseSensitive text = .matched length ↔
      ∃ front, front <+: text ∧ Text.byteLength front = Text.byteLength literal ∧
        (if caseSensitive then front = literal
          else Unicode.lowercase front = Unicode.lowercase literal) ∧
        front.length = length := by
  constructor
  · intro isMatch
    unfold matchLiteral at isMatch
    split at isMatch
    case isTrue => simp at isMatch
    case isFalse =>
      split at isMatch
      case h_1 front cut =>
        obtain ⟨isPrefix, bytes⟩ := Text.cutBytes_eq_after_iff.mp cut
        refine ⟨front, isPrefix, bytes, ?_⟩
        cases caseSensitive <;> grind
      case h_2 => simp at isMatch
  · rintro ⟨front, isPrefix, bytes, same, rfl⟩
    have cut := Text.cutBytes_eq_after_iff.mpr ⟨isPrefix, bytes⟩
    have long : Text.byteLength literal ≤ Text.byteLength text := by
      obtain ⟨back, rfl⟩ := isPrefix
      rw [Text.byteLength_append]
      omega
    unfold matchLiteral
    rw [if_neg (by omega), cut]
    cases caseSensitive <;> simpa using same

theorem matchLiteral_eq_insufficientInput_iff {literal text : Text} {caseSensitive : Bool} :
    matchLiteral literal caseSensitive text = .insufficientInput ↔
      Text.byteLength text < Text.byteLength literal := by
  unfold matchLiteral
  split
  case isTrue short => simp [short]
  case isFalse long => grind

theorem matchLiteral_le {literal text : Text} {caseSensitive : Bool} {length : Nat}
    (isMatch : matchLiteral literal caseSensitive text = .matched length) :
    length ≤ text.length := by
  obtain ⟨front, isPrefix, -, -, rfl⟩ := matchLiteral_eq_matched_iff.mp isMatch
  exact isPrefix.length_le

/-- A prefix match lies within the text. -/
theorem matchPrefix_le {symbol : Symbol} {text : Text} {length : Nat}
    (isPrefix : symbol.matchPrefix text = .matched length) : length ≤ text.length := by
  cases symbol with
  | terminal literal caseSensitive => exact matchLiteral_le isPrefix
  | epsilon =>
      simp only [matchPrefix, PrefixMatch.matched.injEq] at isPrefix
      omega
  | nonTerminal name => simp [matchPrefix] at isPrefix
  | pattern regex =>
      simp only [matchPrefix] at isPrefix
      split at isPrefix
      case h_1 found isMatch =>
        simp only [PrefixMatch.matched.injEq] at isPrefix
        rw [← isPrefix]
        exact Regex.stop_le_length isMatch
      case h_2 => simp at isPrefix
  | number name =>
      simp only [matchPrefix] at isPrefix
      split at isPrefix
      case h_1 found read =>
        simp only [PrefixMatch.matched.injEq] at isPrefix
        rw [← isPrefix]
        exact Numeral.length?_le read
      case h_2 => simp at isPrefix
  | word name =>
      simp only [matchPrefix, PrefixMatch.matched.injEq] at isPrefix
      rw [← isPrefix]
      exact (List.takeWhile_prefix _).length_le

end Symbol

theorem PrefixMatch.consumed_eq_some {result : PrefixMatch} {length : Nat} :
    result.consumed = some length ↔ result = .matched length ∧ 0 < length := by
  cases result with
  | noMatch => simp [consumed]
  | insufficientInput => simp [consumed]
  | matched found =>
      simp only [consumed, Option.ite_none_right_eq_some, Option.some.injEq, matched.injEq]
      constructor
      · rintro ⟨positive, rfl⟩
        exact ⟨rfl, positive⟩
      · rintro ⟨rfl, positive⟩
        exact ⟨positive, rfl⟩

namespace Symbol

/-- A symbol that consumes anything takes at least one character and at most
all of them. -/
theorem consumed_bounds {symbol : Symbol} {text : Text} {length : Nat}
    (consumes : (symbol.matchPrefix text).consumed = some length) :
    0 < length ∧ length ≤ text.length := by
  obtain ⟨isPrefix, positive⟩ := PrefixMatch.consumed_eq_some.mp consumes
  exact ⟨positive, matchPrefix_le isPrefix⟩

/-- No symbol consumes anything of the empty text. -/
theorem consumed_nil (symbol : Symbol) : (symbol.matchPrefix []).consumed = none := by
  cases consumes : (symbol.matchPrefix []).consumed with
  | none => rfl
  | some length =>
      obtain ⟨positive, bound⟩ := consumed_bounds consumes
      simp only [List.length_nil] at bound
      omega

end Symbol

end BnfParsing
