import BnfParsing.Proofs.Symbol.Consumption

/-!
Contract: prefix matches counted in bytes.

A literal takes as many bytes as it has itself, also where the text writes it in
another case; this is known without a look at the characters that are compared.

Owns: the number of bytes a symbol takes of a text, and that a cut after so many
bytes falls on the end of a character.

Does not own: where a cut falls in a text that precedes the symbol.
-/

set_option autoImplicit false

namespace BnfParsing

/-- The bytes of the characters that belong to the symbol. -/
def PrefixMatch.inBytes (text : Text) : PrefixMatch → PrefixMatch
  | .matched length => .matched (Text.byteLength (text.take length))
  | result => result

namespace Symbol

/-- Compares a literal with the prefix of the same number of bytes, which belongs to
it if they are equal. -/
def matchLiteralBytes (literal : Text) (caseSensitive : Bool) (text : Text) : PrefixMatch :=
  match matchLiteral literal caseSensitive text with
  | .matched _ => .matched (Text.byteLength literal)
  | result => result

/-- Compares the symbol with the front of a text and counts bytes. -/
def matchBytes : Symbol → Text → PrefixMatch
  | .terminal literal caseSensitive, text => matchLiteralBytes literal caseSensitive text
  | .epsilon, _ => .matched 0
  | .nonTerminal _, _ => .noMatch
  | .pattern regex, text =>
      match regex.find? text with
      | some found => .matched (Text.byteLength (text.take found.stop))
      | none => .noMatch
  | .number _, text =>
      match Numeral.length? text with
      | some length => .matched (Text.byteLength (text.take length))
      | none => .noMatch
  | .word _, text => .matched (Text.byteLength (text.takeWhile (· ≠ ' ')))

theorem matchBytes_eq (symbol : Symbol) (text : Text) :
    symbol.matchBytes text = (symbol.matchPrefix text).inBytes text := by
  cases symbol with
  | terminal literal caseSensitive =>
      rw [matchBytes, matchPrefix, matchLiteralBytes]
      cases isMatch : matchLiteral literal caseSensitive text with
      | noMatch => rfl
      | insufficientInput => rfl
      | matched length =>
          obtain ⟨front, ⟨back, rfl⟩, bytes, -, rfl⟩ := matchLiteral_eq_matched_iff.mp isMatch
          simp only [PrefixMatch.inBytes, List.take_left, bytes]
  | epsilon => simp [matchBytes, matchPrefix, PrefixMatch.inBytes, Text.byteLength]
  | nonTerminal name => rfl
  | pattern regex =>
      rw [matchBytes, matchPrefix]
      cases regex.find? text <;> rfl
  | number name =>
      rw [matchBytes, matchPrefix]
      cases Numeral.length? text <;> rfl
  | word name =>
      have front : text.take (text.takeWhile (· ≠ ' ')).length = text.takeWhile (· ≠ ' ') :=
        (List.prefix_iff_eq_take.mp (List.takeWhile_prefix _)).symm
      simp only [matchBytes, matchPrefix, PrefixMatch.inBytes, front]

/-- Both ways to count agree on whether anything is consumed, and on its end. -/
theorem consumed_matchBytes {symbol : Symbol} {text : Text} {bytes : Nat} :
    (symbol.matchBytes text).consumed = some bytes ↔
      ∃ length, (symbol.matchPrefix text).consumed = some length ∧
        Text.byteLength (text.take length) = bytes := by
  rw [matchBytes_eq]
  constructor
  · intro consumes
    obtain ⟨isMatch, positive⟩ := PrefixMatch.consumed_eq_some.mp consumes
    cases isPrefix : symbol.matchPrefix text with
    | noMatch => simp [isPrefix, PrefixMatch.inBytes] at isMatch
    | insufficientInput => simp [isPrefix, PrefixMatch.inBytes] at isMatch
    | matched length =>
        rw [isPrefix, PrefixMatch.inBytes, PrefixMatch.matched.injEq] at isMatch
        refine ⟨length, PrefixMatch.consumed_eq_some.mpr ⟨rfl, ?_⟩, isMatch⟩
        rcases Nat.eq_zero_or_pos length with rfl | some
        · rw [List.take_zero, Text.byteLength] at isMatch
          omega
        · exact some
  · rintro ⟨length, consumes, rfl⟩
    obtain ⟨isPrefix, positive⟩ := PrefixMatch.consumed_eq_some.mp consumes
    have within := matchPrefix_le isPrefix
    rw [isPrefix, PrefixMatch.inBytes, PrefixMatch.consumed_eq_some]
    refine ⟨rfl, ?_⟩
    -- the first of the matched characters has a byte
    cases text with
    | nil =>
        rw [List.length_nil] at within
        omega
    | cons character rest =>
        obtain ⟨fewer, rfl⟩ := Nat.exists_eq_add_of_lt positive
        have bytes := character.utf8Size_pos
        rw [Nat.zero_add, List.take_succ_cons, Text.byteLength]
        omega

/-- What a symbol consumes is a non-empty part of the text that ends where a
character does. -/
theorem consumed_bytes_bounds {symbol : Symbol} {text : Text} {bytes : Nat}
    (consumes : (symbol.matchBytes text).consumed = some bytes) :
    0 < bytes ∧ bytes ≤ Text.byteLength text ∧ Text.IsBoundary text bytes := by
  refine ⟨(PrefixMatch.consumed_eq_some.mp consumes).2, ?_⟩
  obtain ⟨length, -, rfl⟩ := consumed_matchBytes.mp consumes
  refine ⟨?_, text.take length, List.take_prefix length text, rfl⟩
  have whole := Text.byteLength_append (text.take length) (text.drop length)
  rw [List.take_append_drop] at whole
  omega

end Symbol

end BnfParsing
