import BnfParsing.Proofs.Symbol.Bytes

/-!
Contract: literals that are compared without attention to case, and the texts that
differ from them in case only.

Lower casing may change the number of bytes of a text, but it never loses a
character, so of all fronts of a text at most one is a given variant.

Owns: the number of characters in lower case, and when a variant of a literal
matches it.

Does not own: which texts are variants of each other.
-/

set_option autoImplicit false

namespace BnfParsing

namespace Unicode

theorem lowercaseChar_ne_nil (character : Char) : lowercaseChar character ≠ [] := by
  unfold lowercaseChar
  split
  · simp
  · split <;> simp

theorem length_lowercaseChar_sigma {character : Char} (sigma : character.toNat = 0x3A3) :
    (lowercaseChar character).length = 1 := by
  have image : CaseRun.lookup? 0x3A3 lowercaseRuns = some 0x3C3 := by decide +kernel
  rw [lowercaseChar, sigma, image]
  rfl

/-- A final sigma is one character like any other sigma, so what stands around a text
makes no difference to the number of its characters in lower case. -/
theorem length_lowercaseFrom (before text : Text) :
    (lowercaseFrom before text).length = (text.flatMap lowercaseChar).length := by
  induction text generalizing before with
  | nil => rfl
  | cons character rest inductionHypothesis =>
      rw [lowercaseFrom, List.flatMap_cons, List.length_append]
      split
      case isTrue sigma =>
        rw [List.length_cons, inductionHypothesis, length_lowercaseChar_sigma sigma, Nat.add_comm]
      case isFalse => rw [List.length_append, inductionHypothesis]

/-- A text with more behind it has more characters in lower case. -/
theorem eq_nil_of_lowercase_append {front back : Text}
    (same : lowercase (front ++ back) = lowercase front) : back = [] := by
  have lengths := congrArg List.length same
  rw [lowercase, lowercase, length_lowercaseFrom, length_lowercaseFrom, List.flatMap_append,
    List.length_append, Nat.add_eq_left, List.length_eq_zero_iff,
    List.flatMap_eq_nil_iff] at lengths
  cases back with
  | nil => rfl
  | cons character rest =>
      exact absurd (lengths character List.mem_cons_self) (lowercaseChar_ne_nil character)

/-- Of the fronts of a text at most one is in lower case what another one is. -/
theorem eq_of_lowercase_eq {front other text : Text} (isPrefix : front <+: text)
    (otherPrefix : other <+: text) (same : lowercase front = lowercase other) :
    front = other := by
  rcases List.prefix_or_prefix_of_prefix isPrefix otherPrefix with ⟨back, rfl⟩ | ⟨back, rfl⟩
  · rw [eq_nil_of_lowercase_append same.symm, List.append_nil]
  · rw [eq_nil_of_lowercase_append same, List.append_nil]

end Unicode

namespace Symbol

/-- A text that differs from a literal in case only matches it at the front of every
text, as long as both have the same number of bytes. Otherwise nothing matches
there, because as much of the text is compared as the literal has bytes. -/
theorem caseVariant_matches_exact {literal variant : Text}
    (isVariant : Unicode.lowercase variant = Unicode.lowercase literal) (rest : Text) :
    ((terminal literal false).matchPrefix (variant ++ rest)).inBytes (variant ++ rest) =
      if Text.byteLength variant = Text.byteLength literal then
        .matched (Text.byteLength variant)
      else if Text.byteLength (variant ++ rest) < Text.byteLength literal then .insufficientInput
      else .noMatch := by
  split
  case isTrue sameBytes =>
    have isMatch : matchLiteral literal false (variant ++ rest) = .matched variant.length :=
      matchLiteral_eq_matched_iff.mpr
        ⟨variant, List.prefix_append variant rest, sameBytes, isVariant, rfl⟩
    rw [matchPrefix, isMatch, PrefixMatch.inBytes, List.take_left]
  case isFalse otherBytes =>
    have noMatch (length : Nat) :
        matchLiteral literal false (variant ++ rest) ≠ .matched length := by
      intro isMatch
      obtain ⟨front, isPrefix, bytes, same, -⟩ := matchLiteral_eq_matched_iff.mp isMatch
      -- what is compared would be the variant itself, which has other bytes
      have compared : front = variant :=
        Unicode.eq_of_lowercase_eq isPrefix (List.prefix_append variant rest)
          (same.trans isVariant.symm)
      exact otherBytes (compared ▸ bytes)
    have short_iff : matchLiteral literal false (variant ++ rest) = .insufficientInput ↔
        Text.byteLength (variant ++ rest) < Text.byteLength literal :=
      matchLiteral_eq_insufficientInput_iff
    rw [matchPrefix]
    cases result : matchLiteral literal false (variant ++ rest) with
    | matched length => exact absurd result (noMatch length)
    | noMatch =>
        have long : ¬ Text.byteLength (variant ++ rest) < Text.byteLength literal := by
          simp [← short_iff, result]
        rw [if_neg long]
        rfl
    | insufficientInput =>
        rw [if_pos (short_iff.mp result)]
        rfl

/-- The final sigma of the word takes as many bytes as the letter it stands for. -/
theorem wordWithSigma_matches :
    Unicode.lowercase "Οδός".toList = Unicode.lowercase "ΟΔΌΣ".toList ∧
      ((terminal "ΟΔΌΣ".toList false).matchPrefix ("Οδός".toList ++ " 1".toList)).inBytes
        ("Οδός".toList ++ " 1".toList) = .matched 8 := by
  have isVariant : Unicode.lowercase "Οδός".toList = Unicode.lowercase "ΟΔΌΣ".toList := by
    decide +kernel
  refine ⟨isVariant, (caseVariant_matches_exact isVariant " 1".toList).trans ?_⟩
  decide +kernel

/-- The Kelvin sign is the letter `k` in lower case, but it takes three bytes where
the letter takes one. -/
theorem kelvinSign_not_matched :
    ¬ ∀ literal variant rest : Text, Unicode.lowercase variant = Unicode.lowercase literal →
      (rest = [] ∨ rest.head? = some ' ') →
      ((terminal literal false).matchPrefix (variant ++ rest)).inBytes (variant ++ rest) =
        .matched (Text.byteLength variant) := by
  intro everyVariant
  have isVariant : Unicode.lowercase ['\u212A'] = Unicode.lowercase ['k'] := by decide +kernel
  have isMatch := everyVariant ['k'] ['\u212A'] [] isVariant (.inl rfl)
  have notMatched : (terminal ['k'] false).matchPrefix (['\u212A'] ++ []) = .noMatch := by
    decide +kernel
  rw [notMatched] at isMatch
  contradiction

end Symbol

end BnfParsing
