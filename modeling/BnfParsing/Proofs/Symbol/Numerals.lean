import BnfParsing.Proofs.Symbol.Bytes

/-!
Contract: numerals as a language, and the scanner as the choice of the longest one.

A scanner that never goes back is enough because each part settles where the next
one begins: a mantissa starts with no sign, and the letter of an exponent can
continue no mantissa.

Owns:
- the written forms of signs, mantissas, exponents and numerals;
- the equations of the scanner, one for each way a mantissa can begin;
- the longest numeral at the front of a text.

Does not own: the value of a numeral, or other ways to search for one.
-/

set_option autoImplicit false

namespace BnfParsing.Numeral

/-! ## Written forms -/

/-- Nothing but decimal digits. -/
def IsDigits (text : Text) : Prop :=
  ∀ digit ∈ text, digit.isDigit = true

/-- An optional sign. -/
inductive IsSign : Text → Prop where
  | absent : IsSign []
  | plus : IsSign ['+']
  | minus : IsSign ['-']

/-- Digits with an optional point among or behind them, or a point with digits
behind it. -/
inductive IsMantissa : Text → Prop where
  | whole {digits : Text} (areDigits : IsDigits digits) (nonempty : digits ≠ []) :
      IsMantissa digits
  | decimal {whole fraction : Text} (wholeDigits : IsDigits whole) (nonempty : whole ≠ [])
      (fractionDigits : IsDigits fraction) : IsMantissa (whole ++ '.' :: fraction)
  | fraction {fraction : Text} (fractionDigits : IsDigits fraction)
      (nonempty : fraction ≠ []) : IsMantissa ('.' :: fraction)

/-- An optional exponent: a letter, an optional sign and at least one digit. -/
inductive IsExponent : Text → Prop where
  | absent : IsExponent []
  | present {letter : Char} {sign digits : Text} (isLetter : letter = 'e' ∨ letter = 'E')
      (isSign : IsSign sign) (areDigits : IsDigits digits) (nonempty : digits ≠ []) :
      IsExponent (letter :: (sign ++ digits))

/-- A numeral: an optional sign, a mantissa and an optional exponent. -/
inductive IsNumeral : Text → Prop where
  | mk {sign mantissa exponent : Text} (isSign : IsSign sign)
      (isMantissa : IsMantissa mantissa) (isExponent : IsExponent exponent) :
      IsNumeral (sign ++ (mantissa ++ exponent))

/-- The longest numeral at the front of a text. -/
structure IsLongest (text front : Text) : Prop where
  isPrefix : front <+: text
  isNumeral : IsNumeral front
  longest : ∀ other, other <+: text → IsNumeral other → other.length ≤ front.length

variable {text rest front whole sign mantissa exponent : Text} {length : Nat}

/-! ## Digits -/

/-- The text goes on with no digit. -/
def NoDigit (text : Text) : Prop :=
  ∀ character ∈ text.head?, character.isDigit = false

theorem digits_append_eq (text : Text) : (digits text).1 ++ (digits text).2 = text :=
  List.takeWhile_append_dropWhile

theorem isDigits_digits (text : Text) : IsDigits (digits text).1 :=
  List.all_eq_true.mp List.all_takeWhile

theorem noDigit_digits (text : Text) : NoDigit (digits text).2 := by
  intro character isHead
  have dropped : (text.dropWhile Char.isDigit).head? = some character := isHead
  have stops := List.head?_dropWhile_not Char.isDigit text
  rw [dropped] at stops
  simpa using stops

theorem take_length_digits (text : Text) : text.take (digits text).1.length = (digits text).1 :=
  (List.prefix_iff_eq_take.mp (List.takeWhile_prefix Char.isDigit)).symm

theorem noDigit_of_digits_eq_nil (none : (digits text).1 = []) : NoDigit text := by
  have same := digits_append_eq text
  rw [none, List.nil_append] at same
  rw [← same]
  exact noDigit_digits text

theorem digits_append (areDigits : IsDigits front) (rest : Text) :
    digits (front ++ rest) = (front ++ (digits rest).1, (digits rest).2) := by
  rw [digits, List.takeWhile_append_of_pos areDigits, List.dropWhile_append_of_pos areDigits]
  rfl

theorem digits_of_noDigit (ends : NoDigit text) : digits text = ([], text) := by
  cases text with
  | nil => rfl
  | cons character rest =>
      have noDigit : character.isDigit = false := ends character rfl
      simp [digits, noDigit]

theorem exists_cons_of_digits_ne_nil (nonempty : (digits text).1 ≠ []) :
    ∃ character rest, text = character :: rest ∧ character.isDigit = true ∧
      (digits text).1.length = 1 + (digits rest).1.length := by
  cases text with
  | nil => exact absurd rfl nonempty
  | cons character rest =>
      cases isDigit : character.isDigit with
      | false => simp [digits, isDigit] at nonempty
      | true => exact ⟨character, rest, rfl, isDigit, by simp [digits, isDigit, Nat.add_comm]⟩

theorem digits_append_of_noDigit (areDigits : IsDigits front) (ends : NoDigit rest) :
    digits (front ++ rest) = (front, rest) := by
  rw [digits_append areDigits, digits_of_noDigit ends, List.append_nil]

theorem length_le_digits_append (areDigits : IsDigits front) (rest : Text) :
    front.length ≤ (digits (front ++ rest)).1.length := by
  rw [digits_append areDigits, List.length_append]
  exact Nat.le_add_right _ _

theorem noDigit_point (rest : Text) : NoDigit ('.' :: rest) := by
  rintro character ⟨⟩
  rfl

/-! ## Signs -/

theorem isSign_take (text : Text) : IsSign (text.take (signLength text)) := by
  unfold signLength
  split
  case h_1 => exact .plus
  case h_2 => exact .minus
  case h_3 => exact .absent

/-- There is a sign at the front or not. -/
theorem signLength_cases (text : Text) :
    (∃ character, text.head? = some character ∧ (character = '+' ∨ character = '-') ∧
        signLength text = 1) ∨
      ((∀ character ∈ text.head?, ¬ (character = '+' ∨ character = '-')) ∧
        signLength text = 0) := by
  unfold signLength
  split
  case h_1 => exact .inl ⟨_, rfl, .inl rfl, rfl⟩
  case h_2 => exact .inl ⟨_, rfl, .inr rfl, rfl⟩
  case h_3 noPlus noMinus =>
    refine .inr ⟨?_, rfl⟩
    intro character isHead isSign
    obtain ⟨rest, rfl⟩ := List.head?_eq_some_iff.mp isHead
    rcases isSign with rfl | rfl
    · exact noPlus rest rfl
    · exact noMinus rest rfl

/-- The sign is known to be complete where the text goes on with no sign. -/
theorem signLength_append (isSign : IsSign sign) (noSign : signLength rest = 0) :
    signLength (sign ++ rest) = sign.length := by
  cases isSign with
  | absent => exact noSign
  | plus => rfl
  | minus => rfl

/-- The text goes on with neither a digit nor a point. -/
def EndsMantissa (text : Text) : Prop :=
  NoDigit text ∧ text.head? ≠ some '.'

theorem endsMantissa_of_signLength_ne_zero (signed : signLength text ≠ 0) :
    EndsMantissa text := by
  rcases signLength_cases text with ⟨sign, isHead, isSign, -⟩ | ⟨-, zero⟩
  · constructor
    · rintro character read
      obtain rfl := Option.some.inj (isHead.symm.trans read)
      rcases isSign with rfl | rfl <;> rfl
    · rintro isPoint
      obtain rfl := Option.some.inj (isHead.symm.trans isPoint)
      simp at isSign
  · exact absurd zero signed

/-- No digits behind an optional sign are no digits in its place either. -/
theorem noDigit_of_noDigit_drop (noDigit : NoDigit (text.drop (signLength text))) :
    NoDigit text := by
  by_cases signed : signLength text = 0
  · rwa [signed, List.drop_zero] at noDigit
  · exact (endsMantissa_of_signLength_ne_zero signed).1

/-! ## Mantissas -/

/-- The length of a point and the digits behind it, or zero. -/
def fractionLength : Text → Nat
  | '.' :: rest => 1 + (digits rest).1.length
  | _ => 0

theorem fractionLength_of_head?_ne (noPoint : text.head? ≠ some '.') :
    fractionLength text = 0 := by
  unfold fractionLength
  split
  case h_1 => exact absurd rfl noPoint
  case h_2 => rfl

theorem mantissaLength?_whole (areDigits : IsDigits whole) (nonempty : whole ≠ [])
    (ends : NoDigit rest) :
    mantissaLength? (whole ++ rest) = some (whole.length + fractionLength rest) := by
  obtain ⟨first, others, rfl⟩ := List.exists_cons_of_ne_nil nonempty
  simp only [mantissaLength?, digits_append_of_noDigit areDigits ends]
  cases rest with
  | nil => rfl
  | cons character rest =>
      by_cases isPoint : character = '.'
      · subst isPoint
        simp only [fractionLength, Nat.add_assoc]
      · simp [isPoint, fractionLength]

theorem mantissaLength?_point (rest : Text) :
    mantissaLength? ('.' :: rest) =
      if (digits rest).1 = [] then none else some (1 + (digits rest).1.length) := by
  simp only [mantissaLength?, digits_of_noDigit (noDigit_point rest)]
  cases (digits rest).1 with
  | nil => rfl
  | cons first others => rfl

theorem mantissaLength?_of_endsMantissa (ends : EndsMantissa text) :
    mantissaLength? text = none := by
  simp only [mantissaLength?, digits_of_noDigit ends.1]
  cases text with
  | nil => rfl
  | cons character rest =>
      have different : character ≠ '.' := by simpa using ends.2
      simp [different]

/-- A mantissa begins with digits, with a point or not at all. -/
theorem mantissa_cases (text : Text) :
    (∃ whole rest, text = whole ++ rest ∧ IsDigits whole ∧ whole ≠ [] ∧ NoDigit rest) ∨
      (∃ rest, text = '.' :: rest) ∨ EndsMantissa text := by
  by_cases none : (digits text).1 = []
  · by_cases isPoint : text.head? = some '.'
    · exact .inr (.inl (List.head?_eq_some_iff.mp isPoint))
    · exact .inr (.inr ⟨noDigit_of_digits_eq_nil none, isPoint⟩)
  · exact .inl ⟨_, _, (digits_append_eq text).symm, isDigits_digits text, none,
      noDigit_digits text⟩

theorem isMantissa_take (read : mantissaLength? text = some length) :
    IsMantissa (text.take length) := by
  rcases mantissa_cases text with
    ⟨whole, rest, rfl, areDigits, nonempty, ends⟩ | ⟨rest, rfl⟩ | ends
  · rw [mantissaLength?_whole areDigits nonempty ends] at read
    obtain rfl := Option.some.inj read
    rw [List.take_length_add_append]
    unfold fractionLength
    split
    case h_1 fraction =>
      rw [Nat.add_comm, List.take_succ_cons, take_length_digits]
      exact .decimal areDigits nonempty (isDigits_digits fraction)
    case h_2 =>
      rw [List.take_zero, List.append_nil]
      exact .whole areDigits nonempty
  · rw [mantissaLength?_point, Option.ite_none_left_eq_some, Option.some.injEq] at read
    obtain ⟨nonempty, rfl⟩ := read
    rw [Nat.add_comm, List.take_succ_cons, take_length_digits]
    exact .fraction (isDigits_digits rest) nonempty
  · rw [mantissaLength?_of_endsMantissa ends] at read
    contradiction

/-- The scanner takes no less than a mantissa that is there, and exactly that much
where the text cannot continue it. -/
theorem exists_mantissaLength? (isMantissa : IsMantissa mantissa) (rest : Text) :
    ∃ length, mantissaLength? (mantissa ++ rest) = some length ∧ mantissa.length ≤ length ∧
      (EndsMantissa rest → length = mantissa.length) := by
  cases isMantissa with
  | whole areDigits nonempty =>
      have longer : IsDigits (mantissa ++ (digits rest).1) :=
        List.forall_mem_append.mpr ⟨areDigits, isDigits_digits rest⟩
      have read := mantissaLength?_whole longer (by simp [nonempty]) (noDigit_digits rest)
      rw [List.append_assoc, digits_append_eq, List.length_append] at read
      refine ⟨_, read, by omega, ?_⟩
      intro ends
      rw [digits_of_noDigit ends.1, fractionLength_of_head?_ne ends.2, List.length_nil]
      rfl
  | @decimal whole fraction wholeDigits nonempty fractionDigits =>
      have read := mantissaLength?_whole wholeDigits nonempty (noDigit_point (fraction ++ rest))
      rw [fractionLength, ← List.cons_append, ← List.append_assoc, digits_append fractionDigits]
        at read
      simp only [List.length_append, List.length_cons] at read ⊢
      refine ⟨_, read, by omega, ?_⟩
      intro ends
      rw [digits_of_noDigit ends.1, List.length_nil]
      omega
  | @fraction fraction fractionDigits nonempty =>
      have read := mantissaLength?_point (fraction ++ rest)
      rw [digits_append fractionDigits, if_neg (by simp [nonempty]), ← List.cons_append] at read
      simp only [List.length_append, List.length_cons] at read ⊢
      refine ⟨_, read, by omega, ?_⟩
      intro ends
      rw [digits_of_noDigit ends.1, List.length_nil]
      omega

/-- A mantissa begins with no sign. -/
theorem signLength_mantissa_append (isMantissa : IsMantissa mantissa) (rest : Text) :
    signLength (mantissa ++ rest) = 0 := by
  obtain ⟨length, read, -⟩ := exists_mantissaLength? isMantissa rest
  rcases Nat.eq_zero_or_pos (signLength (mantissa ++ rest)) with zero | signed
  · exact zero
  · rw [mantissaLength?_of_endsMantissa
      (endsMantissa_of_signLength_ne_zero (Nat.ne_of_gt signed))] at read
    contradiction

/-! ## Exponents -/

theorem exponentLength_cons {letter : Char} (isLetter : letter = 'e' ∨ letter = 'E')
    (rest : Text) :
    exponentLength (letter :: rest) =
      if (digits (rest.drop (signLength rest))).1 = [] then 0
      else 1 + signLength rest + (digits (rest.drop (signLength rest))).1.length := by
  simp only [exponentLength, if_pos isLetter]
  cases (digits (rest.drop (signLength rest))).1 with
  | nil => rfl
  | cons first others => rfl

/-- There is an exponent at the front, or no digit behind what could start one. -/
theorem exponentLength_cases (text : Text) :
    (∃ letter rest, text = letter :: rest ∧ (letter = 'e' ∨ letter = 'E') ∧
        (digits (rest.drop (signLength rest))).1 ≠ [] ∧
        exponentLength text =
          1 + signLength rest + (digits (rest.drop (signLength rest))).1.length) ∨
      ((∀ letter rest, text = letter :: rest → (letter = 'e' ∨ letter = 'E') →
          NoDigit (rest.drop (signLength rest))) ∧
        exponentLength text = 0) := by
  cases text with
  | nil => exact .inr ⟨by simp, rfl⟩
  | cons letter rest =>
      by_cases isLetter : letter = 'e' ∨ letter = 'E'
      · by_cases none : (digits (rest.drop (signLength rest))).1 = []
        · refine .inr ⟨?_, by rw [exponentLength_cons isLetter, if_pos none]⟩
          rintro _ _ ⟨⟩ -
          exact noDigit_of_digits_eq_nil none
        · exact .inl ⟨letter, rest, rfl, isLetter, none,
            by rw [exponentLength_cons isLetter, if_neg none]⟩
      · refine .inr ⟨?_, by rw [exponentLength, if_neg isLetter]⟩
        rintro _ _ ⟨⟩ other
        exact absurd other isLetter

theorem isExponent_take (text : Text) : IsExponent (text.take (exponentLength text)) := by
  rcases exponentLength_cases text with
    ⟨letter, rest, rfl, isLetter, nonempty, taken⟩ | ⟨-, taken⟩
  · rw [taken, Nat.add_assoc, Nat.add_comm, List.take_succ_cons, List.take_add,
      take_length_digits]
    exact .present isLetter (isSign_take rest) (isDigits_digits _) nonempty
  · rw [taken, List.take_zero]
    exact .absent

theorem endsMantissa_letter {letter : Char} (isLetter : letter = 'e' ∨ letter = 'E') (rest : Text) :
    EndsMantissa (letter :: rest) := by
  rcases isLetter with rfl | rfl
  · exact ⟨by rintro character ⟨⟩; rfl, by simp⟩
  · exact ⟨by rintro character ⟨⟩; rfl, by simp⟩

/-- The scanner takes no less than an exponent that is there. -/
theorem length_le_exponentLength (isExponent : IsExponent exponent) (rest : Text) :
    exponent.length ≤ exponentLength (exponent ++ rest) := by
  cases isExponent with
  | absent => exact Nat.zero_le _
  | @present letter sign digits isLetter isSign areDigits nonempty =>
      have noSign : signLength (digits ++ rest) = 0 :=
        signLength_mantissa_append (.whole areDigits nonempty) rest
      have enough := length_le_digits_append areDigits rest
      have some : (Numeral.digits (digits ++ rest)).1 ≠ [] := by
        rw [digits_append areDigits]
        simp [nonempty]
      rw [List.cons_append, List.append_assoc, exponentLength_cons isLetter,
        signLength_append isSign noSign, List.drop_left, if_neg some]
      simp only [List.length_cons, List.length_append]
      omega

/-! ## Numerals -/

theorem length?_eq_some_iff :
    length? text = some length ↔ ∃ mantissa,
      mantissaLength? (text.drop (signLength text)) = some mantissa ∧
        signLength text + mantissa + exponentLength (text.drop (signLength text + mantissa)) =
          length := by
  simp [length?, Option.bind_eq_some_iff]

theorem length?_eq_none_iff_mantissaLength? :
    length? text = none ↔ mantissaLength? (text.drop (signLength text)) = none := by
  simp only [length?]
  cases mantissaLength? (text.drop (signLength text)) <;> simp

theorem isNumeral_take (read : length? text = some length) : IsNumeral (text.take length) := by
  obtain ⟨mantissa, mantissaRead, rfl⟩ := length?_eq_some_iff.mp read
  rw [Nat.add_assoc, List.take_add, List.take_add, List.drop_drop]
  exact .mk (isSign_take text) (isMantissa_take mantissaRead) (isExponent_take _)

/-- The scanner takes no less than a numeral that is there. -/
theorem exists_length? (isNumeral : IsNumeral front) (rest : Text) :
    ∃ length, length? (front ++ rest) = some length ∧ front.length ≤ length := by
  obtain ⟨isSign, isMantissa, isExponent⟩ := isNumeral
  next sign mantissa exponent =>
  have signRead : signLength (sign ++ (mantissa ++ (exponent ++ rest))) = sign.length :=
    signLength_append isSign (signLength_mantissa_append isMantissa _)
  obtain ⟨count, mantissaRead, enough, exact⟩ :=
    exists_mantissaLength? isMantissa (exponent ++ rest)
  have same : sign ++ (mantissa ++ exponent) ++ rest =
      sign ++ (mantissa ++ (exponent ++ rest)) := by
    simp only [List.append_assoc]
  refine ⟨_, length?_eq_some_iff.mpr ⟨count, ?_, rfl⟩, ?_⟩
  · rw [same, signRead, List.drop_left]
    exact mantissaRead
  · rw [same, signRead, List.drop_length_add_append]
    cases isExponent with
    | absent =>
        simp only [List.length_append, List.length_nil]
        omega
    | present isLetter isSign areDigits nonempty =>
        -- the letter ends the mantissa, so the scanner stands in front of the exponent
        rw [exact (endsMantissa_letter isLetter _), List.drop_left]
        have exponentEnough :=
          length_le_exponentLength (.present isLetter isSign areDigits nonempty) rest
        simp only [List.length_append]
        omega

/-! ## The longest numeral -/

theorem isLongest_take (read : length? text = some length) : IsLongest text (text.take length) where
  isPrefix := List.take_prefix length text
  isNumeral := isNumeral_take read
  longest := by
    rintro other ⟨rest, rfl⟩ isNumeral
    obtain ⟨found, otherRead, enough⟩ := exists_length? isNumeral rest
    obtain rfl := Option.some.inj (read.symm.trans otherRead)
    rw [List.length_take, Nat.min_eq_left (length?_le read)]
    exact enough

theorem length?_eq_some_iff_longest :
    length? text = some length ↔ ∃ front, IsLongest text front ∧ front.length = length := by
  constructor
  · intro read
    exact ⟨text.take length, isLongest_take read, List.length_take_of_le (length?_le read)⟩
  · rintro ⟨front, isLongest, rfl⟩
    obtain ⟨rest, rfl⟩ := isLongest.isPrefix
    obtain ⟨found, read, enough⟩ := exists_length? isLongest.isNumeral rest
    have taken := isLongest.longest _ (List.take_prefix found _) (isNumeral_take read)
    rw [List.length_take, Nat.min_eq_left (length?_le read)] at taken
    rw [read, Nat.le_antisymm taken enough]

theorem length?_eq_none_iff :
    length? text = none ↔ ∀ front, front <+: text → ¬ IsNumeral front := by
  constructor
  · rintro nothing front ⟨rest, rfl⟩ isNumeral
    obtain ⟨found, read, -⟩ := exists_length? isNumeral rest
    rw [nothing] at read
    contradiction
  · intro noNumeral
    cases read : length? text with
    | none => rfl
    | some length =>
        exact absurd (isNumeral_take read) (noNumeral _ (List.take_prefix length text))

/-! ## Bytes -/

theorem IsDigits.byteLength_eq (areDigits : IsDigits text) :
    Text.byteLength text = text.length := by
  induction text with
  | nil => rfl
  | cons digit rest inductionHypothesis =>
      obtain ⟨isDigit, others⟩ := List.forall_mem_cons.mp areDigits
      have single : digit.utf8Size = 1 := by
        rw [Char.utf8Size_eq_one_iff]
        simp only [Char.isDigit, Bool.and_eq_true, decide_eq_true_eq] at isDigit
        exact UInt32.le_trans isDigit.2 (by decide)
      rw [Text.byteLength, single, inductionHypothesis others, List.length_cons, Nat.add_comm]

theorem IsSign.byteLength_eq (isSign : IsSign sign) : Text.byteLength sign = sign.length := by
  cases isSign <;> rfl

theorem IsMantissa.byteLength_eq (isMantissa : IsMantissa mantissa) :
    Text.byteLength mantissa = mantissa.length := by
  have point : Char.utf8Size '.' = 1 := rfl
  cases isMantissa with
  | whole areDigits _ => exact areDigits.byteLength_eq
  | decimal wholeDigits _ fractionDigits =>
      rw [Text.byteLength_append, Text.byteLength, wholeDigits.byteLength_eq,
        fractionDigits.byteLength_eq, point, List.length_append, List.length_cons, Nat.add_comm 1]
  | fraction fractionDigits _ =>
      rw [Text.byteLength, fractionDigits.byteLength_eq, point, List.length_cons, Nat.add_comm]

theorem IsExponent.byteLength_eq (isExponent : IsExponent exponent) :
    Text.byteLength exponent = exponent.length := by
  cases isExponent with
  | absent => rfl
  | @present letter sign digits isLetter isSign areDigits _ =>
      have single : letter.utf8Size = 1 := by rcases isLetter with rfl | rfl <;> rfl
      rw [Text.byteLength, Text.byteLength_append, single, isSign.byteLength_eq,
        areDigits.byteLength_eq, List.length_cons, List.length_append, Nat.add_comm]

/-- Every character of a numeral takes one byte. -/
theorem IsNumeral.byteLength_eq (isNumeral : IsNumeral front) :
    Text.byteLength front = front.length := by
  obtain ⟨isSign, isMantissa, isExponent⟩ := isNumeral
  rw [Text.byteLength_append, Text.byteLength_append, isSign.byteLength_eq,
    isMantissa.byteLength_eq, isExponent.byteLength_eq, List.length_append, List.length_append]

end BnfParsing.Numeral
