import BnfParsing.Grammar.Escape
import Mathlib.Tactic.IntervalCases

/-!
Contract: UTF-16 code units, and the hexadecimal digits that a code unit is written with.

Owns:
- the code units of a character, and the texts that lists of code units stand for;
- decoding as the function that goes with this relation;
- the four digits of a code unit in upper or lower case, and reading them.

Does not own: where escapes stand in a text.
-/

set_option autoImplicit false

namespace BnfParsing.Escape

variable {unit : Nat} {units : List Nat} {text : Text}

/-! ## Characters and code units -/

/-- The code units of a character: itself, or a pair of surrogates for a character that does
not fit into 16 bits. -/
def codeUnits (character : Char) : List Nat :=
  if character.toNat < 0x10000 then [character.toNat]
  else
    [0xD800 + (character.toNat - 0x10000) / 0x400, 0xDC00 + (character.toNat - 0x10000) % 0x400]

/-- Whether a code unit stands for a character only together with another one. -/
def IsSurrogate (unit : Nat) : Prop := 0xD800 ≤ unit ∧ unit ≤ 0xDFFF

/-- The text that code units stand for: the units of a character for this character, and a
surrogate that is no part of a pair for the replacement character. -/
inductive Decodes : List Nat → Text → Prop where
  | done : Decodes [] []
  | character (character : Char) {units : List Nat} {text : Text} (others : Decodes units text) :
      Decodes (codeUnits character ++ units) (character :: text)
  | lone {unit : Nat} {units : List Nat} {text : Text} (surrogate : IsSurrogate unit)
      (unpaired : isHighSurrogate unit = true → ∀ next ∈ units.head?, isLowSurrogate next = false)
      (others : Decodes units text) : Decodes (unit :: units) (replacement :: text)

theorem isHighSurrogate_iff : isHighSurrogate unit = true ↔ 0xD800 ≤ unit ∧ unit ≤ 0xDBFF := by
  simp [isHighSurrogate]

theorem isLowSurrogate_iff : isLowSurrogate unit = true ↔ 0xDC00 ≤ unit ∧ unit ≤ 0xDFFF := by
  simp [isLowSurrogate]

theorem isSurrogate_iff :
    IsSurrogate unit ↔ isHighSurrogate unit = true ∨ isLowSurrogate unit = true := by
  rw [isHighSurrogate_iff, isLowSurrogate_iff, IsSurrogate]
  omega

/-- No character has the code of a surrogate. -/
theorem not_isSurrogate_toNat (character : Char) : ¬ IsSurrogate character.toNat := by
  have valid : character.toNat < 0xD800 ∨ 0xDFFF < character.toNat ∧ character.toNat < 0x110000 :=
    character.valid
  unfold IsSurrogate
  omega

theorem toNat_lt (character : Char) : character.toNat < 0x110000 := by
  have valid : character.toNat < 0xD800 ∨ 0xDFFF < character.toNat ∧ character.toNat < 0x110000 :=
    character.valid
  omega

theorem codeUnits_lt (character : Char) : ∀ unit ∈ codeUnits character, unit < 0x10000 := by
  have bounded := toNat_lt character
  unfold codeUnits
  split
  · simpa
  · rw [List.forall_mem_cons, List.forall_mem_singleton]
    omega

theorem toNat_ofNat {code : Nat} (valid : code.isValidChar) : (Char.ofNat code).toNat = code := by
  rw [Char.ofNat, dif_pos valid]
  rfl

/-- A code that is no surrogate is the single code unit of its character. -/
theorem codeUnits_ofNat (bounded : unit < 0x10000) (notSurrogate : ¬ IsSurrogate unit) :
    codeUnits (Char.ofNat unit) = [unit] := by
  have valid : unit.isValidChar := by
    unfold IsSurrogate at notSurrogate
    unfold Nat.isValidChar
    omega
  rw [codeUnits, toNat_ofNat valid, if_pos bounded]

/-- A pair of surrogates is the code units of its character. -/
theorem codeUnits_ofPair {high low : Nat} (isHigh : isHighSurrogate high = true)
    (isLow : isLowSurrogate low = true) :
    codeUnits (Char.ofNat (0x10000 + (high - 0xD800) * 0x400 + (low - 0xDC00))) = [high, low] := by
  rw [isHighSurrogate_iff] at isHigh
  rw [isLowSurrogate_iff] at isLow
  have valid : (0x10000 + (high - 0xD800) * 0x400 + (low - 0xDC00)).isValidChar := by
    unfold Nat.isValidChar
    omega
  have highBack : 0xD800 + (0x10000 + (high - 0xD800) * 0x400 + (low - 0xDC00) - 0x10000) / 0x400 =
      high := by
    omega
  have lowBack : 0xDC00 + (0x10000 + (high - 0xD800) * 0x400 + (low - 0xDC00) - 0x10000) % 0x400 =
      low := by
    omega
  rw [codeUnits, toNat_ofNat valid, if_neg (by omega), highBack, lowBack]

/-! ## Decoding -/

theorem decodeUnits_codeUnits_append (character : Char) (units : List Nat) :
    decodeUnits (codeUnits character ++ units) = character :: decodeUnits units := by
  have notSurrogate := not_isSurrogate_toNat character
  have bounded := toNat_lt character
  unfold codeUnits
  split
  next small =>
    rw [isSurrogate_iff, not_or, Bool.not_eq_true, Bool.not_eq_true] at notSurrogate
    cases units with
    | nil => simp [decodeUnits, notSurrogate]
    | cons next rest => simp [decodeUnits, notSurrogate]
  next large =>
    have isHigh : isHighSurrogate (0xD800 + (character.toNat - 0x10000) / 0x400) = true := by
      rw [isHighSurrogate_iff]
      omega
    have isLow : isLowSurrogate (0xDC00 + (character.toNat - 0x10000) % 0x400) = true := by
      rw [isLowSurrogate_iff]
      omega
    have code : 0x10000 + (0xD800 + (character.toNat - 0x10000) / 0x400 - 0xD800) * 0x400 +
        (0xDC00 + (character.toNat - 0x10000) % 0x400 - 0xDC00) = character.toNat := by
      omega
    rw [List.cons_append, List.singleton_append, decodeUnits, if_pos isHigh, if_pos isLow, code,
      Char.ofNat_toNat]

theorem decodeUnits_lone (surrogate : IsSurrogate unit)
    (unpaired : isHighSurrogate unit = true → ∀ next ∈ units.head?, isLowSurrogate next = false) :
    decodeUnits (unit :: units) = replacement :: decodeUnits units := by
  rw [isSurrogate_iff] at surrogate
  cases units with
  | nil => simp [decodeUnits, surrogate]
  | cons next rest =>
      rw [decodeUnits]
      cases isHigh : isHighSurrogate unit with
      | true =>
          have notLow := unpaired isHigh next rfl
          simp [notLow]
      | false =>
          have isLow : isLowSurrogate unit = true := by simpa [isHigh] using surrogate
          simp [isLow]

/-- Decoding gives the text that the code units stand for, and no other text. -/
theorem decodeUnits_eq_iff (bounded : ∀ unit ∈ units, unit < 0x10000) :
    decodeUnits units = text ↔ Decodes units text := by
  constructor
  · rintro rfl
    fun_induction decodeUnits units with
    | case1 => exact .done
    | case2 unit =>
        split
        next surrogate =>
          rw [Bool.or_eq_true, ← isSurrogate_iff] at surrogate
          exact .lone surrogate (by simp) .done
        next notSurrogate =>
          rw [Bool.or_eq_true, ← isSurrogate_iff] at notSurrogate
          have alone := Decodes.character (Char.ofNat unit) .done
          rwa [codeUnits_ofNat (bounded unit List.mem_cons_self) notSurrogate] at alone
    | case3 unit next rest isHigh isLow inductionHypothesis =>
        have pair := Decodes.character
          (Char.ofNat (0x10000 + (unit - 0xD800) * 0x400 + (next - 0xDC00)))
          (inductionHypothesis fun other member =>
            bounded other (List.mem_cons_of_mem _ (List.mem_cons_of_mem _ member)))
        rwa [codeUnits_ofPair isHigh isLow] at pair
    | case4 unit next rest isHigh notLow inductionHypothesis =>
        rw [List.forall_mem_cons] at bounded
        exact .lone (isSurrogate_iff.mpr (.inl isHigh)) (fun _ => by simpa using notLow)
          (inductionHypothesis bounded.2)
    | case5 unit next rest notHigh isLow inductionHypothesis =>
        rw [List.forall_mem_cons] at bounded
        exact .lone (isSurrogate_iff.mpr (.inr isLow)) (fun isHigh => absurd isHigh notHigh)
          (inductionHypothesis bounded.2)
    | case6 unit next rest notHigh notLow inductionHypothesis =>
        rw [List.forall_mem_cons] at bounded
        have notSurrogate : ¬ IsSurrogate unit := by simp [isSurrogate_iff, notHigh, notLow]
        have alone := Decodes.character (Char.ofNat unit) (inductionHypothesis bounded.2)
        rwa [codeUnits_ofNat bounded.1 notSurrogate] at alone
  · intro decodes
    clear bounded
    induction decodes with
    | done => rfl
    | character character _ inductionHypothesis =>
        rw [decodeUnits_codeUnits_append, inductionHypothesis]
    | lone surrogate unpaired _ inductionHypothesis =>
        rw [decodeUnits_lone surrogate unpaired, inductionHypothesis]

theorem decodeUnits_flatMap_codeUnits (text : Text) :
    decodeUnits (text.flatMap codeUnits) = text := by
  induction text with
  | nil => rfl
  | cons character rest inductionHypothesis =>
      rw [List.flatMap_cons, decodeUnits_codeUnits_append, inductionHypothesis]

/-! ## Hexadecimal digits -/

/-- A hexadecimal digit in upper or lower case. -/
def digit (isUpper : Bool) (value : Nat) : Char :=
  if isUpper then (Nat.digitChar value).toUpper else Nat.digitChar value

/-- The four digits of a code unit; the argument tells which of them are in upper case. -/
def digits (isUpper : Nat → Bool) (unit : Nat) : Text :=
  [digit (isUpper 0) (unit / 4096), digit (isUpper 1) (unit / 256 % 16),
    digit (isUpper 2) (unit / 16 % 16), digit (isUpper 3) (unit % 16)]

theorem digit_decimal {value : Nat} (small : value < 10) :
    digit false value = Char.ofNat (48 + value) := by
  interval_cases value <;> rfl

theorem digit_lower {value : Nat} (large : 10 ≤ value) (small : value < 16) :
    digit false value = Char.ofNat (87 + value) := by
  interval_cases value <;> rfl

theorem digit_upper {value : Nat} (large : 10 ≤ value) (small : value < 16) :
    digit true value = Char.ofNat (55 + value) := by
  interval_cases value <;> rfl

theorem hexDigit?_digit {value : Nat} (small : value < 16) (isUpper : Bool) :
    hexDigit? (digit isUpper value) = some value := by
  interval_cases value <;> cases isUpper <;> rfl

/-- The characters that are read as digits are those that digits are written with. -/
theorem hexDigit?_eq_some_iff {character : Char} {value : Nat} :
    hexDigit? character = some value ↔ value < 16 ∧ ∃ isUpper, character = digit isUpper value := by
  constructor
  · intro read
    have inRange : ∀ first last : Char, first ≤ character ∧ character ≤ last →
        first.toNat ≤ character.toNat ∧ character.toNat ≤ last.toNat := fun _ _ => id
    have ofCode : ∀ code, character.toNat = code → character = Char.ofNat code := by
      rintro _ rfl
      exact (Char.ofNat_toNat character).symm
    unfold hexDigit? at read
    split at read
    next decimal =>
      have bounds : 48 ≤ character.toNat ∧ character.toNat ≤ 57 := inRange _ _ decimal
      have valueIs : character.toNat - 48 = value := Option.some.inj read
      refine ⟨by omega, false, ?_⟩
      rw [digit_decimal (by omega)]
      exact ofCode _ (by omega)
    split at read
    next lower =>
      have bounds : 97 ≤ character.toNat ∧ character.toNat ≤ 102 := inRange _ _ lower
      have valueIs : character.toNat - 97 + 10 = value := Option.some.inj read
      refine ⟨by omega, false, ?_⟩
      rw [digit_lower (by omega) (by omega)]
      exact ofCode _ (by omega)
    split at read
    next upper =>
      have bounds : 65 ≤ character.toNat ∧ character.toNat ≤ 70 := inRange _ _ upper
      have valueIs : character.toNat - 65 + 10 = value := Option.some.inj read
      refine ⟨by omega, true, ?_⟩
      rw [digit_upper (by omega) (by omega)]
      exact ofCode _ (by omega)
    · cases read
  · rintro ⟨small, isUpper, rfl⟩
    exact hexDigit?_digit small isUpper

/-- A hexadecimal digit, whichever its value and its case are. -/
def IsDigit (character : Char) : Prop :=
  ∃ value < 16, ∃ isUpper, character = digit isUpper value

theorem isDigit_iff {character : Char} :
    IsDigit character ↔ ∃ value, hexDigit? character = some value := by
  simp only [IsDigit, hexDigit?_eq_some_iff]

theorem IsDigit.ne_backslash {character : Char} (isDigit : IsDigit character) :
    character ≠ '\\' := by
  rintro rfl
  obtain ⟨value, read⟩ := isDigit_iff.mp isDigit
  cases read

/-- Four characters are read as a code unit exactly if they are digits. -/
theorem exists_unit?_iff {first second third fourth : Char} :
    (∃ unit, unit? first second third fourth = some unit) ↔
      ∀ character ∈ [first, second, third, fourth], IsDigit character := by
  simp only [unit?, bind, Option.bind_eq_some_iff, pure, Option.some.injEq, List.forall_mem_cons,
    List.not_mem_nil, false_imp_iff, implies_true, and_true, isDigit_iff]
  constructor
  · rintro ⟨_, _, firstRead, _, secondRead, _, thirdRead, _, fourthRead, -⟩
    exact ⟨⟨_, firstRead⟩, ⟨_, secondRead⟩, ⟨_, thirdRead⟩, ⟨_, fourthRead⟩⟩
  · rintro ⟨⟨_, firstRead⟩, ⟨_, secondRead⟩, ⟨_, thirdRead⟩, ⟨_, fourthRead⟩⟩
    exact ⟨_, _, firstRead, _, secondRead, _, thirdRead, _, fourthRead, rfl⟩

/-- They are then the digits of this code unit. -/
theorem unit?_eq_some_iff {first second third fourth : Char} :
    unit? first second third fourth = some unit ↔
      unit < 0x10000 ∧ ∃ isUpper, [first, second, third, fourth] = digits isUpper unit := by
  simp only [unit?, bind, Option.bind_eq_some_iff, hexDigit?_eq_some_iff, pure, Option.some.injEq]
  constructor
  · rintro ⟨a, ⟨aSmall, aUpper, rfl⟩, b, ⟨bSmall, bUpper, rfl⟩, c, ⟨cSmall, cUpper, rfl⟩,
      d, ⟨dSmall, dUpper, rfl⟩, rfl⟩
    refine ⟨by omega, fun place => [aUpper, bUpper, cUpper, dUpper].getD place false, ?_⟩
    have firstValue : (((a * 16 + b) * 16 + c) * 16 + d) / 4096 = a := by omega
    have secondValue : (((a * 16 + b) * 16 + c) * 16 + d) / 256 % 16 = b := by omega
    have thirdValue : (((a * 16 + b) * 16 + c) * 16 + d) / 16 % 16 = c := by omega
    have fourthValue : (((a * 16 + b) * 16 + c) * 16 + d) % 16 = d := by omega
    rw [digits, firstValue, secondValue, thirdValue, fourthValue]
    rfl
  · rintro ⟨bounded, isUpper, same⟩
    simp only [digits, List.cons.injEq] at same
    obtain ⟨rfl, rfl, rfl, rfl, -⟩ := same
    exact ⟨_, ⟨by omega, _, rfl⟩, _, ⟨by omega, _, rfl⟩, _, ⟨by omega, _, rfl⟩,
      _, ⟨by omega, _, rfl⟩, by omega⟩

end BnfParsing.Escape
