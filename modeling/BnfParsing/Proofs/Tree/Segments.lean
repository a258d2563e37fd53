import BnfParsing.Tree.Path
import Mathlib.Data.List.Basic

/-!
Contract: what the written form of a segment accepts.

Owns:
- the texts that write a position, and those that are a name with a position;
- when a segment accepts a node among its siblings, said of its written form alone;
- which siblings it names, accepted or not;
- that a segment is read from its written form accordingly.

Does not own: the nodes that a path reaches.
-/

set_option autoImplicit false

namespace BnfParsing.Path

/-! ## Positions -/

/-- Decimal digits that write a number below 2^64. -/
structure Digits (digits : Text) (number : Nat) : Prop where
  nonempty : digits ≠ []
  areDigits : ∀ digit ∈ digits, digit.isDigit
  value : Nat.ofDigitChars 10 digits 0 = number
  bounded : number < UInt64.size

/-- Digits write a position, also after a plus sign. -/
def Writes (text : Text) (position : Nat) : Prop :=
  Digits text position ∨ ∃ digits, text = '+' :: digits ∧ Digits digits position

theorem decimalFrom_eq_some_iff {digits : Text} {value number : Nat} :
    decimalFrom value digits = some number ↔
      (∀ digit ∈ digits, digit.isDigit) ∧ Nat.ofDigitChars 10 digits value = number := by
  induction digits generalizing value with
  | nil => simp [decimalFrom]
  | cons digit digits inductionHypothesis =>
      rw [decimalFrom, Nat.ofDigitChars_cons, Nat.mul_comm 10 value, List.forall_mem_cons]
      split
      next isDigit => rw [inductionHypothesis, and_iff_right isDigit]
      next notDigit => simp [notDigit]

/-- What is read where no sign is left. -/
theorem readDigits_eq_some_iff {digits : Text} {position : UInt64} :
    (if digits.isEmpty then none
      else
        match decimalFrom 0 digits with
        | some value => if value < UInt64.size then some (UInt64.ofNat value) else none
        | none => none) = some position ↔ Digits digits position.toNat := by
  constructor
  · intro read
    split at read
    · contradiction
    next nonempty =>
      split at read
      case h_2 => contradiction
      case h_1 value decimal =>
        split at read
        case isFalse => contradiction
        case isTrue bounded =>
          obtain ⟨areDigits, valued⟩ := decimalFrom_eq_some_iff.mp decimal
          obtain rfl : UInt64.ofNat value = position := Option.some.inj read
          rw [UInt64.toNat_ofNat_of_lt' bounded]
          exact ⟨by simpa using nonempty, areDigits, valued, bounded⟩
  · rintro ⟨nonempty, areDigits, valued, bounded⟩
    have decimal : decimalFrom 0 digits = some position.toNat :=
      decimalFrom_eq_some_iff.mpr ⟨areDigits, valued⟩
    rw [if_neg (by simpa using nonempty), decimal]
    simp only
    rw [if_pos bounded, UInt64.ofNat_toNat]

theorem readPosition?_signed (digits : Text) :
    readPosition? ('+' :: digits) =
      if digits.isEmpty then none
      else
        match decimalFrom 0 digits with
        | some value => if value < UInt64.size then some (UInt64.ofNat value) else none
        | none => none := rfl

theorem readPosition?_unsigned : ∀ text : Text, (∀ digits, text ≠ '+' :: digits) →
    readPosition? text =
      if text.isEmpty then none
      else
        match decimalFrom 0 text with
        | some value => if value < UInt64.size then some (UInt64.ofNat value) else none
        | none => none := by
  intro text unsigned
  unfold readPosition?
  split
  next digits => exact absurd rfl (unsigned digits)
  next => rfl

theorem readPosition?_eq_some_iff {text : Text} {position : UInt64} :
    readPosition? text = some position ↔ Writes text position.toNat := by
  by_cases signed : ∃ digits, text = '+' :: digits
  · obtain ⟨digits, rfl⟩ := signed
    have notDigits : ¬ Digits ('+' :: digits) position.toNat := by
      intro written
      exact absurd (written.areDigits '+' List.mem_cons_self) (by decide)
    rw [readPosition?_signed, readDigits_eq_some_iff]
    simp [Writes, notDigits]
  · have unsigned : ∀ digits, text ≠ '+' :: digits := fun digits same => signed ⟨digits, same⟩
    rw [readPosition?_unsigned text unsigned, readDigits_eq_some_iff]
    simp [Writes, unsigned]

/-! ## Names with a position -/

/-- The text is `name[digits]`. No digit is a bracket, so it is the last one that
opens the position. -/
def Indexed (text name : Text) (position : Nat) : Prop :=
  ∃ written, text = name ++ '[' :: written ++ [']'] ∧ Writes written position

theorem splitAtLast_eq_none_iff {separator : Char} {text : Text} :
    splitAtLast separator text = none ↔ separator ∉ text := by
  induction text with
  | nil => simp [splitAtLast]
  | cons character rest inductionHypothesis =>
      rw [splitAtLast, List.mem_cons, not_or, ← inductionHypothesis]
      cases splitAtLast separator rest with
      | some parts => simp
      | none => simp [eq_comm]

theorem eq_of_splitAtLast {separator : Char} {text before after : Text}
    (divided : splitAtLast separator text = some (before, after)) :
    text = before ++ separator :: after := by
  induction text generalizing before with
  | nil => contradiction
  | cons character rest inductionHypothesis =>
      rw [splitAtLast] at divided
      split at divided
      next front back later =>
        cases divided
        rw [inductionHypothesis later, List.cons_append]
      next =>
        split at divided
        next same =>
          cases divided
          rw [same, List.nil_append]
        next => contradiction

theorem splitAtLast_append {separator : Char} (before : Text) {after : Text}
    (absent : separator ∉ after) :
    splitAtLast separator (before ++ separator :: after) = some (before, after) := by
  induction before with
  | nil => rw [List.nil_append, splitAtLast, splitAtLast_eq_none_iff.mpr absent, if_pos rfl]
  | cons character before inductionHypothesis =>
      rw [List.cons_append, splitAtLast, inductionHypothesis]

theorem Writes.not_mem {text : Text} {position : Nat} (writes : Writes text position) :
    '[' ∉ text := by
  intro member
  rcases writes with written | ⟨digits, rfl, written⟩
  · exact absurd (written.areDigits '[' member) (by decide)
  · rcases List.mem_cons.mp member with sign | inDigits
    · contradiction
    · exact absurd (written.areDigits '[' inDigits) (by decide)

theorem readIndexed?_eq_some_iff {text name : Text} {position : UInt64} :
    readIndexed? text = some (name, position) ↔ Indexed text name position.toNat := by
  constructor
  · intro read
    unfold readIndexed? at read
    split at read
    case isFalse => contradiction
    case isTrue closed =>
      split at read
      case h_2 => contradiction
      case h_1 front written divided =>
        obtain ⟨found, positioned, same⟩ := Option.map_eq_some_iff.mp read
        obtain ⟨rfl, rfl⟩ := Prod.mk.inj same
        refine ⟨written, ?_, readPosition?_eq_some_iff.mp positioned⟩
        rw [← List.dropLast_append_getLast? ']' closed, eq_of_splitAtLast divided]
  · rintro ⟨written, rfl, writes⟩
    have divided : splitAtLast '[' (name ++ '[' :: written) = some (name, written) :=
      splitAtLast_append name writes.not_mem
    unfold readIndexed?
    rw [if_pos List.getLast?_concat, List.dropLast_concat, divided]
    simp only
    rw [readPosition?_eq_some_iff.mpr writes, Option.map_some]

/-! ## What is accepted -/

/-- A node with the siblings before it. -/
structure Place where
  earlier : List Tree
  node : Tree

/-- When the written form of a segment accepts a node among its siblings. -/
inductive Accepts : Text → Place → Prop where
  | any (place : Place) : Accepts ['*'] place
  /-- The name is that of the node and of as many earlier siblings as the position says. -/
  | indexed {text name : Text} {position : Nat} {place : Place}
      (written : Indexed text name position) (named : place.node.token = name)
      (counted : place.earlier.countP (fun sibling => sibling.token = name) = position) :
      Accepts text place
  /-- What is written in no other way is a name. -/
  | named {text : Text} {place : Place} (notAny : text ≠ ['*'])
      (plain : ∀ name position, ¬ Indexed text name position)
      (named : place.node.token = text) : Accepts text place

/-- When a segment accepts a node among its siblings. -/
def Segment.accepts : Segment → Place → Bool
  | .any, _ => true
  | .named name none, place => place.node.token = name
  | .named name (some position), place =>
      place.node.token = name ∧
        place.earlier.countP (fun sibling => sibling.token = name) = position.toNat

theorem Indexed.bounded {text name : Text} {position : Nat}
    (indexed : Indexed text name position) : position < UInt64.size := by
  obtain ⟨written, -, digits | ⟨rest, -, digits⟩⟩ := indexed
  · exact digits.bounded
  · exact digits.bounded

theorem Indexed.read {text name : Text} {position : Nat}
    (indexed : Indexed text name position) :
    readIndexed? text = some (name, UInt64.ofNat position) := by
  rw [readIndexed?_eq_some_iff, UInt64.toNat_ofNat_of_lt' indexed.bounded]
  exact indexed

theorem Indexed.unique {text name otherName : Text} {position otherPosition : Nat}
    (indexed : Indexed text name position) (otherIndexed : Indexed text otherName otherPosition) :
    otherName = name ∧ otherPosition = position := by
  have read := otherIndexed.read
  rw [indexed.read, Option.some.injEq, Prod.mk.injEq] at read
  refine ⟨read.1.symm, ?_⟩
  rw [← UInt64.toNat_ofNat_of_lt' otherIndexed.bounded, ← read.2,
    UInt64.toNat_ofNat_of_lt' indexed.bounded]

theorem Segment.ofText_eq_any_iff {text : Text} :
    Segment.ofText text = .any ↔ text = ['*'] := by
  unfold Segment.ofText
  by_cases any : text = ['*']
  · simp [any]
  · rw [if_neg any]
    cases readIndexed? text <;> simp [any]

theorem Segment.ofText_eq_named_none_iff {text name : Text} :
    Segment.ofText text = .named name none ↔
      text ≠ ['*'] ∧ (∀ name position, ¬ Indexed text name position) ∧ name = text := by
  unfold Segment.ofText
  by_cases any : text = ['*']
  · simp [any]
  rw [if_neg any]
  cases read : readIndexed? text with
  | none =>
      have plain : ∀ name position, ¬ Indexed text name position := by
        intro name position indexed
        rw [indexed.read] at read
        contradiction
      simp [any, plain, eq_comm]
  | some entry =>
      have written : Indexed text entry.1 entry.2.toNat := readIndexed?_eq_some_iff.mp read
      refine iff_of_false (by simp) ?_
      rintro ⟨-, plain, -⟩
      exact plain _ _ written

theorem Segment.ofText_eq_named_some_iff {text name : Text} {position : UInt64} :
    Segment.ofText text = .named name (some position) ↔ Indexed text name position.toNat := by
  rw [← readIndexed?_eq_some_iff]
  unfold Segment.ofText
  by_cases any : text = ['*']
  · subst any
    have noPosition : readIndexed? ['*'] = none := rfl
    simp [noPosition]
  rw [if_neg any]
  cases readIndexed? text <;> simp [Prod.ext_iff]

theorem accepts_ofText_iff {text : Text} {place : Place} :
    (Segment.ofText text).accepts place ↔ Accepts text place := by
  cases segment : Segment.ofText text with
  | any =>
      obtain rfl := Segment.ofText_eq_any_iff.mp segment
      exact iff_of_true rfl (.any place)
  | named name position =>
      cases position with
      | none =>
          obtain ⟨notAny, plain, rfl⟩ := Segment.ofText_eq_named_none_iff.mp segment
          constructor
          · intro accepted
            exact .named notAny plain (of_decide_eq_true accepted)
          · intro accepted
            cases accepted with
            | any => exact absurd rfl notAny
            | indexed written => exact absurd written (plain _ _)
            | named notAny plain named => exact decide_eq_true named
      | some position =>
          have written := Segment.ofText_eq_named_some_iff.mp segment
          constructor
          · intro accepted
            obtain ⟨named, counted⟩ := of_decide_eq_true accepted
            exact .indexed written named counted
          · intro accepted
            cases accepted with
            | any => cases segment
            | indexed other named counted =>
                obtain ⟨rfl, rfl⟩ := written.unique other
                exact decide_eq_true ⟨named, counted⟩
            | named notAny plain named => exact absurd written (plain _ _)

instance (text : Text) (place : Place) : Decidable (Accepts text place) :=
  decidable_of_iff _ accepts_ofText_iff

/-! ## What is named -/

/-- The written form of a segment names the siblings it may accept. -/
inductive Names (text : Text) : Text → Prop where
  | indexed {name : Text} {position : Nat} (written : Indexed text name position) :
      Names text name
  | plain (notAny : text ≠ ['*']) (plain : ∀ name position, ¬ Indexed text name position) :
      Names text text

theorem names_iff {text name : Text} :
    Names text name ↔ ∃ position, Segment.ofText text = .named name position := by
  constructor
  · intro names
    cases names with
    | @indexed name position written =>
        refine ⟨some (UInt64.ofNat position), Segment.ofText_eq_named_some_iff.mpr ?_⟩
        rwa [UInt64.toNat_ofNat_of_lt' written.bounded]
    | plain notAny plain =>
        exact ⟨none, Segment.ofText_eq_named_none_iff.mpr ⟨notAny, plain, rfl⟩⟩
  · rintro ⟨_ | position, segment⟩
    · obtain ⟨notAny, plain, rfl⟩ := Segment.ofText_eq_named_none_iff.mp segment
      exact .plain notAny plain
    · exact .indexed (Segment.ofText_eq_named_some_iff.mp segment)

end BnfParsing.Path
