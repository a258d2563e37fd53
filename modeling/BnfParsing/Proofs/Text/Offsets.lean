import BnfParsing.Text.Basic

/-!
Contract: byte offsets that cut no character of a text.

Owns: the bytes of texts that are put together, and the front of a text that a cut
leaves.

Does not own: spans, or what they point at.
-/

set_option autoImplicit false

namespace BnfParsing.Text

theorem byteLength_append (front back : Text) :
    byteLength (front ++ back) = byteLength front + byteLength back := by
  induction front with
  | nil => simp [byteLength]
  | cons character front inductionHypothesis =>
      simp only [List.cons_append, byteLength]
      omega

theorem byteLength_append_space (front back : Text) :
    byteLength (front ++ ' ' :: back) = byteLength front + 1 + byteLength back := by
  have space : Char.utf8Size ' ' = 1 := rfl
  rw [byteLength_append, byteLength, space, Nat.add_assoc]

theorem byteLength_spaces (count : Nat) : byteLength (spaces count) = count := by
  induction count with
  | zero => rfl
  | succ count inductionHypothesis =>
      have space : Char.utf8Size ' ' = 1 := rfl
      have oneMore : spaces (count + 1) = ' ' :: spaces count := List.replicate_succ
      rw [oneMore, byteLength, inductionHypothesis, space, Nat.add_comm]

/-- Cutting after as many bytes as a front of the text takes gives this front. -/
theorem cutBytes_append (front back : Text) :
    cutBytes (byteLength front) (front ++ back) = .after front := by
  induction front with
  | nil => cases back <;> rfl
  | cons character front inductionHypothesis =>
      have positive : 0 < character.utf8Size := character.utf8Size_pos
      unfold byteLength
      rw [List.cons_append, cutBytes, if_neg (by omega), if_pos (by omega),
        Nat.add_sub_cancel_left, inductionHypothesis]
      rfl

/-- A cut leaves the front of the text that takes as many bytes. -/
theorem cutBytes_eq_after_iff {count : Nat} {text front : Text} :
    cutBytes count text = .after front ↔ front <+: text ∧ byteLength front = count := by
  constructor
  · intro cut
    induction text generalizing count front with
    | nil =>
        unfold cutBytes at cut
        split at cut
        case isTrue none =>
          simp only [ByteCut.after.injEq] at cut
          subst cut
          exact ⟨List.nil_prefix, none.symm⟩
        case isFalse => simp at cut
    | cons character rest inductionHypothesis =>
        unfold cutBytes at cut
        split at cut
        case isTrue none =>
          simp only [ByteCut.after.injEq] at cut
          subst cut
          exact ⟨List.nil_prefix, none.symm⟩
        case isFalse =>
          split at cut
          case isTrue fits =>
            cases inner : cutBytes (count - character.utf8Size) rest with
            | after kept =>
                simp only [inner, ByteCut.cons, ByteCut.after.injEq] at cut
                subst cut
                obtain ⟨isPrefix, bytes⟩ := inductionHypothesis inner
                refine ⟨(List.prefix_cons_inj character).mpr isPrefix, ?_⟩
                rw [byteLength, bytes]
                omega
            | short => simp [inner, ByteCut.cons] at cut
            | inside => simp [inner, ByteCut.cons] at cut
          case isFalse => simp at cut
  · rintro ⟨⟨back, rfl⟩, rfl⟩
    exact cutBytes_append front back

theorem cutBytes_after {count : Nat} {text front : Text}
    (cut : cutBytes count text = .after front) : front <+: text :=
  (cutBytes_eq_after_iff.mp cut).1

/-- A byte offset at which a character starts or the text ends. -/
def IsBoundary (text : Text) (offset : Nat) : Prop :=
  ∃ front, front <+: text ∧ byteLength front = offset

/-- The text from a byte offset on; nothing if the offset falls inside a character or
behind the end. -/
def fromByte? (offset : Nat) (text : Text) : Option Text :=
  match cutBytes offset text with
  | .after front => some (text.drop front.length)
  | _ => none

theorem fromByte?_eq_some_iff {offset : Nat} {text rest : Text} :
    fromByte? offset text = some rest ↔
      ∃ front, text = front ++ rest ∧ byteLength front = offset := by
  constructor
  · intro found
    unfold fromByte? at found
    split at found
    case h_1 front cut =>
      obtain ⟨⟨back, rfl⟩, bytes⟩ := cutBytes_eq_after_iff.mp cut
      rw [List.drop_left, Option.some.injEq] at found
      exact ⟨front, by rw [found], bytes⟩
    case h_2 => contradiction
  · rintro ⟨front, rfl, rfl⟩
    rw [fromByte?, cutBytes_append]
    simp

end BnfParsing.Text
