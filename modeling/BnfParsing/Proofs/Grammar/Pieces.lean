import BnfParsing.Proofs.Grammar.Spelling
import BnfParsing.Proofs.Text.Offsets
import Mathlib.Data.List.Infix

/-!
Contract: what resolving escapes does, told by the pieces of a text.

The pieces are the pairs of backslashes that are met from left to right, and all other
characters. An escape starts where a backslash and a `u` are two pieces in a row. Resolving
fails at the first such place without four digits behind it; if there is none, it replaces
the escapes, those that follow one another together, and keeps all other pieces.

Owns:
- the pieces of a text, and those of escapes in a row;
- places at which an escape is malformed, the first of them, and what an error shows of it;
- the pieces with each maximal run of escapes replaced;
- resolving in these terms.

Does not own: the characters that code units stand for.
-/

set_option autoImplicit false

namespace BnfParsing.Escape

variable {units : List Nat} {text front rest resolved : Text} {character : Char}

/-! ## Pieces -/

/-- A text from left to right: each pair of backslashes is one piece, and so is each other
character. -/
def pieces : Text → List Text
  | [] => []
  | '\\' :: '\\' :: rest => ['\\', '\\'] :: pieces rest
  | character :: rest => [character] :: pieces rest

theorem pieces_cons (notPair : character = '\\' → rest.head? ≠ some '\\') :
    pieces (character :: rest) = [character] :: pieces rest := by
  rw [pieces]
  rintro others rfl rfl
  exact notPair rfl rfl

theorem flatten_pieces (text : Text) : (pieces text).flatten = text := by
  fun_induction pieces text with
  | case1 => rfl
  | case2 rest inductionHypothesis =>
      rw [List.flatten_cons, inductionHypothesis]
      rfl
  | case3 character rest _ inductionHypothesis =>
      rw [List.flatten_cons, inductionHypothesis, List.singleton_append]

/-- A text whose first piece is known starts with this piece. -/
theorem exists_of_pieces_eq_cons {piece : Text} {others : List Text}
    (cut : pieces text = piece :: others) :
    ∃ rest, text = piece ++ rest ∧ pieces rest = others ∧
      (piece = ['\\', '\\'] ∨
        ∃ character, piece = [character] ∧ (character = '\\' → rest.head? ≠ some '\\')) := by
  fun_cases pieces text with
  | case1 => cases cut
  | case2 rest =>
      cases cut
      exact ⟨rest, rfl, rfl, .inl rfl⟩
  | case3 character rest notPairCons =>
      have notPair : character = '\\' → rest.head? ≠ some '\\' := by
        intro backslash starts
        obtain ⟨others, rfl⟩ := List.head?_eq_some_iff.mp starts
        exact notPairCons others backslash rfl
      rw [pieces_cons notPair] at cut
      cases cut
      exact ⟨rest, rfl, rfl, .inr ⟨character, rfl, notPair⟩⟩

theorem pieces_append (noBackslash : '\\' ∉ front) (rest : Text) :
    pieces (front ++ rest) = front.map (fun character => [character]) ++ pieces rest := by
  induction front with
  | nil => rfl
  | cons first front inductionHypothesis =>
      rw [List.mem_cons, not_or] at noBackslash
      rw [List.cons_append, pieces_cons fun same => absurd same.symm noBackslash.1,
        inductionHypothesis noBackslash.2, List.map_cons, List.cons_append]

/-- The pieces with which an escape starts. -/
def opening : List Text := [['\\'], ['u']]

theorem pieces_opening_append (noBackslash : '\\' ∉ front) (rest : Text) :
    pieces ('\\' :: 'u' :: front ++ rest) =
      opening ++ (front.map (fun character => [character]) ++ pieces rest) := by
  have backslashAlone : pieces ('\\' :: ('u' :: (front ++ rest))) =
      ['\\'] :: pieces ('u' :: (front ++ rest)) := pieces_cons (by simp)
  rw [List.cons_append, List.cons_append, backslashAlone, pieces_cons (by simp),
    pieces_append noBackslash]
  rfl

theorem opening_prefix_pieces_iff :
    opening <+: pieces text ↔ ∃ rest, text = '\\' :: 'u' :: rest := by
  constructor
  · rintro ⟨others, cut⟩
    obtain ⟨rest, rfl, later, -⟩ := exists_of_pieces_eq_cons cut.symm
    obtain ⟨rest, rfl, -, -⟩ := exists_of_pieces_eq_cons later
    exact ⟨rest, rfl⟩
  · rintro ⟨rest, rfl⟩
    exact ⟨pieces rest, (pieces_opening_append List.not_mem_nil rest).symm⟩

theorem not_opening_prefix (notUnit : character = '\\' → rest.head? ≠ some 'u') :
    ¬ opening <+: pieces (character :: rest) := by
  rw [opening_prefix_pieces_iff]
  rintro ⟨others, split⟩
  cases split
  exact notUnit rfl rfl

theorem noBackslash_digits (isUpper : Nat → Bool) {unit : Nat} (bounded : unit < 0x10000) :
    '\\' ∉ digits isUpper unit := by
  intro member
  have read : ∃ value, unit? _ _ _ _ = some value :=
    ⟨unit, unit?_eq_some_iff.mpr ⟨bounded, isUpper, rfl⟩⟩
  exact (exists_unit?_iff.mp read '\\' member).ne_backslash rfl

theorem pieces_escapes_append {isUpper : Nat → Nat → Bool}
    (bounded : ∀ unit ∈ units, unit < 0x10000) (rest : Text) :
    pieces (escapes isUpper units ++ rest) =
      (escapes isUpper units).map (fun character => [character]) ++ pieces rest := by
  induction units generalizing isUpper with
  | nil => rfl
  | cons unit units inductionHypothesis =>
      rw [List.forall_mem_cons] at bounded
      rw [escapes, List.append_assoc, pieces_opening_append (noBackslash_digits _ bounded.1),
        inductionHypothesis bounded.2, List.map_append, List.append_assoc]
      rfl

/-! ## Malformed escapes -/

/-- Four digits in front, each a piece of its own. -/
def StartsWithDigits (all : List Text) : Prop :=
  ∃ first second third fourth others,
    all = [first] :: [second] :: [third] :: [fourth] :: others ∧
      ∀ character ∈ [first, second, third, fourth], IsDigit character

/-- An escape without its four digits in front. -/
def IsMalformed (tail : List Text) : Prop :=
  ∃ after, tail = opening ++ after ∧ ¬ StartsWithDigits after

theorem IsMalformed.opening_prefix {tail : List Text} (malformed : IsMalformed tail) :
    opening <+: tail := by
  obtain ⟨after, rfl, -⟩ := malformed
  exact List.prefix_append _ _

/-- What is left of the pieces from the first malformed escape on. -/
structure FirstMalformed (all tail : List Text) : Prop where
  suffix : tail <:+ all
  malformed : IsMalformed tail
  first : ∀ other, other <:+ all → IsMalformed other → other <:+ tail

theorem IsMalformed.firstMalformed {all : List Text} (malformed : IsMalformed all) :
    FirstMalformed all all :=
  ⟨List.suffix_rfl, malformed, fun _ suffix _ => suffix⟩

/-- The first malformed escape is the same behind pieces at which there is none. -/
theorem FirstMalformed.of_suffix {all others tail : List Text}
    (firstMalformed : FirstMalformed others tail) (behind : others <:+ all)
    (later : ∀ other, other <:+ all → IsMalformed other → other <:+ others) :
    FirstMalformed all tail :=
  ⟨firstMalformed.suffix.trans behind, firstMalformed.malformed,
    fun other suffix malformed =>
      firstMalformed.first other (later other suffix malformed) malformed⟩

theorem not_isMalformed_cons {piece : Text} (notBackslash : piece ≠ ['\\']) (others : List Text) :
    ¬ IsMalformed (piece :: others) := by
  rintro ⟨after, cut, -⟩
  exact notBackslash (List.cons.inj cut).1

/-- Malformed escapes stand behind the pieces that are no single backslashes. -/
theorem IsMalformed.suffix_of_append {front others tail : List Text} (malformed : IsMalformed tail)
    (noBackslash : ∀ piece ∈ front, piece ≠ ['\\']) (suffix : tail <:+ front ++ others) :
    tail <:+ others := by
  induction front with
  | nil => exact suffix
  | cons piece front inductionHypothesis =>
      rw [List.forall_mem_cons] at noBackslash
      rw [List.cons_append, List.suffix_cons_iff] at suffix
      rcases suffix with rfl | behind
      · exact absurd malformed (not_isMalformed_cons noBackslash.1 _)
      · exact inductionHypothesis noBackslash.2 behind

section Escape

variable {first second third fourth : Char}

theorem pieces_escape (digits : ∀ character ∈ [first, second, third, fourth], IsDigit character)
    (rest : Text) :
    pieces ('\\' :: 'u' :: first :: second :: third :: fourth :: rest) =
      opening ++ ([[first], [second], [third], [fourth]] ++ pieces rest) := by
  have noBackslash : '\\' ∉ [first, second, third, fourth] :=
    fun member => (digits _ member).ne_backslash rfl
  exact pieces_opening_append noBackslash rest

/-- Malformed escapes stand behind the escapes that are not. -/
theorem IsMalformed.suffix_of_escape {tail : List Text} (malformed : IsMalformed tail)
    (digits : ∀ character ∈ [first, second, third, fourth], IsDigit character)
    (suffix : tail <:+ pieces ('\\' :: 'u' :: first :: second :: third :: fourth :: rest)) :
    tail <:+ pieces rest := by
  rw [pieces_escape digits, opening, List.cons_append, List.suffix_cons_iff] at suffix
  rcases suffix with rfl | behind
  · obtain ⟨after, cut, noDigits⟩ := malformed
    cases cut
    exact absurd ⟨first, second, third, fourth, pieces rest, rfl, digits⟩ noDigits
  · have front : ∀ piece ∈ ['u'] :: [first, second, third, fourth].map fun character => [character],
        piece ≠ ['\\'] := by
      rw [List.forall_mem_cons, List.forall_mem_map]
      refine ⟨by decide, fun character member same => ?_⟩
      exact (digits character member).ne_backslash (List.singleton_inj.mp same)
    exact malformed.suffix_of_append front behind

/-- An escape is malformed where it has fewer than four digits. -/
theorem isMalformed_pieces {rest : Text}
    (noDigits : ∀ first second third fourth back,
      rest = first :: second :: third :: fourth :: back →
        unit? first second third fourth = none) :
    IsMalformed (pieces ('\\' :: 'u' :: rest)) := by
  refine ⟨pieces rest, pieces_opening_append List.not_mem_nil rest, ?_⟩
  rintro ⟨first, second, third, fourth, others, cut, digits⟩
  have flattened := flatten_pieces rest
  rw [cut] at flattened
  obtain ⟨unit, read⟩ := exists_unit?_iff.mpr digits
  rw [noDigits first second third fourth others.flatten flattened.symm] at read
  cases read

end Escape

/-- No escape is malformed at a character that is neither part of an escape nor of a pair. -/
theorem IsMalformed.suffix_of_plain {tail : List Text} (malformed : IsMalformed tail)
    (notEscape : character = '\\' → rest.head? ≠ some 'u' ∧ rest.head? ≠ some '\\')
    (suffix : tail <:+ pieces (character :: rest)) : tail <:+ pieces rest := by
  have noOpening : ¬ opening <+: pieces (character :: rest) :=
    not_opening_prefix fun backslash => (notEscape backslash).1
  rw [pieces_cons fun backslash => (notEscape backslash).2] at noOpening suffix
  rw [List.suffix_cons_iff] at suffix
  rcases suffix with rfl | behind
  · exact absurd malformed.opening_prefix noOpening
  · exact behind

/-- A text that is resolved has no malformed escape. -/
theorem Resolves.not_isMalformed (resolves : Resolves units text resolved) :
    ∀ tail, tail <:+ pieces text → ¬ IsMalformed tail := by
  induction resolves with
  | done =>
      rintro tail suffix ⟨after, rfl, -⟩
      cases List.suffix_nil.mp suffix
  | unit value _ inductionHypothesis =>
      intro tail suffix malformed
      have digits := exists_unit?_iff.mp ⟨_, value⟩
      exact inductionHypothesis tail (malformed.suffix_of_escape digits suffix) malformed
  | pair units _ inductionHypothesis =>
      intro tail suffix malformed
      exact inductionHypothesis tail
        (malformed.suffix_of_append (List.forall_mem_singleton.mpr (by decide)) suffix) malformed
  | plain units notEscape _ inductionHypothesis =>
      intro tail suffix malformed
      exact inductionHypothesis tail (malformed.suffix_of_plain notEscape suffix) malformed

/-- A text that is not resolved has a first malformed escape, which the error shows. -/
theorem exists_firstMalformed {excerpt : Text} (failed : resolveFrom units text = .error excerpt) :
    ∃ tail, FirstMalformed (pieces text) tail ∧ excerpt = shown tail.flatten := by
  fun_induction resolveFrom units text with
  | case1 => cases failed
  | case2 units first second third fourth rest unit value inductionHypothesis =>
      obtain ⟨tail, firstMalformed, shownIs⟩ := inductionHypothesis failed
      have digits := exists_unit?_iff.mp ⟨_, value⟩
      refine ⟨tail, firstMalformed.of_suffix ?_ ?_, shownIs⟩
      · rw [pieces_escape digits, ← List.append_assoc]
        exact List.suffix_append _ _
      · exact fun other suffix malformed => malformed.suffix_of_escape digits suffix
  | case3 units first second third fourth rest noUnit =>
      cases failed
      have malformed :
          IsMalformed (pieces ('\\' :: 'u' :: first :: second :: third :: fourth :: rest)) :=
        isMalformed_pieces fun _ _ _ _ _ same => by
          cases same
          exact noUnit
      exact ⟨_, malformed.firstMalformed, by rw [flatten_pieces]⟩
  | case4 units rest noEscape =>
      cases failed
      have malformed : IsMalformed (pieces ('\\' :: 'u' :: rest)) :=
        isMalformed_pieces fun first second third fourth back same =>
          absurd same (noEscape first second third fourth back)
      exact ⟨_, malformed.firstMalformed, by rw [flatten_pieces]⟩
  | case5 units rest inductionHypothesis =>
      obtain ⟨tail, firstMalformed, shownIs⟩ :=
        inductionHypothesis (map_eq_error_iff.mp failed)
      refine ⟨tail, firstMalformed.of_suffix (List.suffix_cons _ _) ?_, shownIs⟩
      exact fun other suffix malformed =>
        malformed.suffix_of_append (List.forall_mem_singleton.mpr (by decide)) suffix
  | case6 units character rest _ notUnit notPair inductionHypothesis =>
      have notEscape := not_escape_of_not_cons notUnit notPair
      obtain ⟨tail, firstMalformed, shownIs⟩ :=
        inductionHypothesis (map_eq_error_iff.mp failed)
      refine ⟨tail, firstMalformed.of_suffix ?_ ?_, shownIs⟩
      · rw [pieces_cons fun backslash => (notEscape backslash).2]
        exact List.suffix_cons _ _
      · exact fun other suffix malformed => malformed.suffix_of_plain notEscape suffix

/-- What is shown of a malformed escape starts as the escape does. -/
theorem exists_shown_eq (rest : Text) :
    ∃ seen, shown ('\\' :: 'u' :: rest) = '\\' :: 'u' :: seen ∧ seen <+: rest := by
  have cut : Text.cutBytes 6 ('\\' :: 'u' :: rest) =
      ((Text.cutBytes 4 rest).cons 'u').cons '\\' := rfl
  unfold shown
  rw [cut]
  cases seenCut : Text.cutBytes 4 rest with
  | short => exact ⟨rest, rfl, List.prefix_rfl⟩
  | inside => exact ⟨rest, rfl, List.prefix_rfl⟩
  | after seen => exact ⟨seen, rfl, Text.cutBytes_after seenCut⟩

/-- The excerpt in an error starts the escape that is malformed. -/
theorem exists_excerpt {excerpt : Text} (failed : resolveFrom units text = .error excerpt) :
    ∃ tail, FirstMalformed (pieces text) tail ∧ ['\\', 'u'] <+: excerpt ∧
      excerpt <+: tail.flatten := by
  obtain ⟨tail, firstMalformed, rfl⟩ := exists_firstMalformed failed
  obtain ⟨after, split, -⟩ := firstMalformed.malformed
  have flattened : tail.flatten = '\\' :: 'u' :: after.flatten := by
    rw [split]
    rfl
  obtain ⟨seen, shownIs, isPrefix⟩ := exists_shown_eq after.flatten
  refine ⟨tail, firstMalformed, ?_⟩
  rw [flattened, shownIs]
  exact ⟨List.prefix_append ['\\', 'u'] seen,
    (List.prefix_cons_inj '\\').mpr ((List.prefix_cons_inj 'u').mpr isPrefix)⟩

theorem excerpt_infix {excerpt : Text} (failed : resolveFrom units text = .error excerpt) :
    ['\\', 'u'] <+: excerpt ∧ excerpt <:+: text := by
  obtain ⟨tail, firstMalformed, starts, isPrefix⟩ := exists_excerpt failed
  obtain ⟨front, split⟩ := firstMalformed.suffix
  refine ⟨starts, isPrefix.isInfix.trans ?_⟩
  rw [← flatten_pieces text, ← split, List.flatten_append]
  exact (List.suffix_append _ _).isInfix

/-! ## Runs of escapes -/

/-- The text that pieces become when each maximal run of escapes gives way to what its code units
stand for, and every other piece is kept. -/
inductive Restores : List Text → Text → Prop where
  | done : Restores [] []
  | kept {piece restored : Text} {others : List Text}
      (noEscape : ¬ opening <+: piece :: others) (later : Restores others restored) :
      Restores (piece :: others) (piece ++ restored)
  | run {isUpper : Nat → Nat → Bool} {units : List Nat} {decoded restored : Text}
      {others : List Text} (nonempty : units ≠ []) (bounded : ∀ unit ∈ units, unit < 0x10000)
      (decodes : Decodes units decoded) (maximal : ¬ opening <+: others)
      (later : Restores others restored) :
      Restores ((escapes isUpper units).map (fun character => [character]) ++ others)
        (decoded ++ restored)

/-- Where no escape starts, the pieces are all kept. -/
theorem Restores.of_no_opening {all : List Text} (noEscape : ¬ opening <:+: all) :
    Restores all all.flatten := by
  induction all with
  | nil => exact .done
  | cons piece others inductionHypothesis =>
      refine .kept (fun starts => noEscape starts.isInfix) (inductionHypothesis fun inside => ?_)
      exact noEscape (inside.trans (List.suffix_cons piece others).isInfix)

/-- The escapes at the start of a text are read together with the code units in front of it, and
all that follows them as if nothing stood in front. -/
theorem Resolves.exists_run (resolves : Resolves units text resolved) :
    ∃ isUpper later rest resolvedRest,
      text = escapes isUpper later ++ rest ∧ (∀ unit ∈ later, unit < 0x10000) ∧
        resolved = decodeUnits (units.reverse ++ later) ++ resolvedRest ∧
        ¬ opening <+: pieces rest ∧ Resolves [] rest resolvedRest := by
  induction resolves with
  | done units =>
      refine ⟨fun _ _ => false, [], [], [], rfl, List.forall_mem_nil _, ?_, ?_, .done []⟩
      · rw [List.append_nil, List.append_nil]
      · exact fun starts => List.cons_ne_nil _ _ (List.prefix_nil.mp starts)
  | @unit units unit first second third fourth rest resolved value _ inductionHypothesis =>
      obtain ⟨isUpper, later, others, resolvedOthers, rfl, bounded, rfl, noEscape, resolves⟩ :=
        inductionHypothesis
      obtain ⟨small, upperHere, written⟩ := unit?_eq_some_iff.mp value
      refine ⟨fun | 0 => upperHere | place + 1 => isUpper place, unit :: later, others,
        resolvedOthers, ?_, List.forall_mem_cons.mpr ⟨small, bounded⟩, ?_, noEscape, resolves⟩
      · rw [escapes, ← written]
        rfl
      · rw [List.reverse_cons, List.append_assoc, List.singleton_append]
  | @pair units rest resolved others =>
      refine ⟨fun _ _ => false, [], _, _, rfl, List.forall_mem_nil _, ?_, ?_, .pair [] others⟩
      · rw [List.append_nil]
        rfl
      · rw [opening_prefix_pieces_iff]
        rintro ⟨_, split⟩
        cases split
  | plain units notEscape others =>
      refine ⟨fun _ _ => false, [], _, _, rfl, List.forall_mem_nil _, ?_,
        not_opening_prefix fun backslash => (notEscape backslash).1, .plain [] notEscape others⟩
      rw [List.append_nil]
      rfl

/-- Where no escape starts, the code units in front are replaced on their own. -/
theorem Resolves.behind (resolves : Resolves [] text resolved)
    (noEscape : ¬ opening <+: pieces text) (units : List Nat) :
    Resolves units text (decodeUnits units.reverse ++ resolved) := by
  cases resolves with
  | done =>
      have done := Resolves.done units
      rwa [← List.append_nil (decodeUnits units.reverse)] at done
  | unit => exact absurd (opening_prefix_pieces_iff.mpr ⟨_, rfl⟩) noEscape
  | pair _ others => exact .pair units others
  | plain _ notEscape others => exact .plain units notEscape others

theorem length_lt_length_escapes_append (isUpper : Nat → Nat → Bool) (nonempty : units ≠ [])
    (rest : Text) : rest.length < (escapes isUpper units ++ rest).length := by
  cases units with
  | nil => exact absurd rfl nonempty
  | cons unit units =>
      simp only [escapes, List.length_append, List.length_cons]
      omega

theorem Resolves.restores (resolves : Resolves [] text resolved) :
    Restores (pieces text) resolved := by
  induction size : text.length using Nat.strongRecOn generalizing text resolved with
  | ind _ inductionHypothesis =>
      subst size
      obtain ⟨isUpper, units, rest, resolvedRest, rfl, bounded, rfl, noEscape, resolvesRest⟩ :=
        resolves.exists_run
      by_cases empty : units = []
      · -- No escape stands in front, so the first piece is kept.
        subst empty
        cases resolvesRest with
        | done => exact .done
        | unit => exact absurd (opening_prefix_pieces_iff.mpr ⟨_, rfl⟩) noEscape
        | pair _ others =>
            refine .kept noEscape (inductionHypothesis _ ?_ others rfl)
            exact Nat.lt_succ_of_lt (Nat.lt_succ_self _)
        | plain _ notEscape others =>
            have cut := pieces_cons fun backslash => (notEscape backslash).2
            rw [cut] at noEscape
            have kept := Restores.kept noEscape
              (inductionHypothesis _ (Nat.lt_succ_self _) others rfl)
            rw [← cut] at kept
            exact kept
      · have shorter := length_lt_length_escapes_append isUpper empty rest
        rw [pieces_escapes_append bounded]
        exact .run empty bounded ((decodeUnits_eq_iff bounded).mp rfl) noEscape
          (inductionHypothesis _ shorter resolvesRest rfl)

theorem Restores.resolves {all : List Text} (restores : Restores all resolved)
    (cut : pieces text = all) : Resolves [] text resolved := by
  induction restores generalizing text with
  | done =>
      have empty := flatten_pieces text
      rw [cut] at empty
      rw [← empty]
      exact .done []
  | kept noEscape later inductionHypothesis =>
      obtain ⟨rest, rfl, cutRest, rfl | ⟨character, rfl, notPair⟩⟩ := exists_of_pieces_eq_cons cut
      · exact .pair [] (inductionHypothesis cutRest)
      · refine .plain [] (fun backslash => ⟨fun starts => ?_, notPair backslash⟩)
          (inductionHypothesis cutRest)
        obtain ⟨others, rfl⟩ := List.head?_eq_some_iff.mp starts
        subst backslash
        rw [← cut] at noEscape
        exact noEscape (opening_prefix_pieces_iff.mpr ⟨others, rfl⟩)
  | @run isUpper units decoded restored others nonempty bounded decodes maximal later
      inductionHypothesis =>
      have split : text = escapes isUpper units ++ others.flatten := by
        rw [← flatten_pieces text, cut, List.flatten_append]
        exact congrArg (· ++ others.flatten) (List.flatMap_singleton' _)
      rw [split, pieces_escapes_append bounded, List.append_cancel_left_eq] at cut
      have behind := (inductionHypothesis cut).behind (by rwa [cut]) units.reverse
      rw [List.reverse_reverse, (decodeUnits_eq_iff bounded).mpr decodes] at behind
      rw [split]
      refine .escapes_append bounded ?_
      rwa [List.append_nil]

/-- Resolving fails exactly where an escape that no pair of backslashes hides lacks its four
digits, and quotes the text from the first one on. It keeps a text without escapes, and otherwise
replaces each maximal run of them by what its code units stand for. -/
theorem resolve_by_pieces (text : Text) :
    ((∃ excerpt, resolve text = .error excerpt) ↔
        ∃ tail, tail <:+ pieces text ∧ IsMalformed tail) ∧
      (∀ excerpt, resolve text = .error excerpt →
        ∃ tail, FirstMalformed (pieces text) tail ∧ ['\\', 'u'] <+: excerpt ∧
          excerpt <+: tail.flatten) ∧
      (¬ opening <:+: pieces text → resolve text = .ok text) ∧
      ∀ resolved, resolve text = .ok resolved ↔ Restores (pieces text) resolved := by
  have resolves_iff : ∀ resolved, resolve text = .ok resolved ↔ Restores (pieces text) resolved :=
    fun resolved => resolve_eq_ok_iff.trans
      ⟨Resolves.restores, fun restores => restores.resolves rfl⟩
  refine ⟨⟨?fails, ?malformed⟩, fun _ => exists_excerpt, ?keeps, resolves_iff⟩
  case fails =>
    rintro ⟨excerpt, failed⟩
    obtain ⟨tail, firstMalformed, -⟩ := exists_firstMalformed failed
    exact ⟨tail, firstMalformed.suffix, firstMalformed.malformed⟩
  case malformed =>
    rintro ⟨tail, suffix, malformed⟩
    cases result : resolve text with
    | error excerpt => exact ⟨excerpt, rfl⟩
    | ok resolved =>
        exact absurd malformed ((resolve_eq_ok_iff.mp result).not_isMalformed tail suffix)
  case keeps =>
    intro noEscape
    have kept := Restores.of_no_opening noEscape
    rw [flatten_pieces] at kept
    exact (resolves_iff text).mpr kept

/-- Pairs of backslashes, the escape behind one of them, and the escapes of a character and of
half a character. -/
example :
    resolve "\\\\u0041\\\\\\u0041x\\uD83d\\uDe00\\uD83D".toList =
      .ok "\\\\u0041\\\\Ax😀\uFFFD".toList := by
  cbv

/-- The four characters behind the first escape are no digits, since a pair is among them. -/
example : resolve "a\\u12\\\\u".toList = .error "\\u12\\\\".toList := by
  rfl

end BnfParsing.Escape
