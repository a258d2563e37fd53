import BnfParsing.Failure
import BnfParsing.Proofs.Derivation.Notes
import Mathlib.Data.List.Chain

/-!
Contract: notes tell of a derivation and have no part in it.

A level only decides which notes are taken. So a search at some level is the search at
the highest one without the notes that the level leaves out. Each rule that is
considered is noted before the rules that its alternatives refer to, and these are
nested one level deeper.

Owns:
- parsers at another level, and computations without some of their notes;
- the depths of the rules that a search considers, in the order of the notes;
- depth and kind of a record, read off its message.

Does not own: what is noted on alternatives that fail.
-/

set_option autoImplicit false

namespace BnfParsing

/-! ## Levels -/

theorem Event.takes_trace (event : Event) : LogLevel.trace.takes event.level = true := by
  cases event <;> rfl

namespace Traced

variable {α β : Type} {level : LogLevel}

/-- The computation with those of its notes that a level takes. -/
def kept (level : LogLevel) (computation : Traced α) : Traced α :=
  ⟨computation.events.filter fun event => level.takes event.level, computation.result⟩

theorem kept_bind (first : Traced α) (next : α → Traced β) :
    (first >>= next).kept level = first.kept level >>= fun value => (next value).kept level := by
  apply Traced.ext
  · rw [kept, events_bind, events_bind, kept, List.filter_append]
    cases first.result <;> rfl
  · rw [kept, result_bind, result_bind]
    rfl

@[simp]
theorem kept_map (change : α → β) (computation : Traced α) :
    (change <$> computation).kept level = change <$> computation.kept level := by
  rw [← bind_pure_comp, kept_bind, ← bind_pure_comp]
  rfl

/-- Every note is taken at the highest level. -/
@[simp]
theorem kept_note (event : Event) : (note .trace event).kept level = note level event := by
  simp only [note, kept, event.takes_trace, if_true, List.filter_singleton]
  cases level.takes event.level <;> rfl

theorem kept_note_bind {event : Event} {next rest : Unit → Traced β}
    (same : (next ()).kept level = rest ()) :
    (note .trace event >>= next).kept level = note level event >>= rest := by
  rw [kept_bind, kept_note]
  exact bind_congr fun _ => same

end Traced

namespace Parser

/-- The parser with another level of notes. -/
def withLevel (parser : Parser) (level : LogLevel) : Parser := { parser with level := level }

variable {parser : Parser} {level : LogLevel} {depth : Nat} {alternative : Alternative}
variable {nested : Rule → Text → Traced (Option (Tree × Text))}

theorem noteMismatch_kept (symbol : Symbol) (cursor : Text) :
    ((parser.withLevel .trace).noteMismatch depth alternative symbol cursor).kept level =
      (parser.withLevel level).noteMismatch depth alternative symbol cursor := by
  unfold noteMismatch
  split
  · rfl
  · exact Traced.kept_note _

theorem matchSymbols_kept (symbols : List Symbol) (text : Text) :
    ((parser.withLevel .trace).matchSymbols nested depth alternative symbols text).kept level =
      (parser.withLevel level).matchSymbols (fun rule cursor => (nested rule cursor).kept level)
        depth alternative symbols text := by
  induction symbols generalizing text with
  | nil => rfl
  | cons symbol symbols inductionHypothesis =>
      -- a level has no part in how a symbol is read
      have sameReading : (parser.withLevel level).reading (Text.trimStart text) symbol =
          (parser.withLevel .trace).reading (Text.trimStart text) symbol := rfl
      rw [matchSymbols_cons_eq, matchSymbols_cons_eq, sameReading]
      cases (parser.withLevel .trace).reading (Text.trimStart text) symbol with
      | complete => rfl
      | leaf leaf rest => rw [Traced.kept_map, inductionHypothesis]
      | nested rule =>
          rw [Traced.kept_bind]
          refine bind_congr fun derived => ?_
          rcases derived with _ | ⟨child, rest⟩
          · exact Traced.kept_note_bind rfl
          · rw [Traced.kept_map, inductionHypothesis]
      | missing name => rfl
      | mismatch =>
          rw [Traced.kept_bind, noteMismatch_kept]
          rfl

theorem firstMatch_kept (input : Text) (alternatives : List Alternative) :
    ((parser.withLevel .trace).firstMatch nested depth input alternatives).kept level =
      (parser.withLevel level).firstMatch (fun rule cursor => (nested rule cursor).kept level)
        depth input alternatives := by
  induction alternatives with
  | nil => rfl
  | cons first others inductionHypothesis =>
      rw [firstMatch, firstMatch]
      refine Traced.kept_note_bind ?_
      rw [Traced.kept_bind, matchSymbols_kept]
      refine bind_congr fun found => ?_
      cases found with
      | none => exact inductionHypothesis
      | some matched =>
          dsimp only
          split
          · exact Traced.kept_note_bind inductionHypothesis
          · rfl

theorem derive_kept (levels : Nat) (rule : Rule) (input : Text) :
    (derive (parser.withLevel .trace) levels depth rule input).kept level =
      derive (parser.withLevel level) levels depth rule input := by
  induction levels generalizing depth rule input with
  | zero => rfl
  | succ levels inductionHypothesis =>
      have sameNested : (fun rule cursor =>
          (derive (parser.withLevel .trace) levels (depth + 1) rule cursor).kept level) =
            derive (parser.withLevel level) levels (depth + 1) := by
        funext rule cursor
        exact inductionHypothesis rule cursor
      rw [derive, derive]
      refine Traced.kept_note_bind ?_
      rw [Traced.kept_bind, firstMatch_kept, sameNested]
      refine bind_congr fun found => ?_
      cases found with
      | none => exact Traced.kept_note_bind rfl
      | some matched =>
          dsimp only
          split
          · exact Traced.kept_note_bind rfl
          · rfl

/-- A search at some level is the search at the highest level without the notes that
the level does not take. -/
theorem tryParse_kept (parser : Parser) (level : LogLevel) (input : Text) :
    ((parser.withLevel .trace).tryParse input).kept level =
      (parser.withLevel level).tryParse input := by
  rw [tryParse, tryParse, Traced.kept_bind]
  exact congrArg (· >>= _) (derive_kept _ _ input)

end Parser

/-! ## Depths -/

/-- The depth at which a rule is considered, if the event is about this. -/
def Event.consideredAt? : Event → Option Nat
  | .considering depth _ _ => some depth
  | _ => none

/-- The depths at which rules are considered, in the order of the events. -/
def consideredAt (events : List Event) : List Nat :=
  events.filterMap Event.consideredAt?

theorem consideredAt_append (earlier later : List Event) :
    consideredAt (earlier ++ later) = consideredAt earlier ++ consideredAt later :=
  List.filterMap_append

/-- Depths that start at `depth`, never come back above it, stay below `bound` and
increase by single steps. -/
structure Descends (depth bound : Nat) (depths : List Nat) : Prop where
  starts : ∀ first ∈ depths.head?, first = depth
  within : ∀ other ∈ depths, depth ≤ other ∧ other < bound
  bySteps : depths.IsChain fun before next => next ≤ before + 1

namespace Descends

variable {depth bound : Nat} {depths earlier later : List Nat}

theorem nil : Descends depth bound [] where
  starts := by simp
  within := by simp
  bySteps := .nil

theorem append (first : Descends depth bound earlier) (second : Descends depth bound later) :
    Descends depth bound (earlier ++ later) where
  starts other isHead := by
    cases earlier with
    | nil => exact second.starts other isHead
    | cons head rest => exact first.starts other isHead
  within := List.forall_mem_append.mpr ⟨first.within, second.within⟩
  bySteps := by
    refine first.bySteps.append second.bySteps ?_
    -- the later depths start where the earlier ones never come back above
    intro before isLast next isHead
    have least := (first.within before (List.mem_of_getLast? isLast)).1
    have starts := second.starts next isHead
    omega

/-- A rule is considered right before those that are nested in it. -/
theorem cons (inside : depth < bound) (deeper : Descends (depth + 1) bound depths) :
    Descends depth bound (depth :: depths) where
  starts := by simp
  within := by
    rw [List.forall_mem_cons]
    refine ⟨⟨Nat.le_refl _, inside⟩, fun other member => ?_⟩
    have bounds := deeper.within other member
    omega
  bySteps := by
    refine List.isChain_cons.mpr ⟨fun next isHead => ?_, deeper.bySteps⟩
    rw [deeper.starts next isHead]

end Descends

/-- The computation considers rules at depths that descend. -/
def Traced.Descends {α : Type} (depth bound : Nat) (computation : Traced α) : Prop :=
  BnfParsing.Descends depth bound (consideredAt computation.events)

namespace Traced

variable {α β : Type} {depth bound : Nat} {level : LogLevel} {event : Event}

theorem Descends.bind {first : Traced α} {next : α → Traced β}
    (firstDescends : first.Descends depth bound)
    (nextDescends : ∀ value, (next value).Descends depth bound) :
    (first >>= next).Descends depth bound := by
  rw [Traced.Descends, events_bind, consideredAt_append]
  refine firstDescends.append ?_
  cases first.result with
  | error found => exact .nil
  | ok value => exact nextDescends value

theorem Descends.map {computation : Traced α} (descends : computation.Descends depth bound)
    (change : α → β) : (change <$> computation).Descends depth bound := by
  rwa [Traced.Descends, events_map]

/-- A note about anything else adds no depth. -/
theorem descends_note (other : event.consideredAt? = none) :
    (note level event).Descends depth bound := by
  rw [Traced.Descends, note]
  split
  · rw [consideredAt, List.filterMap_cons, other]
    exact .nil
  · exact .nil

end Traced

namespace Parser

variable {parser : Parser} {depth bound : Nat} {alternative : Alternative}
variable {nested : Rule → Text → Traced (Option (Tree × Text))}

theorem matchSymbols_descends
    (nestedDescend : ∀ rule cursor, (nested rule cursor).Descends (depth + 1) bound)
    (symbols : List Symbol) (text : Text) :
    (parser.matchSymbols nested depth alternative symbols text).Descends (depth + 1) bound := by
  induction symbols generalizing text with
  | nil => exact .nil
  | cons symbol symbols inductionHypothesis =>
      rw [matchSymbols_cons_eq]
      cases parser.reading (Text.trimStart text) symbol with
      | complete => exact .nil
      | leaf leaf rest => exact (inductionHypothesis rest).map _
      | nested rule =>
          refine (nestedDescend rule _).bind fun derived => ?_
          rcases derived with _ | ⟨child, rest⟩
          · exact (Traced.descends_note rfl).bind fun _ => .nil
          · exact (inductionHypothesis rest).map _
      | missing name => exact .nil
      | mismatch =>
          refine Traced.Descends.bind ?_ fun _ => .nil
          unfold noteMismatch
          split
          · exact .nil
          · exact Traced.descends_note rfl

theorem firstMatch_descends
    (nestedDescend : ∀ rule cursor, (nested rule cursor).Descends (depth + 1) bound)
    (input : Text) (alternatives : List Alternative) :
    (parser.firstMatch nested depth input alternatives).Descends (depth + 1) bound := by
  induction alternatives with
  | nil => exact .nil
  | cons first others inductionHypothesis =>
      rw [firstMatch]
      refine (Traced.descends_note rfl).bind fun _ => ?_
      refine (matchSymbols_descends nestedDescend _ _).bind fun found => ?_
      cases found with
      | none => exact inductionHypothesis
      | some matched =>
          dsimp only
          split
          · exact (Traced.descends_note rfl).bind fun _ => inductionHypothesis
          · exact .nil

/-- A rule is considered first, and then, one level deeper, those it refers to. -/
theorem consideredAt_derive_succ (noted : parser.level.takes .debug = true)
    {levels : Nat} (nestedDescend : ∀ rule cursor,
      (derive parser levels (depth + 1) rule cursor).Descends (depth + 1) bound)
    (rule : Rule) (input : Text) :
    ∃ deeper, consideredAt (derive parser (levels + 1) depth rule input).events =
        depth :: deeper ∧ Descends (depth + 1) bound deeper := by
  have isNoted : Traced.note parser.level (.considering depth input rule) =
      ⟨[.considering depth input rule], .ok ()⟩ := by
    rw [Traced.note]
    exact congrArg (Traced.mk · _) (if_pos noted)
  rw [derive, Traced.events_bind, isNoted, consideredAt_append]
  refine ⟨_, rfl, ?_⟩
  refine (firstMatch_descends nestedDescend input rule.tried).bind fun found => ?_
  cases found with
  | none => exact (Traced.descends_note rfl).bind fun _ => .nil
  | some matched =>
      dsimp only
      split
      · exact (Traced.descends_note rfl).bind fun _ => .nil
      · exact .nil

theorem derive_descends (noted : parser.level.takes .debug = true) (levels : Nat)
    (rule : Rule) (input : Text) :
    (derive parser levels depth rule input).Descends depth (depth + levels) := by
  induction levels generalizing depth rule input with
  | zero => exact .nil
  | succ levels inductionHypothesis =>
      have nestedDescend : ∀ rule cursor, (derive parser levels (depth + 1) rule cursor).Descends
          (depth + 1) (depth + (levels + 1)) := by
        intro rule cursor
        have descends : (derive parser levels (depth + 1) rule cursor).Descends (depth + 1)
            (depth + 1 + levels) := inductionHypothesis rule cursor
        rwa [Nat.add_assoc, Nat.add_comm 1] at descends
      obtain ⟨deeper, depths, descends⟩ := consideredAt_derive_succ noted nestedDescend rule input
      rw [Traced.Descends, depths]
      exact descends.cons (by omega)

end Parser

/-! ## Records -/

namespace LogRecord

/-- The number of spaces in front of the message. -/
def indentation (record : LogRecord) : Nat :=
  (record.message.takeWhile (· = ' ')).length

/-- Whether the message says that a rule is considered. -/
def isConsidering (record : LogRecord) : Bool :=
  "considering '".toList.isPrefixOf (record.message.dropWhile (· = ' '))

end LogRecord

namespace Event

/-- No wording starts with a space, so the spaces in front of a message can be counted. -/
theorem head?_wording_ne_space (event : Event) : event.wording.head? ≠ some ' ' := by
  cases event <;> exact fun same => absurd (Option.some.inj same) (by decide)

theorem takeWhile_message (event : Event) :
    event.message.takeWhile (· = ' ') = Text.spaces (event.depth * 2) ∧
      event.message.dropWhile (· = ' ') = event.wording := by
  have isSpace : ∀ character ∈ Text.spaces (event.depth * 2), decide (character = ' ') = true := by
    intro character member
    exact decide_eq_true (List.eq_of_mem_replicate member)
  have flush := event.head?_wording_ne_space
  rw [message, List.takeWhile_append_of_pos isSpace, List.dropWhile_append_of_pos isSpace]
  cases wording : event.wording with
  | nil => exact ⟨List.append_nil _, rfl⟩
  | cons first rest =>
      have notSpace : first ≠ ' ' := by
        simpa [wording] using flush
      simp [notSpace]

theorem indentation_record (event : Event) : event.record.indentation = 2 * event.depth := by
  show (event.message.takeWhile (· = ' ')).length = _
  rw [event.takeWhile_message.1, Text.spaces, List.length_replicate, Nat.mul_comm]

theorem isConsidering_record (event : Event) :
    event.record.isConsidering = event.consideredAt?.isSome := by
  show "considering '".toList.isPrefixOf (event.message.dropWhile (· = ' ')) = _
  rw [event.takeWhile_message.2]
  cases event with
  | considering depth input rule =>
      have isPrefix : "considering '".toList <+: (considering depth input rule).wording := by
        show "considering '".toList <+:
          "considering '".toList ++ input ++ "' with rule ".toList ++ rule.display
        exact ((List.prefix_append _ _).trans (List.prefix_append _ _)).trans
          (List.prefix_append _ _)
      exact List.isPrefixOf_iff_prefix.mpr isPrefix
  | _ => rfl

end Event

theorem map_indentation_records (events : List Event) :
    ((events.map Event.record).filter LogRecord.isConsidering).map LogRecord.indentation =
      (consideredAt events).map (2 * ·) := by
  induction events with
  | nil => rfl
  | cons event others inductionHypothesis =>
      rw [List.map_cons, List.filter_cons, event.isConsidering_record, consideredAt,
        List.filterMap_cons]
      cases event with
      | considering depth input rule =>
          rw [← consideredAt]
          simp only [Event.consideredAt?, Option.isSome_some, if_true, List.map_cons,
            inductionHypothesis, Event.indentation_record, Event.depth]
      | _ => exact inductionHypothesis

/-- The records of a parse. -/
def Parser.records (parser : Parser) (input : Text) : List LogRecord :=
  (parser.parse input).1.map Event.record

theorem Parser.parse_withLevel (parser : Parser) (level : LogLevel) (input : Text) :
    (parser.withLevel level).parse input =
      (((parser.withLevel .trace).parse input).1.filter fun event => level.takes event.level,
        ((parser.withLevel .trace).parse input).2) := by
  rw [Parser.parse, ← tryParse_kept]
  rfl

/-- The start rule is considered first, and every other rule is nested in it. -/
theorem Parser.consideredAt_parse (parser : Parser) (noted : parser.level.takes .debug = true)
    (input : Text) :
    ∃ deeper, consideredAt (parser.parse input).1 = 0 :: deeper ∧
      Descends 1 (1 + parser.limit) deeper := by
  have events : (parser.parse input).1 =
      (derive parser (parser.limit + 1) 0 parser.start input).events := by
    show (parser.tryParse input).events = _
    rw [tryParse, bind_pure_comp, Traced.events_map]
  rw [events]
  exact consideredAt_derive_succ noted (derive_descends noted parser.limit) parser.start input

/-- The outcome of a parse is the same at every level, and its records are those of the
highest level as far as the level takes them. The rules that are considered at a level
that takes note of them are indented by two spaces per depth: the first at depth zero,
each next one at most one deeper than the one before, none deeper than the limit. -/
theorem Parser.logging_only_observes (parser : Parser) (input : Text) (level other : LogLevel) :
    ((parser.withLevel level).parse input).2 = ((parser.withLevel other).parse input).2 ∧
      (parser.withLevel level).records input =
        ((parser.withLevel .trace).records input).filter (fun record => level.takes record.level) ∧
      (level.takes .debug = true →
        ∃ depths : List Nat,
          depths = consideredAt ((parser.withLevel level).parse input).1 ∧
          (((parser.withLevel level).records input).filter LogRecord.isConsidering).map
            LogRecord.indentation = depths.map (2 * ·) ∧
          depths.head? = some 0 ∧ depths.IsChain (fun before next => next ≤ before + 1) ∧
          ∀ depth ∈ depths, depth ≤ parser.limit) := by
  refine ⟨?_, ?_, fun noted => ?_⟩
  · rw [parse_withLevel parser level, parse_withLevel parser other]
  · rw [records, parse_withLevel parser level, records, List.filter_map]
    rfl
  · obtain ⟨deeper, depths, descends⟩ :=
      (parser.withLevel level).consideredAt_parse noted input
    have whole : Descends 0 (1 + parser.limit) (0 :: deeper) := descends.cons (by omega)
    refine ⟨0 :: deeper, depths.symm, ?_, rfl, whole.bySteps, fun depth member => ?_⟩
    · rw [records, map_indentation_records, depths]
    · have bound := (whole.within depth member).2
      omega

/-- A rule that refers to itself in front, under a small limit. -/
def Parser.shallow : Parser where
  grammar :=
    { rules :=
        [⟨"<S>".toList,
          [{ symbols := [.terminal ['b'] true] },
            { symbols := [.nonTerminal "<S>".toList, .terminal ['a'] true] }]⟩]
      names_nodup := by decide }
  start :=
    ⟨"<S>".toList,
      [{ symbols := [.terminal ['b'] true] },
        { symbols := [.nonTerminal "<S>".toList, .terminal ['a'] true] }]⟩
  start_mem := List.mem_cons_self
  limit := 1
  partialInput := false
  level := .off

/-- The limit ends the search of the text `a`; what has been considered until then is
recorded all the same. -/
theorem Parser.shallow_logging :
    LogLevel.debug.takes .debug = true ∧
      ((shallow.withLevel .debug).parse ['a']).2.isOk = false ∧
      ∃ depths, depths = consideredAt ((shallow.withLevel .debug).parse ['a']).1 ∧
        depths = [0, 1] ∧
        (((shallow.withLevel .debug).records ['a']).filter LogRecord.isConsidering).map
          LogRecord.indentation = depths.map (2 * ·) := by
  obtain ⟨-, -, whenNoted⟩ := logging_only_observes shallow ['a'] .debug .off
  obtain ⟨depths, considered, indented, -, -, -⟩ := whenNoted rfl
  have both : consideredAt ((shallow.withLevel .debug).parse ['a']).1 = [0, 1] := by
    decide +kernel
  exact ⟨rfl, by decide +kernel, depths, considered, considered.trans both, indented⟩

end BnfParsing
