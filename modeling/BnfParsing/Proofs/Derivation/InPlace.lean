import BnfParsing.Proofs.Derivation.Soundness
import BnfParsing.Proofs.Symbol.Bytes

/-!
Contract: a search that never copies the input but moves a cursor over its bytes.

A cursor is a byte offset into the one input. A cut takes a number of bytes behind
it, whatever they are, and goes wrong if it does not fall between two characters. A
rule is given a cursor and gives one back, also if it fails.

Owns:
- the search in place, step by step beside the search on texts, with every cursor
  that is handed on;
- the agreement of both searches, by which no cut goes wrong.

Does not own: what the search on texts comes to.
-/

set_option autoImplicit false

namespace BnfParsing

/-- Why a search in place ends at once. -/
inductive Mishap where
  /-- A cut falls inside a character or behind the end of the input. -/
  | misplacedCut (offset : Nat)
  | defect (found : Defect)

/-- The cursors that a computation hands on, and its result unless a mishap ended it. -/
structure Placed (α : Type) where
  cursors : List Nat
  result : Except Mishap α

namespace Placed

/-- Goes on with the result, if there is one; cursors follow each other. -/
def andThen {α β : Type} (first : Placed α) (next : α → Placed β) : Placed β :=
  match first.result with
  | .error mishap => ⟨first.cursors, .error mishap⟩
  | .ok value => ⟨first.cursors ++ (next value).cursors, (next value).result⟩

instance : Monad Placed where
  pure value := ⟨[], .ok value⟩
  bind := andThen

/-- Ends the computation. -/
def stop {α : Type} (mishap : Mishap) : Placed α :=
  ⟨[], .error mishap⟩

/-- Hands a cursor on. -/
def handOn (cursor : Nat) : Placed Nat :=
  ⟨[cursor], .ok cursor⟩

/-- The input from a cursor on. -/
def textAt (input : Text) (cursor : Nat) : Placed Text :=
  match Text.fromByte? cursor input with
  | some text => pure text
  | none => stop (.misplacedCut cursor)

/-- The next bytes behind a cursor, and the cursor behind them. -/
def cut (input : Text) (cursor bytes : Nat) : Placed (Text × Nat) := do
  let text ← textAt input cursor
  match Text.cutBytes bytes text with
  | .after front => do
      let behind ← handOn (cursor + bytes)
      return (front, behind)
  | _ => stop (.misplacedCut (cursor + bytes))

end Placed

/-- What the symbols of an alternative matched, and the cursor behind it. -/
structure MatchedAt where
  children : List Tree
  cursor : Nat
  readEpsilon : Bool

/-- One more child in front of a match. -/
def MatchedAt.cons (child : Tree) (matched : MatchedAt) : MatchedAt :=
  { matched with children := child :: matched.children }

namespace Parser

open Placed (textAt cut handOn)

/-- The cursor behind the blanks that follow a cursor. -/
def skipBlanksAt (input : Text) (cursor : Nat) : Placed Nat := do
  let text ← textAt input cursor
  let (_, behind) ← cut input cursor (Text.byteLength text - Text.byteLength (Text.trimStart text))
  return behind

/-- The leaf for the bytes that a symbol takes, and the cursor behind them. -/
def consumeAt (input : Text) (cursor : Nat) (symbol : Symbol) : Placed (Option (Tree × Nat)) := do
  let text ← textAt input cursor
  match (symbol.matchBytes text).consumed with
  | some bytes => do
      let (matched, behind) ← cut input cursor bytes
      return some (Tree.ofMatch matched (symbol.groupTexts matched), behind)
  | none => return none

/-- Matches symbols from left to right. `nested` derives a rule one level deeper and
gives back the cursor that the caller goes on with. -/
def matchSymbolsAt (parser : Parser) (input : Text)
    (nested : Rule → Nat → Placed (Option Tree × Nat)) :
    List Symbol → Nat → Placed (Option MatchedAt)
  | [], cursor => pure (some ⟨[], cursor, false⟩)
  | symbol :: symbols, start => do
      let cursor ← skipBlanksAt input start
      let followedBy (child : Tree) (behind : Nat) : Placed (Option MatchedAt) := do
        let matched ← matchSymbolsAt parser input nested symbols behind
        return matched.map (MatchedAt.cons child)
      match symbol with
      | .epsilon => pure (some ⟨[Tree.leaf []], cursor, true⟩)
      | .nonTerminal name => do
          let text ← textAt input cursor
          if parser.partialInput && name.isPrefixOf text then do
            let (_, behind) ← cut input cursor (Text.byteLength name)
            followedBy (Tree.leaf name) behind
          else
            match parser.grammar.rule? name with
            | none => Placed.stop (.defect (.missingRule name))
            | some rule => do
                let (derived, behind) ← nested rule cursor
                let behind ← handOn behind
                match derived with
                | some child => followedBy child behind
                | none => return none
      | terminal => do
          match ← consumeAt input cursor terminal with
          | some (leaf, behind) => followedBy leaf behind
          | none => return none

/-- The match of the first alternative that succeeds; each one starts at the same
cursor. -/
def firstMatchAt (parser : Parser) (input : Text)
    (nested : Rule → Nat → Placed (Option Tree × Nat)) (depth start : Nat) :
    List Alternative → Placed (Option MatchedAt)
  | [] => pure none
  | alternative :: others => do
      match ← matchSymbolsAt parser input nested alternative.symbols start with
      | none => firstMatchAt parser input nested depth start others
      | some matched => do
          let rest ← textAt input matched.cursor
          if depth = 0 ∧ ¬ Text.isAllBlank rest then
            firstMatchAt parser input nested depth start others
          else return some matched

/-- Derives a rule from a cursor on, and gives back the cursor behind it; if it fails,
the cursor that it was given. -/
def deriveAt (parser : Parser) (input : Text) :
    (levels depth : Nat) → Rule → Nat → Placed (Option Tree × Nat)
  | 0, _, _, _ => Placed.stop (.defect (.limitReached parser.limit))
  | levels + 1, depth, rule, start => do
      match ← firstMatchAt parser input (deriveAt parser input levels (depth + 1)) depth start
        rule.tried with
      | none => return (none, start)
      | some matched =>
          if matched.cursor = start ∧ matched.readEpsilon = false then return (none, start)
          else return (some (Tree.ofRule rule.name matched.children), matched.cursor)

/-- The tree for the whole input, from a cursor at its start. -/
def tryParseAt (parser : Parser) (input : Text) : Placed (Option Tree) := do
  let start ← handOn 0
  let (derived, _) ← deriveAt parser input (parser.limit + 1) 0 parser.start start
  return derived

end Parser

/-! ## Agreement -/

/-- The text is what remains of the input behind a cursor. -/
def Remains (input : Text) (cursor : Nat) (text : Text) : Prop :=
  ∃ front, input = front ++ text ∧ Text.byteLength front = cursor

/-- A cursor moves over the characters in front of the rest of the text that followed
it. -/
def Advances (start : Nat) (text : Text) (cursor : Nat) (rest : Text) : Prop :=
  ∃ passed, text = passed ++ rest ∧ start + Text.byteLength passed = cursor

section Cursors

variable {input text rest further : Text} {start cursor behind : Nat}

theorem Remains.advance (remains : Remains input start text)
    (advances : Advances start text cursor rest) : Remains input cursor rest := by
  obtain ⟨front, rfl, rfl⟩ := remains
  obtain ⟨passed, rfl, rfl⟩ := advances
  exact ⟨front ++ passed, (List.append_assoc ..).symm, Text.byteLength_append front passed⟩

theorem Remains.isBoundary (remains : Remains input cursor text) :
    Text.IsBoundary input cursor := by
  obtain ⟨front, rfl, bytes⟩ := remains
  exact ⟨front, List.prefix_append front text, bytes⟩

theorem Advances.refl (start : Nat) (text : Text) : Advances start text start text :=
  ⟨[], rfl, rfl⟩

theorem Advances.trans (first : Advances start text cursor rest)
    (second : Advances cursor rest behind further) : Advances start text behind further := by
  obtain ⟨passed, rfl, rfl⟩ := first
  obtain ⟨more, rfl, rfl⟩ := second
  refine ⟨passed ++ more, (List.append_assoc ..).symm, ?_⟩
  rw [Text.byteLength_append, Nat.add_assoc]

/-- The cursor stays where it is exactly if no character is passed. -/
theorem Advances.cursor_eq_iff (advances : Advances start text cursor rest) :
    cursor = start ↔ rest.length = text.length := by
  obtain ⟨passed, rfl, rfl⟩ := advances
  cases passed with
  | nil => simp [Text.byteLength]
  | cons character passed =>
      have positive := character.utf8Size_pos
      simp only [Text.byteLength, List.length_append, List.length_cons]
      omega

end Cursors

/-- Two results of a kind: values in relation, or the same defect. -/
inductive SameOutcome {α β : Type} (agree : α → β → Prop) :
    Except Mishap α → Except Defect β → Prop where
  | ok {placed : α} {value : β} (agreed : agree placed value) :
      SameOutcome agree (.ok placed) (.ok value)
  | defect (found : Defect) : SameOutcome agree (.error (.defect found)) (.error found)

/-- The computation in place has the given outcome, and all its cursors stand between
characters. -/
structure Placed.Mirrors {α β : Type} (placed : Placed α) (input : Text)
    (result : Except Defect β) (agree : α → β → Prop) : Prop where
  boundaries : ∀ cursor ∈ placed.cursors, Text.IsBoundary input cursor
  outcome : SameOutcome agree placed.result result

namespace Placed

variable {α β γ δ : Type} {input text rest : Text} {start cursor : Nat}
variable {agree : α → β → Prop} {agreeNext : γ → δ → Prop}

theorem mirrors_pure {placed : α} {value : β} (agreed : agree placed value) :
    (pure placed : Placed α).Mirrors input (.ok value) agree where
  boundaries _ member := absurd member List.not_mem_nil
  outcome := .ok agreed

theorem mirrors_stop (found : Defect) :
    (stop (.defect found) : Placed α).Mirrors input (.error found) agree where
  boundaries _ member := absurd member List.not_mem_nil
  outcome := .defect found

/-- A defect of the first computation is one of the whole; otherwise the second one
decides. -/
theorem Mirrors.bind {first : Placed α} {result : Except Defect β} {next : α → Placed γ}
    {whole : Except Defect δ} (mirrors : first.Mirrors input result agree)
    (onDefect : ∀ found, result = .error found → whole = .error found)
    (onValue : ∀ placed value, result = .ok value → agree placed value →
      (next placed).Mirrors input whole agreeNext) :
    (first >>= next).Mirrors input whole agreeNext := by
  obtain ⟨cursors, outcome⟩ := first
  obtain ⟨boundaries, sameOutcome⟩ := mirrors
  cases sameOutcome with
  | @ok placed value agreed =>
      obtain ⟨nextBoundaries, nextOutcome⟩ := onValue placed value rfl agreed
      refine ⟨?_, nextOutcome⟩
      intro cursor member
      rcases List.mem_append.mp member with inFirst | inNext
      · exact boundaries cursor inFirst
      · exact nextBoundaries cursor inNext
  | defect found =>
      rw [onDefect found rfl]
      exact ⟨boundaries, .defect found⟩

/-- The second computation has a result only if the first one has. -/
theorem exists_of_bind_eq_ok {first : Placed α} {next : α → Placed γ} {value : γ}
    (found : (first >>= next).result = .ok value) :
    ∃ middle, first.result = .ok middle ∧ (next middle).result = .ok value := by
  obtain ⟨cursors, result⟩ := first
  cases result with
  | error mishap => contradiction
  | ok middle => exact ⟨middle, rfl, found⟩

/-- A step that only hands cursors on goes before what it prepares. -/
theorem mirrors_bind_of_eq {first : Placed α} {cursors : List Nat} {value : α}
    {next : α → Placed γ} {result : Except Defect δ} (isFirst : first = ⟨cursors, .ok value⟩)
    (boundaries : ∀ cursor ∈ cursors, Text.IsBoundary input cursor)
    (nextMirrors : (next value).Mirrors input result agreeNext) :
    (first >>= next).Mirrors input result agreeNext := by
  subst isFirst
  refine ⟨?_, nextMirrors.outcome⟩
  intro cursor member
  rcases List.mem_append.mp member with inFirst | inNext
  · exact boundaries cursor inFirst
  · exact nextMirrors.boundaries cursor inNext

/-- A step that hands no cursor on. -/
theorem mirrors_read_bind {first : Placed α} {value : α} {next : α → Placed γ}
    {result : Except Defect δ} (reads : first = ⟨[], .ok value⟩)
    (nextMirrors : (next value).Mirrors input result agreeNext) :
    (first >>= next).Mirrors input result agreeNext :=
  mirrors_bind_of_eq reads (fun _ member => absurd member List.not_mem_nil) nextMirrors

/-- A step that hands on the cursor of a rest of the input. -/
theorem mirrors_move_bind {first : Placed α} {value : α} {next : α → Placed γ}
    {result : Except Defect δ} (moves : first = ⟨[cursor], .ok value⟩)
    (remains : Remains input cursor rest)
    (nextMirrors : (next value).Mirrors input result agreeNext) :
    (first >>= next).Mirrors input result agreeNext := by
  refine mirrors_bind_of_eq moves ?_ nextMirrors
  intro handed member
  rw [List.mem_singleton.mp member]
  exact remains.isBoundary

/-! ### Steps that only read and cut -/

theorem textAt_eq (remains : Remains input cursor text) :
    textAt input cursor = ⟨[], .ok text⟩ := by
  rw [textAt, Text.fromByte?_eq_some_iff.mpr remains]
  rfl

/-- A cut behind whole characters goes well. -/
theorem cut_eq {front : Text} (remains : Remains input cursor (front ++ rest)) :
    cut input cursor (Text.byteLength front) =
      ⟨[cursor + Text.byteLength front], .ok (front, cursor + Text.byteLength front)⟩ := by
  simp only [cut, textAt_eq remains, bind, andThen, Text.cutBytes_append]
  rfl

end Placed

open Placed (textAt cut handOn textAt_eq cut_eq mirrors_pure mirrors_stop mirrors_read_bind
  mirrors_move_bind)

/-- The match in place is the match, with a cursor in front of what is left. -/
structure MatchedAt.Represents (start : Nat) (text : Text) (placed : MatchedAt)
    (matched : Matched) : Prop where
  children_eq : placed.children = matched.children
  readEpsilon_eq : placed.readEpsilon = matched.readEpsilon
  advances : Advances start text placed.cursor matched.rest

/-- What a rule gives back in place: the tree with the cursor behind it, or, if the
rule fails, the cursor that it was given. -/
inductive DerivedAt (start : Nat) (text : Text) :
    Option Tree × Nat → Option (Tree × Text) → Prop where
  | derived {tree : Tree} {cursor : Nat} {rest : Text}
      (advances : Advances start text cursor rest) :
      DerivedAt start text (some tree, cursor) (some (tree, rest))
  | failed : DerivedAt start text (none, start) none

namespace Parser

variable {parser : Parser} {input text : Text} {start cursor depth : Nat}
variable {nestedAt : Rule → Nat → Placed (Option Tree × Nat)}
variable {nested : Rule → Text → Traced (Option (Tree × Text))}

theorem exists_skipBlanksAt_eq (remains : Remains input start text) :
    ∃ cursor, Advances start text cursor (Text.trimStart text) ∧
      skipBlanksAt input start = ⟨[cursor], .ok cursor⟩ := by
  obtain ⟨blanks, -, split⟩ := Text.exists_blanks_append_trimStart text
  have bytes : Text.byteLength text - Text.byteLength (Text.trimStart text) =
      Text.byteLength blanks := by
    have whole := Text.byteLength_append blanks (Text.trimStart text)
    rw [← split] at whole
    omega
  refine ⟨start + Text.byteLength blanks, ⟨blanks, split, rfl⟩, ?_⟩
  have blanksRemain : Remains input start (blanks ++ Text.trimStart text) := split ▸ remains
  simp only [skipBlanksAt, textAt_eq remains, bind, Placed.andThen, bytes, cut_eq blanksRemain]
  rfl

/-- What a symbol consumes in place is what it consumes of the text. -/
theorem consumeAt_mirrors (remains : Remains input cursor text) (symbol : Symbol) :
    (consumeAt input cursor symbol).Mirrors input (.ok (consume? symbol text))
      (Option.Rel fun placed consumed =>
        placed.1 = consumed.1 ∧ Advances cursor text placed.2 consumed.2) := by
  rw [consumeAt]
  refine mirrors_read_bind (textAt_eq remains) ?_
  cases counted : (symbol.matchBytes text).consumed with
  | none =>
      have nothing : (symbol.matchPrefix text).consumed = none := by
        rw [Option.eq_none_iff_forall_ne_some]
        intro length consumes
        have some := Symbol.consumed_matchBytes.mpr ⟨length, consumes, rfl⟩
        rw [counted] at some
        contradiction
      rw [consume?, nothing]
      exact mirrors_pure .none
  | some bytes =>
      obtain ⟨length, consumes, rfl⟩ := Symbol.consumed_matchBytes.mp counted
      have split : text = text.take length ++ text.drop length :=
        (List.take_append_drop length text).symm
      have frontRemains : Remains input cursor (text.take length ++ text.drop length) :=
        split ▸ remains
      have advances : Advances cursor text (cursor + Text.byteLength (text.take length))
          (text.drop length) := ⟨text.take length, split, rfl⟩
      rw [consume?, consumes]
      exact mirrors_move_bind (cut_eq frontRemains) (remains.advance advances)
        (mirrors_pure (.some ⟨rfl, advances⟩))

/-- Nested rules in place mirror nested rules. -/
def AllMirror (input : Text) (nestedAt : Rule → Nat → Placed (Option Tree × Nat))
    (nested : Rule → Text → Traced (Option (Tree × Text))) : Prop :=
  ∀ rule cursor text, Remains input cursor text →
    (nestedAt rule cursor).Mirrors input (nested rule text).result (DerivedAt cursor text)

theorem matchSymbolsAt_of_readsText {symbol : Symbol} (readsText : symbol.ReadsText)
    (symbols : List Symbol) (start : Nat) :
    matchSymbolsAt parser input nestedAt (symbol :: symbols) start = do
      let cursor ← skipBlanksAt input start
      match ← consumeAt input cursor symbol with
      | some (leaf, behind) => do
          let matched ← matchSymbolsAt parser input nestedAt symbols behind
          return matched.map (MatchedAt.cons leaf)
      | none => return none := by
  cases symbol with
  | epsilon => exact absurd rfl readsText.1
  | nonTerminal name => exact absurd rfl readsText.2
  | _ => rfl

/-- One more child, from a cursor further on, in front of what the other symbols come
to. -/
theorem mirrors_cons {symbols : Placed (Option MatchedAt)} {result : Except Defect (Option Matched)}
    {behind : Nat} {rest : Text} (advances : Advances start text behind rest)
    (mirrors : symbols.Mirrors input result (Option.Rel (MatchedAt.Represents behind rest)))
    (child : Tree) :
    (do
      let matched ← symbols
      return matched.map (MatchedAt.cons child)).Mirrors input
      (result.map (Option.map (Matched.cons child)))
      (Option.Rel (MatchedAt.Represents start text)) := by
  refine mirrors.bind (fun found failed => by rw [failed]; rfl)
    fun placed matched found represents => ?_
  subst found
  cases represents with
  | none => exact mirrors_pure .none
  | some represents =>
      exact mirrors_pure (.some ⟨congrArg (child :: ·) represents.children_eq,
        represents.readEpsilon_eq, advances.trans represents.advances⟩)

theorem matchSymbolsAt_mirrors (nestedMirror : AllMirror input nestedAt nested)
    {alternative : Alternative} {symbols : List Symbol} (remains : Remains input start text) :
    (matchSymbolsAt parser input nestedAt symbols start).Mirrors input
      (parser.matchSymbols nested depth alternative symbols text).result
      (Option.Rel (MatchedAt.Represents start text)) := by
  induction symbols generalizing start text with
  | nil => exact mirrors_pure (.some ⟨rfl, rfl, .refl start text⟩)
  | cons symbol symbols inductionHypothesis =>
      obtain ⟨cursor, skipped, skips⟩ := exists_skipBlanksAt_eq remains
      have cursorRemains := remains.advance skipped
      have others (child : Tree) {behind : Nat} {rest : Text}
          (advances : Advances cursor (Text.trimStart text) behind rest) :=
        mirrors_cons (skipped.trans advances)
          (inductionHypothesis (cursorRemains.advance advances)) child
      rw [matchSymbols_cons]
      rcases symbol.role with rfl | ⟨name, rfl⟩ | readsText
      · refine mirrors_move_bind skips cursorRemains ?_
        exact mirrors_pure (.some ⟨rfl, rfl, skipped⟩)
      · refine mirrors_move_bind skips cursorRemains ?_
        refine mirrors_read_bind (textAt_eq cursorRemains) ?_
        split
        case isTrue held =>
          have marked : parser.marker? name (Text.trimStart text) =
              some ((Text.trimStart text).drop name.length) := if_pos held
          obtain ⟨-, split⟩ := marker?_eq_some.mp marked
          have advances : Advances cursor (Text.trimStart text)
              (cursor + Text.byteLength name) ((Text.trimStart text).drop name.length) :=
            ⟨name, split, rfl⟩
          rw [reading, marked]
          exact mirrors_move_bind (cut_eq (split ▸ cursorRemains)) (cursorRemains.advance advances)
            (others _ advances)
        case isFalse notHeld =>
          have unmarked : parser.marker? name (Text.trimStart text) = none := if_neg notHeld
          simp only [reading, unmarked]
          cases parser.grammar.rule? name with
          | none => exact mirrors_stop (.missingRule name)
          | some rule =>
              refine (nestedMirror rule cursor _ cursorRemains).bind
                (fun found failed => by simp only [failed]) fun placed derived found agreed => ?_
              cases agreed with
              | derived advances =>
                  simp only [found]
                  exact mirrors_move_bind rfl (cursorRemains.advance advances) (others _ advances)
              | failed =>
                  simp only [found]
                  exact mirrors_move_bind rfl cursorRemains (mirrors_pure .none)
      · rw [matchSymbolsAt_of_readsText readsText, reading_of_readsText readsText]
        refine mirrors_move_bind skips cursorRemains ?_
        refine (consumeAt_mirrors cursorRemains symbol).bind (fun found failed => by contradiction)
          fun placed consumed found agreed => ?_
        rw [Except.ok.inj found]
        cases agreed with
        | none => exact mirrors_pure .none
        | @some placed consumed agreed =>
            obtain ⟨leaf, behind⟩ := placed
            obtain ⟨sameLeaf, advances⟩ := agreed
            subst sameLeaf
            exact others _ advances

theorem firstMatchAt_mirrors (nestedMirror : AllMirror input nestedAt nested)
    {alternatives : List Alternative} (remains : Remains input start text) :
    (firstMatchAt parser input nestedAt depth start alternatives).Mirrors input
      (parser.firstMatch nested depth text alternatives).result
      (Option.Rel (MatchedAt.Represents start text)) := by
  induction alternatives with
  | nil => exact mirrors_pure .none
  | cons alternative others inductionHypothesis =>
      rw [firstMatch_cons, firstMatchAt]
      have attempt : (matchSymbolsAt parser input nestedAt alternative.symbols start).Mirrors input
          (parser.matchSymbols nested depth alternative alternative.symbols text).result
          (Option.Rel (MatchedAt.Represents start text)) :=
        matchSymbolsAt_mirrors nestedMirror remains
      refine attempt.bind (fun found failed => by simp only [failed])
        fun placed matched found agreed => ?_
      cases agreed with
      | none =>
          simp only [found]
          exact inductionHypothesis
      | some represents =>
          simp only [found]
          refine mirrors_read_bind (textAt_eq (remains.advance represents.advances)) ?_
          split
          · exact inductionHypothesis
          · exact mirrors_pure (.some represents)

/-- Deriving a rule in place mirrors deriving it from the text behind the cursor. -/
theorem deriveAt_mirrors (levels : Nat) :
    AllMirror input (deriveAt parser input levels depth) (derive parser levels depth) := by
  induction levels generalizing depth with
  | zero => exact fun rule cursor text remains => mirrors_stop (.limitReached parser.limit)
  | succ levels inductionHypothesis =>
      intro rule start text remains
      rw [derive_succ, deriveAt]
      refine (firstMatchAt_mirrors inductionHypothesis remains).bind
        (fun found failed => by simp only [failed]) fun placed matched found agreed => ?_
      cases agreed with
      | none =>
          simp only [found]
          exact mirrors_pure .failed
      | @some placed matched represents =>
          simp only [found, represents.readEpsilon_eq, represents.children_eq,
            represents.advances.cursor_eq_iff]
          split
          · exact mirrors_pure .failed
          · exact mirrors_pure (.derived represents.advances)

theorem tryParseAt_mirrors (parser : Parser) (input : Text) :
    (parser.tryParseAt input).Mirrors input (parser.tryParse input).result Eq := by
  have remains : Remains input 0 input := ⟨[], rfl, rfl⟩
  rw [tryParse_result, tryParseAt]
  refine mirrors_move_bind rfl remains ?_
  refine (deriveAt_mirrors (parser.limit + 1) parser.start 0 input remains).bind
    (fun found failed => by rw [failed]; rfl) fun placed derived found agreed => ?_
  rw [found]
  cases agreed with
  | derived advances => exact mirrors_pure rfl
  | failed => exact mirrors_pure rfl

/-- A result in place is the result on texts; in particular it is no misplaced cut. -/
theorem tryParseAt_result (parser : Parser) (input : Text) :
    (parser.tryParseAt input).result = (parser.tryParse input).result.mapError Mishap.defect := by
  have outcome := (tryParseAt_mirrors parser input).outcome
  revert outcome
  generalize (parser.tryParseAt input).result = placed
  generalize (parser.tryParse input).result = result
  rintro (agreed | found)
  · exact congrArg Except.ok agreed
  · rfl

/-- A rule that fails gives back the cursor that it was given. -/
theorem deriveAt_failed {levels after : Nat} {rule : Rule}
    (failed : (deriveAt parser input levels depth rule start).result = .ok (none, after)) :
    after = start := by
  cases levels with
  | zero => contradiction
  | succ levels =>
      rw [deriveAt] at failed
      obtain ⟨chosen, -, failed⟩ := Placed.exists_of_bind_eq_ok failed
      split at failed
      case h_1 =>
        injection failed with same
        exact (congrArg Prod.snd same).symm
      case h_2 =>
        split at failed
        case isTrue =>
          injection failed with same
          exact (congrArg Prod.snd same).symm
        case isFalse =>
          injection failed with same
          exact absurd (congrArg Prod.fst same) (Option.some_ne_none _)

/-- Whatever a symbol consumes is a non-empty part of the text that ends where a
character does; all cursors of a search are offsets of rests of the input between two
characters, none is changed by a rule that fails, and the search in place ends as the
search on texts does. -/
theorem slicing_safe (parser : Parser) (input : Text) :
    (∀ (symbol : Symbol) (text : Text) (bytes : Nat),
      symbol.matchBytes text = (symbol.matchPrefix text).inBytes text ∧
        ((symbol.matchBytes text).consumed = some bytes →
          0 < bytes ∧ bytes ≤ Text.byteLength text ∧ Text.IsBoundary text bytes)) ∧
      (∀ cursor ∈ (parser.tryParseAt input).cursors,
        Text.IsBoundary input cursor ∧
          ∃ rest, Text.fromByte? cursor input = some rest ∧ rest <:+ input) ∧
      (∀ (levels depth : Nat) (rule : Rule) (start after : Nat),
        (deriveAt parser input levels depth rule start).result = .ok (none, after) →
          after = start) ∧
      (parser.tryParseAt input).result =
        (parser.tryParse input).result.mapError Mishap.defect := by
  refine ⟨?_, ?_, fun levels depth rule start after => deriveAt_failed,
    tryParseAt_result parser input⟩
  · exact fun symbol text bytes => ⟨symbol.matchBytes_eq text, Symbol.consumed_bytes_bounds⟩
  · intro cursor handedOn
    have boundary := (tryParseAt_mirrors parser input).boundaries cursor handedOn
    refine ⟨boundary, ?_⟩
    obtain ⟨front, ⟨rest, rfl⟩, bytes⟩ := boundary
    exact ⟨rest, Text.fromByte?_eq_some_iff.mpr ⟨front, rfl, bytes⟩,
      List.suffix_append front rest⟩

/-- A word of three letters and four bytes, a search behind a blank of three bytes, and
a rule that fails in front of the letter `a`. -/
theorem balanced_slicing_safe :
    ((Symbol.word "<W>".toList).matchBytes "für b".toList).consumed = some 4 ∧
      Text.IsBoundary "für b".toList 4 ∧
      (balanced.tryParseAt "\u3000a b".toList).cursors = [0, 3, 4, 5, 5, 5, 5, 5, 5, 6, 6] ∧
      (∀ cursor ∈ [0, 3, 4, 5, 6], Text.IsBoundary "\u3000a b".toList cursor) ∧
      ∃ after, (deriveAt balanced "\u3000a b".toList 3 1
        ⟨"<T>".toList, [{ symbols := [.terminal ['b'] true] }]⟩ 3).result = .ok (none, after) ∧
          after = 3 := by
  obtain ⟨consumption, cursors, failures, -⟩ := slicing_safe balanced "\u3000a b".toList
  have consumes : ((Symbol.word "<W>".toList).matchBytes "für b".toList).consumed = some 4 := by
    decide
  have handedOn : (balanced.tryParseAt "\u3000a b".toList).cursors =
      [0, 3, 4, 5, 5, 5, 5, 5, 5, 6, 6] := rfl
  have failed : (deriveAt balanced "\u3000a b".toList 3 1
      ⟨"<T>".toList, [{ symbols := [.terminal ['b'] true] }]⟩ 3).result = .ok (none, 3) := rfl
  refine ⟨consumes, ((consumption _ _ _).2 consumes).2.2, handedOn, ?_,
    3, failed, failures _ _ _ _ _ failed⟩
  intro cursor member
  have inSearch : cursor ∈ (balanced.tryParseAt "\u3000a b".toList).cursors := by
    rw [handedOn]
    revert member
    simp +decide
  exact (cursors cursor inSearch).1

end Parser

end BnfParsing
