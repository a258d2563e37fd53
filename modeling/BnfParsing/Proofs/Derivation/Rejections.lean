import BnfParsing.Proofs.Derivation.Attempts
import BnfParsing.Proofs.Derivation.Logging

/-!
Contract: what is noted on the alternatives that a rule does not settle for.

An alternative is rejected because one of its symbols does not match, because a rule it
refers to fails, or because it leaves something over. Each of these is noted. What is not
noted is that the text has ended in front of a symbol that would have to consume some of
it.

Owns:
- attempts that come to the end of the text;
- the reasons noted by each step of a search, and by a whole search, attempt by attempt;
- what the record of a reason says.

Does not own: the notes of a search that a defect ends.
-/

set_option autoImplicit false

namespace BnfParsing

namespace Traced

@[simp]
theorem events_note_trace (event : Event) : (note .trace event).events = [event] := by
  rw [note, if_pos event.takes_trace]

end Traced

namespace Parser

variable {parser : Parser} {nested : Rule → Text → Traced (Option (Tree × Text))}
variable {depth : Nat} {alternative : Alternative} {symbols : List Symbol} {text : Text}

/-- The text ends in front of a symbol that would have to consume some of it; the symbols
before it match. -/
inductive RunsOut (parser : Parser) (nested : Rule → Text → Traced (Option (Tree × Text))) :
    List Symbol → Text → Prop where
  | ended {symbol : Symbol} {symbols : List Symbol} {text : Text} (readsText : symbol.ReadsText)
      (onlyBlanks : Text.trimStart text = []) : RunsOut parser nested (symbol :: symbols) text
  | leaf {symbol : Symbol} {symbols : List Symbol} {text rest : Text} {leaf : Tree}
      (read : parser.reading (Text.trimStart text) symbol = .leaf leaf rest)
      (later : RunsOut parser nested symbols rest) : RunsOut parser nested (symbol :: symbols) text
  | nested {symbol : Symbol} {symbols : List Symbol} {text rest : Text} {rule : Rule}
      {child : Tree} (read : parser.reading (Text.trimStart text) symbol = .nested rule)
      (derived : (nested rule (Text.trimStart text)).result = .ok (some (child, rest)))
      (later : RunsOut parser nested symbols rest) : RunsOut parser nested (symbol :: symbols) text

/-- Whether the text ends too early is decided by the reading of the first symbol. -/
theorem runsOut_cons_iff (symbol : Symbol) (symbols : List Symbol) (text : Text) :
    parser.RunsOut nested (symbol :: symbols) text ↔
      match parser.reading (Text.trimStart text) symbol with
      | .leaf _ rest => parser.RunsOut nested symbols rest
      | .nested rule => ∃ child rest,
          (nested rule (Text.trimStart text)).result = .ok (some (child, rest)) ∧
            parser.RunsOut nested symbols rest
      | .mismatch => Text.trimStart text = []
      | .complete | .missing _ => False := by
  constructor
  · intro runsOut
    cases runsOut with
    | ended readsText onlyBlanks =>
        rw [onlyBlanks, reading_of_readsText readsText, consume?_nil]
    | leaf read later =>
        rw [read]
        exact later
    | nested read derived later =>
        rw [read]
        exact ⟨_, _, derived, later⟩
  · intro decided
    cases read : parser.reading (Text.trimStart text) symbol with
    | complete => simp [read] at decided
    | leaf leaf rest =>
        simp only [read] at decided
        exact .leaf read decided
    | nested rule =>
        simp only [read] at decided
        obtain ⟨child, rest, derived, later⟩ := decided
        exact .nested read derived later
    | missing name => simp [read] at decided
    | mismatch =>
        simp only [read] at decided
        cases readsAs_iff.mpr read with
        | mismatch readsText consumesNothing => exact .ended readsText decided

/-- The derivations of the rules that a rule at a depth refers to. -/
def below (parser : Parser) (depth : Nat) : Rule → Text → Traced (Option (Tree × Text)) :=
  derive parser (parser.limit - depth) (depth + 1)

/-- The rule settles for what the alternative matches. -/
def Settles (parser : Parser) (depth : Nat) (rule : Rule) (text : Text)
    (alternative : Alternative) : Prop :=
  ∃ matched,
    (parser.matchSymbols (parser.below depth) depth alternative alternative.symbols text).result =
      .ok (some matched) ∧
    (parser.firstMatch (parser.below depth) depth text rule.tried).result = .ok (some matched)

/-- What is noted on an attempt that a rule makes at a text. -/
inductive Explained (parser : Parser) (depth : Nat) (rule : Rule) (text : Text)
    (alternative : Alternative) : List Event → Prop where
  | settled (settles : parser.Settles depth rule text alternative)
      (inTime : ¬ parser.RunsOut (parser.below depth) alternative.symbols text) :
      Explained parser depth rule text alternative []
  | outOfText (fails : ¬ parser.Settles depth rule text alternative)
      (runsOut : parser.RunsOut (parser.below depth) alternative.symbols text) :
      Explained parser depth rule text alternative []
  | rejected {reason : Event} (fails : ¬ parser.Settles depth rule text alternative)
      (inTime : ¬ parser.RunsOut (parser.below depth) alternative.symbols text)
      (here : reason.depth = depth) (names : reason.rejected? = some alternative) :
      Explained parser depth rule text alternative [reason]

/-- The attempt belongs to the last call at its depth, and what is noted on it is what
this call makes of it. -/
def ToldOf (parser : Parser) (before : List Event) (depth : Nat) (alternative : Alternative)
    (after : List Event) : Prop :=
  ∃ text rule, callAt? depth before = some (text, rule) ∧ depth ≤ parser.limit ∧
    alternative ∈ rule.alternatives ∧
    parser.Explained depth rule text alternative (reasonsFor depth after)

theorem ToldOf.behind {before after : List Event}
    (told : parser.ToldOf before depth alternative after) (front : List Event) :
    parser.ToldOf (front ++ before) depth alternative after := by
  obtain ⟨text, rule, call, others⟩ := told
  exact ⟨text, rule, callAt?_behind call front, others⟩

/-- Every attempt is explained, as soon as something follows that ends attempts at a
depth. What has been noted before stands in front. -/
def Accounted (parser : Parser) (front : List Event) (depth : Nat) (events : List Event) : Prop :=
  AroundAttempts (fun before attemptDepth alternative after =>
    ∀ rest : List Event, (∀ next ∈ rest.head?, next.endsAttempt depth) →
      parser.ToldOf (front ++ before) attemptDepth alternative (after ++ rest)) events

section Accounts

variable {front earlier later events : List Event}

theorem Accounted.behind (accounted : parser.Accounted [] depth events) (front : List Event) :
    parser.Accounted front depth events :=
  AroundAttempts.imp accounted fun _ _ _ _ told rest ends => (told rest ends).behind front

theorem Accounted.outside (accounted : parser.Accounted front (depth + 1) events) :
    parser.Accounted front depth events :=
  AroundAttempts.imp accounted fun _ _ _ _ told rest ends =>
    told rest fun next isHead => Event.endsAttempt_mono (Nat.le_succ depth) (ends next isHead)

theorem Accounted.append (first : parser.Accounted front depth earlier)
    (second : parser.Accounted (front ++ earlier) depth later)
    (ends : ∀ next ∈ later.head?, next.endsAttempt depth) :
    parser.Accounted front depth (earlier ++ later) := by
  refine AroundAttempts.append ?_ ?_
  · refine AroundAttempts.imp first fun before attemptDepth alternative after told rest => ?_
    intro restEnds
    rw [List.append_assoc]
    refine told (later ++ rest) fun next isHead => ?_
    cases later with
    | nil => exact restEnds next isHead
    | cons head others => exact ends next isHead
  · refine AroundAttempts.imp second fun before attemptDepth alternative after told => ?_
    rwa [List.append_assoc] at told

end Accounts

/-- Notes at a depth or deeper, behind others, that explain every attempt among them and
start where attempts at this depth are over. -/
structure Account (parser : Parser) (front : List Event) (depth : Nat) (events : List Event) :
    Prop where
  inside : ∀ event ∈ events, depth ≤ event.depth
  starts : ∀ first ∈ events.head?, first.endsAttempt depth
  accounted : parser.Accounted front depth events

namespace Account

variable {front earlier later : List Event}

theorem nil : parser.Account front depth [] where
  inside := by simp
  starts := by simp
  accounted := .of_none (by simp)

theorem append (first : parser.Account front depth earlier)
    (second : parser.Account (front ++ earlier) depth later) :
    parser.Account front depth (earlier ++ later) where
  inside := List.forall_mem_append.mpr ⟨first.inside, second.inside⟩
  starts := by
    cases earlier with
    | nil => exact second.starts
    | cons head others => exact first.starts
  accounted := first.accounted.append second.accounted second.starts

theorem behind (account : parser.Account [] depth later) (front : List Event) :
    parser.Account front depth later :=
  ⟨account.inside, account.starts, account.accounted.behind front⟩

end Account

/-! ## What each step notes -/

/-- What an attempt to match symbols comes to, with the reason that it notes last. -/
inductive Ending (parser : Parser) (nested : Rule → Text → Traced (Option (Tree × Text)))
    (depth : Nat) (alternative : Alternative) (symbols : List Symbol) (text : Text) :
    Option Matched → List Event → Prop where
  | matched {found : Matched} (inTime : ¬ parser.RunsOut nested symbols text) :
      Ending parser nested depth alternative symbols text (some found) []
  | outOfText (runsOut : parser.RunsOut nested symbols text) :
      Ending parser nested depth alternative symbols text none []
  | rejected {reason : Event} (inTime : ¬ parser.RunsOut nested symbols text)
      (here : reason.depth = depth) (names : reason.rejected? = some alternative) :
      Ending parser nested depth alternative symbols text none [reason]

theorem Ending.behind {others : List Symbol} {rest : Text} {found : Option Matched}
    {closing : List Event}
    (ending : parser.Ending nested depth alternative others rest found closing)
    (decides : parser.RunsOut nested symbols text ↔ parser.RunsOut nested others rest)
    (child : Tree) :
    parser.Ending nested depth alternative symbols text (found.map (Matched.cons child))
      closing := by
  cases ending with
  | matched inTime => exact .matched (mt decides.mp inTime)
  | outOfText runsOut => exact .outOfText (decides.mpr runsOut)
  | rejected inTime here names => exact .rejected (mt decides.mp inTime) here names

/-- Rules that are nested in an alternative explain the attempts they make, unless a
defect ends the search. -/
def NestedExplained (parser : Parser) (nested : Rule → Text → Traced (Option (Tree × Text)))
    (depth : Nat) : Prop :=
  ∀ rule cursor outcome, (nested rule cursor).result = .ok outcome →
    parser.Account [] (depth + 1) (nested rule cursor).events

theorem result_noteMismatch (symbol : Symbol) (cursor : Text) :
    (parser.noteMismatch depth alternative symbol cursor).result = .ok () := by
  unfold noteMismatch
  split <;> rfl

theorem events_noteMismatch (noted : parser.level = .trace) (symbol : Symbol) (cursor : Text) :
    (parser.noteMismatch depth alternative symbol cursor).events =
      if cursor.isEmpty then [] else [.mismatch depth symbol alternative] := by
  unfold noteMismatch
  split
  · rfl
  · rw [noted, Traced.events_note_trace]

theorem matchSymbols_ending (noted : parser.level = .trace)
    (explained : parser.NestedExplained nested depth) {symbols : List Symbol} {text : Text}
    {found : Option Matched}
    (comesTo : (parser.matchSymbols nested depth alternative symbols text).result = .ok found) :
    ∃ inner closing,
      (parser.matchSymbols nested depth alternative symbols text).events = inner ++ closing ∧
        parser.Account [] (depth + 1) inner ∧
        parser.Ending nested depth alternative symbols text found closing := by
  induction symbols generalizing text found with
  | nil =>
      obtain rfl : some ⟨[], text, false⟩ = found := Except.ok.inj comesTo
      exact ⟨[], [], rfl, .nil, .matched nofun⟩
  | cons symbol symbols inductionHypothesis =>
      have decides := @runsOut_cons_iff parser nested symbol symbols text
      rw [matchSymbols_cons_eq] at comesTo ⊢
      cases read : parser.reading (Text.trimStart text) symbol with
      | complete =>
          simp only [read] at comesTo decides ⊢
          obtain rfl := Except.ok.inj comesTo
          exact ⟨[], [], rfl, .nil, .matched (by simp [decides])⟩
      | leaf leaf rest =>
          simp only [read, Traced.result_map, Traced.events_map] at comesTo decides ⊢
          obtain ⟨others, othersComeTo, rfl⟩ := map_eq_ok_iff.mp comesTo
          obtain ⟨inner, closing, events, account, ending⟩ := inductionHypothesis othersComeTo
          exact ⟨inner, closing, events, account, ending.behind decides leaf⟩
      | nested rule =>
          simp only [read, Traced.result_bind, Traced.events_bind] at comesTo decides ⊢
          rcases derived : (nested rule (Text.trimStart text)).result
            with failure | _ | ⟨child, rest⟩
          · rw [derived] at comesTo
            cases comesTo
          · simp only [derived, Except.bind] at comesTo decides ⊢
            obtain rfl := Except.ok.inj comesTo
            refine ⟨_, [.nestedFailure depth symbol.name alternative], ?_,
              explained rule _ _ derived, .rejected ?_ rfl rfl⟩
            · rw [Traced.events_bind, noted, Traced.events_note_trace]
              rfl
            · simp [decides]
          · simp only [derived, Except.bind, Traced.result_map, Traced.events_map] at comesTo ⊢
            obtain ⟨others, othersComeTo, rfl⟩ := map_eq_ok_iff.mp comesTo
            obtain ⟨inner, closing, events, account, ending⟩ := inductionHypothesis othersComeTo
            have decidedBehind : parser.RunsOut nested (symbol :: symbols) text ↔
                parser.RunsOut nested symbols rest := by
              simp [decides, derived]
            refine ⟨_, closing, ?_, (explained rule _ _ derived).append (account.behind _),
              ending.behind decidedBehind child⟩
            rw [events, List.append_assoc]
      | missing name =>
          simp only [read] at comesTo
          cases comesTo
      | mismatch =>
          simp only [read] at comesTo decides ⊢
          rw [Traced.result_bind, result_noteMismatch] at comesTo
          obtain rfl := Except.ok.inj comesTo
          have events : (do
              parser.noteMismatch depth alternative symbol (Text.trimStart text)
              return none : Traced (Option Matched)).events =
                if (Text.trimStart text).isEmpty then [] else [.mismatch depth symbol alternative] := by
            rw [Traced.events_bind, result_noteMismatch, events_noteMismatch noted]
            exact List.append_nil _
          refine ⟨[], _, events.trans (List.nil_append _).symm, .nil, ?_⟩
          split
          next ended => exact .outOfText (decides.mpr (List.isEmpty_iff.mp ended))
          next goesOn => exact .rejected (mt decides.mp (mt List.isEmpty_iff.mpr goesOn)) rfl rfl

theorem firstMatch_events_cons (noted : parser.level = .trace) (text : Text)
    (first : Alternative) (others : List Alternative) :
    (parser.firstMatch nested depth text (first :: others)).events =
      .attempting depth first ::
        ((parser.matchSymbols nested depth first first.symbols text).events ++
          match (parser.matchSymbols nested depth first first.symbols text).result with
          | .error _ => []
          | .ok none => (parser.firstMatch nested depth text others).events
          | .ok (some matched) =>
              if depth = 0 ∧ ¬ Text.isAllBlank matched.rest then
                .leftOver depth (Text.trim matched.rest) first ::
                  (parser.firstMatch nested depth text others).events
              else []) := by
  rw [firstMatch, Traced.events_bind, noted, Traced.events_note_trace]
  simp only [Traced.result_note, Traced.events_bind, List.singleton_append]
  rcases (parser.matchSymbols nested depth first first.symbols text).result
    with failure | _ | matched
  · rfl
  · rfl
  · simp only
    split
    · rw [Traced.events_bind, Traced.events_note_trace]
      rfl
    · rfl

theorem Explained.reasons {rule : Rule} {closing : List Event}
    (explained : parser.Explained depth rule text alternative closing) :
    ∀ event ∈ closing, event.depth = depth ∧ event.rejected? = some alternative := by
  cases explained with
  | settled settles inTime => simp
  | outOfText fails runsOut => simp
  | rejected fails inTime here names => simp [here, names]

/-- An attempt is explained by the reason noted behind the calls that are nested in it. -/
theorem account_attempt {rule : Rule} {front inner closing : List Event}
    (inLimit : depth ≤ parser.limit) (call : callAt? depth front = some (text, rule))
    (member : alternative ∈ rule.alternatives) (nestedCalls : parser.Account [] (depth + 1) inner)
    (explained : parser.Explained depth rule text alternative closing) :
    parser.Account front depth (.attempting depth alternative :: (inner ++ closing)) where
  inside := by
    rw [List.forall_mem_cons, List.forall_mem_append]
    refine ⟨Nat.le_refl depth, fun event inInner => ?_, fun event inClosing => ?_⟩
    · exact Nat.le_of_succ_le (nestedCalls.inside event inInner)
    · exact Nat.le_of_eq (explained.reasons event inClosing).1.symm
  starts := by
    intro first isHead
    obtain rfl := Option.some.inj isHead
    simp [Event.endsAttempt, Event.depth, Event.rejected?]
  accounted := by
    have closingEnds : ∀ next ∈ closing.head?, next.endsAttempt (depth + 1) := by
      intro next isHead
      have atDepth := (explained.reasons next (List.mem_of_mem_head? isHead)).1
      simp [Event.endsAttempt, atDepth]
    have closingAccounted : parser.Accounted ([] ++ inner) (depth + 1) closing := by
      refine .of_none fun other otherAlternative inClosing => ?_
      have names := (explained.reasons _ inClosing).2
      cases names
    have inside : parser.Accounted [] depth (inner ++ closing) :=
      (nestedCalls.accounted.append closingAccounted closingEnds).outside
    rw [← List.singleton_append]
    refine AroundAttempts.append (.single fun rest ends => ?_) ?_
    · refine ⟨text, rule, ?_, inLimit, member, ?_⟩
      · rw [List.append_nil, call]
      · rw [List.nil_append, reasonsFor_append _ _ ends]
        · exact explained
        · exact fun event inInner => nestedCalls.inside event inInner
        · intro event inClosing
          obtain ⟨atDepth, names⟩ := explained.reasons event inClosing
          exact ⟨atDepth, by rw [names, Option.isSome_some]⟩
    · refine AroundAttempts.imp inside fun _ _ _ _ told rest ends => ?_
      exact ((told rest ends).behind [.attempting depth alternative]).behind front

theorem callAt?_attempt {rule : Rule} {front inner closing : List Event}
    (call : callAt? depth front = some (text, rule))
    (nestedCalls : parser.Account [] (depth + 1) inner)
    (explained : parser.Explained depth rule text alternative closing) :
    callAt? depth (front ++ .attempting depth alternative :: (inner ++ closing)) =
      some (text, rule) := by
  refine callAt?_append_of_none call ?_
  rw [List.forall_mem_cons, List.forall_mem_append]
  refine ⟨rfl, fun event inInner => ?_, fun event inClosing => ?_⟩
  · have deeper := nestedCalls.inside event inInner
    exact Event.startsCall?_of_ne (by omega)
  · obtain ⟨-, names⟩ := explained.reasons event inClosing
    exact Event.startsCall?_of_rejected (by rw [names, Option.isSome_some])

/-- The attempts of a call, one after the other, are explained: each one but the last is
rejected, and the last one is what the rule settles for, if it settles at all. -/
theorem firstMatch_account (noted : parser.level = .trace) (inLimit : depth ≤ parser.limit)
    (nestedExplained : parser.NestedExplained (parser.below depth) depth) {rule : Rule}
    {front : List Event} (call : callAt? depth front = some (text, rule))
    {alternatives : List Alternative}
    (members : ∀ alternative ∈ alternatives, alternative ∈ rule.alternatives)
    (sameChoice : (parser.firstMatch (parser.below depth) depth text alternatives).result =
      (parser.firstMatch (parser.below depth) depth text rule.tried).result)
    {found : Option Matched}
    (comesTo : (parser.firstMatch (parser.below depth) depth text alternatives).result =
      .ok found) :
    parser.Account front depth
      (parser.firstMatch (parser.below depth) depth text alternatives).events := by
  induction alternatives generalizing front with
  | nil => exact .nil
  | cons first others inductionHypothesis =>
      rw [List.forall_mem_cons] at members
      obtain ⟨member, otherMembers⟩ := members
      rw [firstMatch_events_cons noted]
      rw [firstMatch_cons] at sameChoice comesTo
      rcases attempt : (parser.matchSymbols (parser.below depth) depth first first.symbols
        text).result with failure | _ | matched
      · rw [attempt] at comesTo
        cases comesTo
      · simp only [attempt] at sameChoice comesTo ⊢
        obtain ⟨inner, closing, events, nestedCalls, ending⟩ :=
          matchSymbols_ending noted nestedExplained attempt
        have fails : ¬ parser.Settles depth rule text first := by
          rintro ⟨matched, found, -⟩
          rw [attempt] at found
          cases found
        have explained : parser.Explained depth rule text first closing := by
          cases ending with
          | outOfText runsOut => exact .outOfText fails runsOut
          | rejected inTime here names => exact .rejected fails inTime here names
        rw [events, ← List.cons_append]
        refine (account_attempt inLimit call member nestedCalls explained).append ?_
        exact inductionHypothesis (callAt?_attempt call nestedCalls explained) otherMembers
          sameChoice comesTo
      · simp only [attempt] at sameChoice comesTo ⊢
        obtain ⟨inner, closing, events, nestedCalls, ending⟩ :=
          matchSymbols_ending noted nestedExplained attempt
        cases ending with
        | matched inTime =>
            rw [events, List.append_nil]
            split at sameChoice
            next left =>
              rw [if_pos left] at comesTo ⊢
              -- the rule settles for a match that leaves blanks at most
              have fails : ¬ parser.Settles depth rule text first := by
                rintro ⟨other, otherFound, settled⟩
                rw [attempt] at otherFound
                cases otherFound
                obtain ⟨_, _, _, complete⟩ := firstMatch_eq_some settled
                exact left.2 (complete left.1)
              have explained : parser.Explained depth rule text first
                  [.leftOver depth (Text.trim matched.rest) first] :=
                .rejected fails inTime rfl rfl
              rw [List.append_cons, ← List.cons_append]
              refine (account_attempt inLimit call member nestedCalls explained).append ?_
              exact inductionHypothesis (callAt?_attempt call nestedCalls explained) otherMembers
                sameChoice comesTo
            next accepted =>
              rw [if_neg accepted]
              have settles : parser.Settles depth rule text first :=
                ⟨matched, attempt, sameChoice.symm⟩
              exact account_attempt inLimit call member nestedCalls (.settled settles inTime)

theorem account_single {front : List Event} {event : Event} (here : event.depth = depth)
    (noReason : event.rejected? = none) (noAttempt : ∀ depth alternative,
      event ≠ .attempting depth alternative) :
    parser.Account front depth [event] where
  inside := by simp [here]
  starts := by simp [Event.endsAttempt, here, noReason]
  accounted := .of_none fun depth alternative member =>
    noAttempt depth alternative (List.mem_singleton.mp member).symm

theorem derive_account (noted : parser.level = .trace) {levels : Nat}
    (inLimit : levels + depth = parser.limit + 1) (rule : Rule) (text : Text)
    {outcome : Option (Tree × Text)}
    (comesTo : (derive parser levels depth rule text).result = .ok outcome) :
    parser.Account [] depth (derive parser levels depth rule text).events := by
  induction levels generalizing depth rule text outcome with
  | zero =>
      rw [derive_zero] at comesTo
      cases comesTo
  | succ levels inductionHypothesis =>
      have nested : derive parser levels (depth + 1) = parser.below depth := by
        rw [below, show parser.limit - depth = levels by omega]
      have nestedExplained : parser.NestedExplained (parser.below depth) depth := by
        intro nestedRule cursor nestedOutcome nestedComesTo
        rw [← nested] at nestedComesTo ⊢
        exact inductionHypothesis (by omega) nestedRule cursor nestedComesTo
      rw [derive_succ, nested] at comesTo
      rw [derive, nested, noted]
      simp only [Traced.events_bind, Traced.events_note_trace, Traced.result_note]
      have call : callAt? depth ([] ++ [.considering depth text rule]) = some (text, rule) := by
        simp [callAt?, Event.startsCall?]
      have opening : parser.Account [] depth [.considering depth text rule] :=
        account_single rfl rfl (by simp)
      refine opening.append ?_
      rcases choice : (parser.firstMatch (parser.below depth) depth text rule.tried).result
        with failure | _ | matched
      · rw [choice] at comesTo
        cases comesTo
      · have account := firstMatch_account noted (by omega) nestedExplained call
          (fun _ => Rule.mem_tried.mp) rfl choice
        refine account.append ?_
        simp only [Traced.events_bind, Traced.events_note_trace, Traced.result_note]
        exact account_single rfl rfl (by simp)
      · have account := firstMatch_account noted (by omega) nestedExplained call
          (fun _ => Rule.mem_tried.mp) rfl choice
        refine account.append ?_
        dsimp only
        split
        · simp only [Traced.events_bind, Traced.events_note_trace, Traced.result_note]
          exact account_single rfl rfl (by simp)
        · exact .nil

end Parser

/-! ## Records of reasons -/

/-- Whether the message says of the alternative that it has failed or left something over. -/
def LogRecord.Rejects (record : LogRecord) (alternative : Alternative) : Prop :=
  let said := record.message.dropWhile (· = ' ')
  ("FAILED: ".toList <+: said ∧ alternative.display <:+ said) ∨
    "left over after ".toList ++ alternative.display <:+ said

theorem Event.record_rejects {event : Event} {alternative : Alternative}
    (names : event.rejected? = some alternative) : event.record.Rejects alternative := by
  show ("FAILED: ".toList <+: event.message.dropWhile (· = ' ') ∧
      alternative.display <:+ event.message.dropWhile (· = ' ')) ∨
    "left over after ".toList ++ alternative.display <:+ event.message.dropWhile (· = ' ')
  rw [event.takeWhile_message.2]
  cases event with
  | leftOver depth rest found =>
      cases names
      right
      show "left over after ".toList ++ alternative.display <:+
        ['\''] ++ rest ++ ("' ".toList ++ "left over after ".toList) ++ alternative.display
      rw [List.append_assoc, List.append_assoc "' ".toList]
      exact (List.suffix_append _ _).trans (List.suffix_append _ _)
  | nestedFailure depth name found =>
      cases names
      exact .inl ⟨((List.prefix_append _ _).trans (List.prefix_append _ _)).trans
        (List.prefix_append _ _), List.suffix_append _ _⟩
  | mismatch depth symbol found =>
      cases names
      exact .inl ⟨((List.prefix_append _ _).trans (List.prefix_append _ _)).trans
        (List.prefix_append _ _), List.suffix_append _ _⟩
  | _ => cases names

namespace Parser

theorem tryParse_account {parser : Parser} (noted : parser.level = .trace) {input : Text}
    {outcome : Option Tree} (ended : (parser.tryParse input).result = .ok outcome) :
    parser.Account [] 0 (parser.tryParse input).events := by
  rw [tryParse_result] at ended
  obtain ⟨derived, comesTo, -⟩ := map_eq_ok_iff.mp ended
  rw [tryParse, bind_pure_comp, Traced.events_map]
  exact derive_account noted (Nat.add_zero _) parser.start input comesTo

/-- In a search that no defect ends, each attempt belongs to the last call at its depth.
Until it is over, nothing is noted at its depth but the reason to reject it. There is
exactly one such record, which names the alternative, if the rule does not settle for the
alternative and the text does not end in front of a symbol that would have to consume some
of it; otherwise there is none. -/
theorem rejections_noted (parser : Parser) (noted : parser.level = .trace) (input : Text)
    {outcome : Option Tree} (ended : (parser.tryParse input).result = .ok outcome)
    {before after : List Event} {depth : Nat} {alternative : Alternative}
    (attempt : (parser.tryParse input).events = before ++ .attempting depth alternative :: after) :
    ∃ text rule, callAt? depth before = some (text, rule) ∧ depth ≤ parser.limit ∧
      alternative ∈ rule.alternatives ∧
      (¬ parser.Settles depth rule text alternative →
        ¬ parser.RunsOut (parser.below depth) alternative.symbols text →
          ∃ reason, reasonsFor depth after = [reason] ∧ reason.rejected? = some alternative ∧
            reason.record.indentation = 2 * depth ∧ reason.record.Rejects alternative) ∧
      (parser.Settles depth rule text alternative ∨
        parser.RunsOut (parser.below depth) alternative.symbols text →
          reasonsFor depth after = []) := by
  have told := (tryParse_account noted ended).accounted before depth alternative after attempt []
    (by simp)
  rw [List.nil_append, List.append_nil] at told
  obtain ⟨text, rule, call, inLimit, member, explained⟩ := told
  refine ⟨text, rule, call, inLimit, member, ?_⟩
  generalize reasonsFor depth after = reasons at explained ⊢
  cases explained with
  | settled settles inTime => exact ⟨fun fails => absurd settles fails, fun _ => rfl⟩
  | outOfText fails runsOut => exact ⟨fun _ inTime => absurd runsOut inTime, fun _ => rfl⟩
  | rejected fails inTime here names =>
      refine ⟨fun _ _ => ⟨_, rfl, names, ?_, Event.record_rejects names⟩, ?_⟩
      · rw [Event.indentation_record, here]
      · rintro (settles | runsOut)
        · exact absurd settles fails
        · exact absurd runsOut inTime

section Letters

/-- A letter that another rule stands for, and one behind it. -/
def pair : Alternative := { symbols := [.nonTerminal "<A>".toList, .terminal ['b'] true] }

def letter (character : Char) : Alternative := { symbols := [.terminal [character] true] }

def pairOrLetter : Rule := ⟨"<S>".toList, [pair, letter 'a']⟩

def otherOrLetter : Rule := ⟨"<A>".toList, [letter 'x', letter 'a']⟩

/-- Two alternatives that start with the same letter, the first one through another rule. -/
def startsAlike : Parser where
  grammar := { rules := [pairOrLetter, otherOrLetter], names_nodup := by decide }
  start := pairOrLetter
  start_mem := List.mem_cons_self
  limit := 5
  partialInput := false
  level := .trace

/-- What the call of the other rule at a text notes. -/
def nestedNotes (text : Text) : List Event :=
  [.considering 1 text otherOrLetter, .attempting 1 (letter 'x'),
    .mismatch 1 (.terminal ['x'] true) (letter 'x'), .attempting 1 (letter 'a')]

theorem startsAlike_rejections :
    startsAlike.level = .trace ∧ (startsAlike.tryParse "a c".toList).result = .ok none ∧
      (startsAlike.tryParse "a c".toList).events =
        [.considering 0 "a c".toList pairOrLetter] ++ .attempting 0 pair ::
          (nestedNotes "a c".toList ++ [.mismatch 0 (.terminal ['b'] true) pair,
            .attempting 0 (letter 'a'), .leftOver 0 ['c'] (letter 'a'),
            .noAlternative 0 "<S>".toList]) ∧
      ∃ reason, reasonsFor 0 (nestedNotes "a c".toList ++
          [.mismatch 0 (.terminal ['b'] true) pair, .attempting 0 (letter 'a'),
            .leftOver 0 ['c'] (letter 'a'), .noAlternative 0 "<S>".toList]) = [reason] ∧
        reason.rejected? = some pair ∧ reason.record.indentation = 0 ∧
        reason.record.Rejects pair := by
  have ended : (startsAlike.tryParse "a c".toList).result = .ok none := rfl
  have attempt : (startsAlike.tryParse "a c".toList).events =
      [.considering 0 "a c".toList pairOrLetter] ++ .attempting 0 pair ::
        (nestedNotes "a c".toList ++ [.mismatch 0 (.terminal ['b'] true) pair,
          .attempting 0 (letter 'a'), .leftOver 0 ['c'] (letter 'a'),
          .noAlternative 0 "<S>".toList]) := by
    decide +kernel
  refine ⟨rfl, ended, attempt, ?_⟩
  obtain ⟨text, rule, call, -, -, once, -⟩ :=
    rejections_noted startsAlike rfl "a c".toList ended attempt
  obtain ⟨rfl, rfl⟩ := Prod.mk.inj (Option.some.inj call)
  refine once ?_ ?_
  · rintro ⟨matched, found, -⟩
    cases found
  · intro runsOut
    obtain ⟨child, rest, derived, later⟩ := (runsOut_cons_iff _ _ _).mp runsOut
    cases derived
    cases (runsOut_cons_iff _ _ _).mp later

/-- The text ends behind the other rule, so the pair is rejected without a reason noted. -/
theorem ended_text_unexplained :
    startsAlike.level = .trace ∧
      (startsAlike.tryParse ['a']).result = .ok (some (.ofRule "<S>".toList [.leaf ['a']])) ∧
      (startsAlike.tryParse ['a']).events =
        [.considering 0 ['a'] pairOrLetter] ++ .attempting 0 pair ::
          (nestedNotes ['a'] ++ [.attempting 0 (letter 'a')]) ∧
      callAt? 0 [.considering 0 ['a'] pairOrLetter] = some (['a'], pairOrLetter) ∧
      ¬ startsAlike.Settles 0 pairOrLetter ['a'] pair ∧
      ¬ ∃ reason, reasonsFor 0 (nestedNotes ['a'] ++ [.attempting 0 (letter 'a')]) = [reason] := by
  have none : reasonsFor 0 (nestedNotes ['a'] ++ [.attempting 0 (letter 'a')]) = [] := by
    decide +kernel
  refine ⟨rfl, rfl, by decide +kernel, rfl, ?_, ?_⟩
  · rintro ⟨matched, found, -⟩
    cases found
  · rw [none]
    simp

end Letters

end Parser

end BnfParsing
