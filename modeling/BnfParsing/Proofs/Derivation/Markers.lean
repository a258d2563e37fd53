import BnfParsing.Proofs.Derivation.Agreement

/-!
Contract: names of rules may be allowed in texts that hold none.

A search reads a suffix of its text at every step, so a name that is not part of
the text is never found at the front of what is left.

Owns: parsers that allow names in texts or do not, and their agreement on texts
without the names that the grammar refers to.

Does not own: what a search makes of a name that the text holds.
-/

set_option autoImplicit false

namespace BnfParsing

/-- No name that a rule of the grammar refers to is a part of the text. -/
def Grammar.Unmarked (grammar : Grammar) (text : Text) : Prop :=
  ∀ rule ∈ grammar.rules, ∀ name, rule.RefersTo name → ¬ name <:+: text

namespace Parser

variable {parser : Parser} {name cursor input : Text}

/-- The parser with names in texts allowed or not. -/
def withPartialInput (parser : Parser) (allowed : Bool) : Parser :=
  { parser with partialInput := allowed }

theorem marker?_of_absent (absent : ¬ name <+: cursor) : parser.marker? name cursor = none := by
  rw [marker?, if_neg]
  simp [absent]

/-- Without the names in the text, a rule of the grammar is read alike by both
parsers, and so are the rules it refers to. -/
theorem simulates_withPartialInput (unmarked : parser.grammar.Unmarked input) :
    Simulates (fun _ => False)
      (fun rule otherRule => otherRule = rule ∧ rule ∈ parser.grammar.rules) input
      (parser.withPartialInput false) (parser.withPartialInput true) := by
  refine ⟨?_, ?_⟩
  · rintro rule _ ⟨rfl, -⟩
    exact .refl _
  · rintro rule _ ⟨rfl, member⟩ alternative inRule symbol inAlternative
    rcases symbol.role with rfl | ⟨name, rfl⟩ | readsText
    · exact fun _ _ => .settled .complete (by simp)
    · have absent : ¬ name <:+: input :=
        unmarked _ member name ⟨alternative, inRule, inAlternative⟩
      refine readsAlike_nonTerminal (fun cursor within => ?_) (fun callee found => ?_) .inr
      · -- what is left of the text is a part of it
        have notInFront : ¬ name <+: cursor :=
          fun inFront => absent (inFront.isInfix.trans within.isInfix)
        rw [marker?_of_absent notInFront, marker?_of_absent notInFront]
      · exact ⟨callee, found, rfl, (Grammar.rule?_eq_some found).1⟩
    · exact readsAlike_of_readsText readsText

/-- On a text without the names that the grammar refers to it makes no difference
whether names are allowed in texts. -/
theorem partialInput_conservative (unmarked : parser.grammar.Unmarked input) :
    ((parser.withPartialInput true).tryParse input).result =
      ((parser.withPartialInput false).tryParse input).result := by
  have startRelated : parser.start = parser.start ∧ parser.start ∈ parser.grammar.rules :=
    ⟨rfl, parser.start_mem⟩
  exact Agrees.eq <|
    tryParse_agrees_of_simulates (simulates_withPartialInput unmarked) rfl startRelated

/-- A word with its ending, the word being a rule of its own. -/
def wordWithEnding : Parser where
  grammar :=
    { rules :=
        [⟨"<S>".toList, [{ symbols := [.nonTerminal "<A>".toList, .terminal ['b'] true] }]⟩,
          ⟨"<A>".toList,
            [{ symbols := [.terminal "foo".toList true] },
              { symbols := [.terminal "bar".toList true] }]⟩]
      names_nodup := by decide }
  start := ⟨"<S>".toList, [{ symbols := [.nonTerminal "<A>".toList, .terminal ['b'] true] }]⟩
  start_mem := List.mem_cons_self
  limit := 3
  partialInput := false
  level := .off

/-- With the name in the text it does make a difference. -/
theorem wordWithEnding_conservative :
    wordWithEnding.grammar.Unmarked "bar b".toList ∧
      ((wordWithEnding.withPartialInput true).tryParse "bar b".toList).result =
        ((wordWithEnding.withPartialInput false).tryParse "bar b".toList).result ∧
      ((wordWithEnding.withPartialInput true).tryParse "<A> b".toList).result ≠ .ok none ∧
      ((wordWithEnding.withPartialInput false).tryParse "<A> b".toList).result = .ok none := by
  have unmarked : wordWithEnding.grammar.Unmarked "bar b".toList := by
    intro rule member name refers
    have mentioned : ∀ rule ∈ wordWithEnding.grammar.rules, ∀ name ∈ rule.mentions,
        ¬ name <:+: "bar b".toList := by decide
    exact mentioned rule member name (Rule.mem_mentions.mpr refers)
  exact ⟨unmarked, partialInput_conservative unmarked, nofun, rfl⟩

end Parser

end BnfParsing
