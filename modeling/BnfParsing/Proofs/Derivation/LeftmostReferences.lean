import BnfParsing.Proofs.Derivation.LeftRecursion
import Mathlib.Data.Set.Finite.List

/-!
Contract: a grammar whose leftmost references never come to an end uses up any limit.

The search attempts the first alternative of a rule before the others, and its first symbol
before anything is read. If that symbol is a reference, everything else waits for the rule
it names; and if this goes on without end, then the limit is all that the search comes to.

Owns:
- the rule that the first symbol of a rule leads to, and chains of such rules;
- the cycle that a chain without end runs into, which is a left recursion;
- the defect that the search ends in, from any rule of such a chain.

Does not own: left recursion that shows only behind other symbols or in other alternatives.
-/

set_option autoImplicit false

namespace BnfParsing

/-- Among finitely many elements that are all related to another one, some element leads back to
itself. -/
theorem exists_transGen_self {α : Type} [Finite α] [Nonempty α] {related : α → α → Prop}
    (onward : ∀ element, ∃ next, related element next) :
    ∃ element, Relation.TransGen related element element := by
  by_contra noCycle
  have irreflexive : Std.Irrefl (Function.swap (Relation.TransGen related)) :=
    ⟨fun element cycle => noCycle ⟨element, cycle⟩⟩
  -- without a cycle some element would be the last one
  have wellFounded := Finite.wellFounded_of_trans_of_irrefl
    (Function.swap (Relation.TransGen related))
  obtain ⟨last, -, nothingAfter⟩ := wellFounded.has_min Set.univ Set.univ_nonempty
  obtain ⟨next, isNext⟩ := onward last
  exact nothingAfter next trivial (.single isNext)

namespace Grammar

variable {grammar : Grammar} {start rule callee : Rule}

/-- The alternative that the caller attempts first starts with a reference to the callee. -/
def LeadsTo (grammar : Grammar) (caller callee : Rule) : Prop :=
  ∃ first others name symbols, caller.tried = first :: others ∧
    first.symbols = .nonTerminal name :: symbols ∧ grammar.rule? name = some callee

/-- The rules that leftmost references lead to, the rule itself included. -/
def LeadsOn (grammar : Grammar) : Rule → Rule → Prop :=
  Relation.ReflTransGen grammar.LeadsTo

/-- Wherever leftmost references lead to, they lead on. -/
def Endless (grammar : Grammar) (start : Rule) : Prop :=
  ∀ rule, grammar.LeadsOn start rule → ∃ callee, grammar.LeadsTo rule callee

theorem Endless.of_leadsTo (endless : grammar.Endless rule) (leads : grammar.LeadsTo rule callee) :
    grammar.Endless callee :=
  fun last on => endless last (.head leads on)

theorem LeadsTo.mem (leads : grammar.LeadsTo rule callee) : callee ∈ grammar.rules := by
  obtain ⟨_, _, _, _, _, _, defined⟩ := leads
  exact (rule?_eq_some defined).1

theorem LeadsOn.eq_or_mem (on : grammar.LeadsOn start rule) :
    rule = start ∨ rule ∈ grammar.rules := by
  cases on with
  | refl => exact .inl rfl
  | tail _ leads => exact .inr leads.mem

theorem finite_leadsOn (start : Rule) : {rule | grammar.LeadsOn start rule}.Finite :=
  (List.finite_toSet (start :: grammar.rules)).subset fun _ on =>
    List.mem_cons.mpr (LeadsOn.eq_or_mem on)

/-- In a grammar whose rules all lead on, leftmost references never come to an end. -/
theorem endless_of_forall_leadsTo (member : start ∈ grammar.rules)
    (onward : ∀ rule ∈ grammar.rules, ∃ callee, grammar.LeadsTo rule callee) :
    grammar.Endless start := by
  intro rule on
  rcases on.eq_or_mem with rfl | ruleMember
  · exact onward rule member
  · exact onward rule ruleMember

/-- Among finitely many rules, leftmost references that lead on and on lead back. -/
theorem Endless.exists_cycle (endless : grammar.Endless start) :
    ∃ rule, grammar.LeadsOn start rule ∧ Relation.TransGen grammar.LeadsTo rule rule := by
  have finite : Finite {rule // grammar.LeadsOn start rule} := finite_leadsOn start
  have inhabited : Nonempty {rule // grammar.LeadsOn start rule} := ⟨⟨start, .refl⟩⟩
  have onward : ∀ rule : {rule // grammar.LeadsOn start rule},
      ∃ callee : {rule // grammar.LeadsOn start rule},
        grammar.LeadsTo rule.val callee.val := by
    rintro ⟨rule, on⟩
    obtain ⟨callee, leads⟩ := endless rule on
    exact ⟨⟨callee, on.tail leads⟩, leads⟩
  obtain ⟨⟨rule, on⟩, cycle⟩ := exists_transGen_self onward
  exact ⟨rule, on, cycle.lift Subtype.val fun _ _ leads => leads⟩

/-- A leftmost reference is a left call, since nothing stands in front of it. -/
theorem LeadsTo.leftCalls (member : rule ∈ grammar.rules) (leads : grammar.LeadsTo rule callee) :
    grammar.LeftCalls rule callee := by
  refine ⟨member, leads.mem, ?_⟩
  obtain ⟨first, others, name, symbols, tried, split, defined⟩ := leads
  obtain ⟨-, rfl⟩ := rule?_eq_some defined
  have isAlternative : first ∈ rule.alternatives := by
    rw [← Rule.mem_tried, tried]
    exact List.mem_cons_self
  refine ⟨first, isAlternative, ?_⟩
  rw [split]
  exact List.mem_cons_self

/-- So only a left-recursive grammar has leftmost references without end. -/
theorem Endless.leftRecursive (member : start ∈ grammar.rules) (endless : grammar.Endless start) :
    grammar.LeftRecursive := by
  have calls : ∀ {first last : Rule}, first ∈ grammar.rules →
      Relation.TransGen grammar.LeadsTo first last →
        Relation.TransGen grammar.LeftCalls first last ∧ last ∈ grammar.rules := by
    intro first last firstMember chain
    induction chain with
    | single leads => exact ⟨.single (leads.leftCalls firstMember), leads.mem⟩
    | tail _ leads inductionHypothesis =>
        obtain ⟨earlier, middleMember⟩ := inductionHypothesis
        exact ⟨earlier.tail (leads.leftCalls middleMember), leads.mem⟩
  obtain ⟨rule, on, cycle⟩ := endless.exists_cycle
  have ruleMember : rule ∈ grammar.rules := on.eq_or_mem.elim (fun same => same ▸ member) id
  exact ⟨rule, (calls ruleMember cycle).1⟩

end Grammar

namespace Parser

variable {parser : Parser} {levels depth : Nat} {rule callee : Rule}

/-- A rule comes to the defect that the rule its first symbol leads to comes to. -/
theorem derive_eq_error_of_leadsTo (noMarkers : parser.partialInput = false)
    (leads : parser.grammar.LeadsTo rule callee) {failure : Defect} (input : Text)
    (fails : (derive parser levels (depth + 1) callee (Text.trimStart input)).result =
      .error failure) :
    (derive parser (levels + 1) depth rule input).result = .error failure := by
  obtain ⟨first, others, name, symbols, tried, symbolsSplit, defined⟩ := leads
  have unmarked : parser.marker? name (Text.trimStart input) = none := by
    rw [marker?, noMarkers, Bool.false_and, if_neg Bool.false_ne_true]
  have read : parser.reading (Text.trimStart input) (.nonTerminal name) = .nested callee :=
    readsAs_iff.mp (.nested unmarked defined)
  have attempt : (parser.matchSymbols (derive parser levels (depth + 1)) depth first first.symbols
      input).result = .error failure := by
    simp only [symbolsSplit, matchSymbols_cons, read, fails]
  rw [derive_succ, tried, firstMatch_cons]
  simp only [attempt]

/-- However many levels are left, they are used up. -/
theorem derive_of_endless (noMarkers : parser.partialInput = false)
    (endless : parser.grammar.Endless rule) (levels depth : Nat) (input : Text) :
    (derive parser levels depth rule input).result = .error (.limitReached parser.limit) := by
  induction levels generalizing depth rule input with
  | zero => exact derive_zero rule input
  | succ levels inductionHypothesis =>
      obtain ⟨callee, leads⟩ := endless rule .refl
      exact derive_eq_error_of_leadsTo noMarkers leads input
        (inductionHypothesis (endless.of_leadsTo leads) (depth + 1) (Text.trimStart input))

/-- A parser whose leftmost references never come to an end runs into a cycle of them, and
comes to the defect of its limit on every text. -/
theorem endless_references_reach_limit (parser : Parser) (noMarkers : parser.partialInput = false)
    (endless : parser.grammar.Endless parser.start) :
    (∃ rule, parser.grammar.LeadsOn parser.start rule ∧
      Relation.TransGen parser.grammar.LeadsTo rule rule) ∧
    ∀ input, (parser.tryParse input).result = .error (.limitReached parser.limit) := by
  refine ⟨endless.exists_cycle, fun input => ?_⟩
  exact tryParse_eq_error.mpr (derive_of_endless noMarkers endless (parser.limit + 1) 0 input)

/-- A way into a cycle of two rules. Other alternatives, one of them listed first but tried
last, would describe the text `y x` and the empty text. -/
def roundabout (limit : Nat) : Parser where
  grammar :=
    { rules :=
        [⟨"<S>".toList,
            [{ symbols := [.epsilon], tryLast := true },
              { symbols := [.nonTerminal "<A>".toList, .terminal ['x'] true] }]⟩,
          ⟨"<A>".toList,
            [{ symbols := [.nonTerminal "<B>".toList] }, { symbols := [.terminal ['y'] true] }]⟩,
          ⟨"<B>".toList,
            [{ symbols := [.nonTerminal "<A>".toList, .terminal ['z'] true] },
              { symbols := [.terminal ['y'] true] }]⟩]
      names_nodup := by decide }
  start :=
    ⟨"<S>".toList,
      [{ symbols := [.epsilon], tryLast := true },
        { symbols := [.nonTerminal "<A>".toList, .terminal ['x'] true] }]⟩
  start_mem := List.mem_cons_self
  limit := limit
  partialInput := false
  level := .off

theorem roundabout_endless (limit : Nat) :
    (roundabout limit).grammar.Endless (roundabout limit).start := by
  apply Grammar.endless_of_forall_leadsTo (roundabout limit).start_mem
  intro rule member
  simp only [roundabout, List.mem_cons, List.not_mem_nil, or_false] at member
  rcases member with rfl | rfl | rfl <;> exact ⟨_, _, _, _, _, rfl, rfl, rfl⟩

theorem roundabout_limitReached :
    (roundabout 0).partialInput = false ∧
      (roundabout 0).grammar.Endless (roundabout 0).start ∧
      ((roundabout 0).tryParse []).result = .error (.limitReached 0) ∧
      ((roundabout 30).tryParse "y x".toList).result = .error (.limitReached 30) :=
  ⟨rfl, roundabout_endless 0,
    (endless_references_reach_limit (roundabout 0) rfl (roundabout_endless 0)).2 [],
    (endless_references_reach_limit (roundabout 30) rfl (roundabout_endless 30)).2 "y x".toList⟩

end Parser

end BnfParsing
