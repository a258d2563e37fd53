import BnfParsing.Proofs.Grammar.Editing

/-!
Contract: what merging rules into a grammar adds to it.

Owns:
- the alternatives of a name once rules are merged, and rules with new names;
- rules merged a second time: no name comes in, and a rule gets nothing but
  alternatives that it has already;
- rules merged among themselves first, which makes no difference.

Does not own: changes other than merging.
-/

set_option autoImplicit false

namespace BnfParsing.Grammar

variable {grammar other : Grammar} {name : Text} {rule : Rule} {rules : List Rule}
variable {alternatives : List Alternative}

theorem extend_cons (grammar : Grammar) (rule : Rule) (rules : List Rule) :
    grammar.extend (rule :: rules) = (grammar.add rule).extend rules := rfl

theorem extend_append (grammar : Grammar) (first second : List Rule) :
    grammar.extend (first ++ second) = (grammar.extend first).extend second :=
  List.foldl_append

theorem alternatives?_add (grammar : Grammar) (rule : Rule) (name : Text) :
    (grammar.add rule).alternatives? name =
      if rule.name = name then
        some ((grammar.alternatives? name).getD [] ++ rule.alternatives)
      else grammar.alternatives? name := by
  rw [add_eq_place, alternatives?_place]
  unfold Placement.step
  cases grammar.alternatives? name <;> rfl

/-- The alternatives that rules have for a name. -/
def alternativesIn (rules : List Rule) (name : Text) : List Alternative :=
  (rules.filter fun rule => rule.name == name).flatMap Rule.alternatives

theorem alternativesIn_cons (rule : Rule) (rules : List Rule) (name : Text) :
    alternativesIn (rule :: rules) name =
      (if rule.name = name then rule.alternatives else []) ++ alternativesIn rules name := by
  rw [alternativesIn, alternativesIn, List.filter_cons]
  by_cases sameName : rule.name = name <;> simp [sameName]

/-- A rule that is there keeps its alternatives and gets those for its name. -/
theorem alternatives?_extend (current : grammar.alternatives? name = some alternatives)
    (rules : List Rule) :
    (grammar.extend rules).alternatives? name =
      some (alternatives ++ alternativesIn rules name) := by
  induction rules generalizing grammar alternatives with
  | nil =>
      rw [alternativesIn, List.filter_nil, List.flatMap_nil, List.append_nil]
      exact current
  | cons rule rules inductionHypothesis =>
      have added : (grammar.add rule).alternatives? name =
          some (alternatives ++ if rule.name = name then rule.alternatives else []) := by
        rw [alternatives?_add, current]
        by_cases sameName : rule.name = name <;> simp [sameName]
      rw [extend_cons, inductionHypothesis added, alternativesIn_cons, List.append_assoc]

/-- After merging, a name has its old alternatives and then those of its rules. -/
theorem getD_alternatives?_extend (grammar : Grammar) (rules : List Rule) (name : Text) :
    ((grammar.extend rules).alternatives? name).getD [] =
      (grammar.alternatives? name).getD [] ++ alternativesIn rules name := by
  induction rules generalizing grammar with
  | nil => exact (List.append_nil _).symm
  | cons rule rules inductionHypothesis =>
      rw [extend_cons, inductionHypothesis, alternatives?_add, alternativesIn_cons]
      by_cases sameName : rule.name = name <;> simp [sameName]

/-- Every merged alternative is there. -/
theorem exists_alternatives?_extend (grammar : Grammar) (member : rule ∈ rules) :
    ∃ alternatives, (grammar.extend rules).alternatives? rule.name = some alternatives ∧
      ∀ alternative ∈ rule.alternatives, alternative ∈ alternatives := by
  induction rules generalizing grammar with
  | nil => simp at member
  | cons first rules inductionHypothesis =>
      rw [extend_cons]
      rcases List.mem_cons.mp member with rfl | later
      · have added := alternatives?_add grammar rule rule.name
        rw [if_pos rfl] at added
        refine ⟨_, alternatives?_extend added rules, fun alternative inRule => ?_⟩
        exact List.mem_append_left _ (List.mem_append_right _ inRule)
      · exact inductionHypothesis (grammar.add first) later

theorem defines_extend (grammar : Grammar) (member : rule ∈ rules) :
    (grammar.extend rules).Defines rule.name := by
  obtain ⟨alternatives, extended, -⟩ := exists_alternatives?_extend grammar member
  by_contra undefined
  simp [alternatives?_eq_none.mpr undefined] at extended

theorem mem_of_mem_alternativesIn
    (current : (grammar.extend rules).alternatives? name = some alternatives) :
    ∀ alternative ∈ alternativesIn rules name, alternative ∈ alternatives := by
  intro alternative inRules
  obtain ⟨rule, member, inRule⟩ := List.mem_flatMap.mp inRules
  obtain ⟨isRule, sameName⟩ := List.mem_filter.mp member
  obtain rfl : rule.name = name := beq_iff_eq.mp sameName
  obtain ⟨merged, extended, includes⟩ := exists_alternatives?_extend grammar isRule
  rw [current, Option.some.injEq] at extended
  exact extended ▸ includes alternative inRule

/-- Rules with new names are added at the end. -/
theorem rules_extend (distinct : ((grammar.rules ++ rules).map Rule.name).Nodup) :
    (grammar.extend rules).rules = grammar.rules ++ rules := by
  induction rules generalizing grammar with
  | nil => exact (List.append_nil _).symm
  | cons rule rules inductionHypothesis =>
      have undefined : ¬ grammar.Defines rule.name := by
        rintro ⟨other, isOther, sameName⟩
        rw [List.map_append, List.map_cons, List.nodup_append] at distinct
        exact distinct.2.2 _ (List.mem_map_of_mem isOther) _ List.mem_cons_self sameName
      have added : (grammar.add rule).rules = grammar.rules ++ [rule] :=
        rules_merge_of_not_defines undefined _
      rw [List.append_cons, ← added] at distinct
      rw [extend_cons, inductionHypothesis distinct, added, List.append_assoc,
        List.singleton_append]

/-- Rules whose names are there bring in no name. -/
theorem names_extend (known : ∀ rule ∈ rules, grammar.Defines rule.name) :
    (grammar.extend rules).names = grammar.names := by
  induction rules generalizing grammar with
  | nil => rfl
  | cons rule rules inductionHypothesis =>
      rw [List.forall_mem_cons] at known
      have sameNames : (grammar.add rule).names = grammar.names := by
        rw [add, merge_of_defines known.1, names_edit]
      rw [extend_cons, inductionHypothesis, sameNames]
      intro other member
      rw [← mem_names, sameNames, mem_names]
      exact known.2 other member

/-- The names after merging are the old ones and then the new ones, each once. -/
theorem names_extend_eq (grammar : Grammar) (rules : List Rule) :
    (grammar.extend rules).names = (grammar.names ++ rules.map Rule.name).eraseDups := by
  induction rules using List.reverseRecOn with
  | nil =>
      have distinct : grammar.names.Nodup := grammar.names_nodup
      rw [List.map_nil, List.append_nil, eraseDups_of_nodup distinct]
      rfl
  | append_singleton rules rule inductionHypothesis =>
      rw [List.map_append, ← List.append_assoc, List.map_singleton, eraseDups_concat,
        ← inductionHypothesis, extend_append]
      show ((grammar.extend rules).add rule).names = _
      have known : rule.name ∈ grammar.names ++ rules.map Rule.name ↔
          (grammar.extend rules).Defines rule.name := by
        rw [← mem_names, inductionHypothesis, List.mem_eraseDups]
      by_cases defined : (grammar.extend rules).Defines rule.name
      · rw [if_pos (known.mpr defined)]
        rw [add, merge_of_defines defined, names_edit]
      · rw [if_neg (mt known.mp defined)]
        rw [names, names, add, rules_merge_of_not_defines defined, List.map_append]
        rfl

theorem names_extend_extend (grammar : Grammar) (rules : List Rule) :
    ((grammar.extend rules).extend rules).names = (grammar.extend rules).names :=
  names_extend fun _ member => defines_extend grammar member

/-- Merging rules again repeats alternatives at the end of rules, and nothing else. -/
theorem alternatives?_extend_extend (grammar : Grammar) (rules : List Rule) (name : Text) :
    ((grammar.extend rules).alternatives? name = none ∧
      ((grammar.extend rules).extend rules).alternatives? name = none) ∨
    ∃ alternatives repeated, (grammar.extend rules).alternatives? name = some alternatives ∧
      ((grammar.extend rules).extend rules).alternatives? name =
        some (alternatives ++ repeated) ∧
      ∀ alternative ∈ repeated, alternative ∈ alternatives := by
  cases once : (grammar.extend rules).alternatives? name with
  | none =>
      refine .inl ⟨rfl, ?_⟩
      rw [alternatives?_eq_none, ← mem_names] at once ⊢
      rwa [names_extend_extend]
  | some alternatives =>
      exact .inr ⟨alternatives, alternativesIn rules name, rfl, alternatives?_extend once rules,
        mem_of_mem_alternativesIn once⟩

/-- A grammar is known from its names and the alternatives of each. -/
theorem ext_alternatives? (sameNames : grammar.names = other.names)
    (sameAlternatives : ∀ name, (grammar.alternatives? name).getD [] =
      (other.alternatives? name).getD []) : grammar = other := by
  have rulesFromNames : ∀ current : Grammar, current.rules =
      current.names.map fun name => ⟨name, (current.alternatives? name).getD []⟩ := by
    intro current
    rw [names, List.map_map]
    refine (List.map_id _).symm.trans (List.map_congr_left fun rule member => ?_)
    rw [Function.comp_apply, alternatives?, rule?_of_mem member]
    rfl
  apply ext_rules
  rw [rulesFromNames grammar, rulesFromNames other, sameNames]
  exact List.map_congr_left fun name _ => by rw [sameAlternatives]

theorem ofList_rules (grammar : Grammar) : ofList grammar.rules = grammar := by
  apply ext_rules
  have added : (empty.extend grammar.rules).rules = empty.rules ++ grammar.rules :=
    rules_extend grammar.names_nodup
  exact added

/-- Rules that were merged among themselves are merged like the rules themselves. -/
theorem extend_ofList_rules (grammar : Grammar) (rules : List Rule) :
    grammar.extend (ofList rules).rules = grammar.extend rules := by
  have mergedNames : (ofList rules).names = (rules.map Rule.name).eraseDups :=
    names_extend_eq empty rules
  have mergedAlternatives : ∀ name,
      alternativesIn (ofList rules).rules name = alternativesIn rules name := by
    intro name
    have fromRules := getD_alternatives?_extend empty rules name
    have fromMerged := getD_alternatives?_extend empty (ofList rules).rules name
    rw [← ofList, ofList_rules] at fromMerged
    exact List.append_cancel_left (fromMerged.symm.trans fromRules)
  apply ext_alternatives?
  · rw [names_extend_eq, names_extend_eq]
    show (grammar.names ++ (ofList rules).names).eraseDups = _
    rw [mergedNames, eraseDups_append_eraseDups]
  · intro name
    rw [getD_alternatives?_extend, getD_alternatives?_extend, mergedAlternatives]

end BnfParsing.Grammar
