import BnfParsing.Proofs.Tree.Overflow
import Mathlib.Data.List.Nodup

/-!
Contract: every node has a path that selects it and nothing else.

The address of a node names, for each node on the way to it from the root, the token
and how many earlier siblings share it. The position in brackets is always written, so
the last bracket that opens is the one of the position, whatever the token holds, and
no token is mistaken for the segment that accepts every node.

Owns:
- addresses, and what their segments accept;
- that siblings of one token differ in their rank, and chains in their places.

Does not own: how a path is followed.
-/

set_option autoImplicit false

namespace BnfParsing.Path

variable {place other : Place} {tree : Tree} {earlier siblings : List Tree}
variable {chain : List Place}

/-- How many earlier siblings have the token of the node. -/
def Place.rank (place : Place) : Nat :=
  countNamed place.node.token place.earlier

/-- The segment that names a node by its token and rank. -/
def Place.address (place : Place) : Text :=
  place.node.token ++ '[' :: Text.ofNat place.rank ++ [']']

/-- The path of the segments along a chain. -/
def address (chain : List Place) : Text :=
  Text.join ['.'] (chain.map Place.address)

/-! ## What a segment of an address accepts -/

theorem digits_ofNat {number : Nat} (bounded : number < UInt64.size) :
    Digits (Text.ofNat number) number where
  nonempty := Nat.toDigits_ne_nil
  areDigits _ member := Nat.isDigit_of_mem_toDigits (by decide) (by decide) member
  value := Nat.ofDigitChars_ten_toDigits
  bounded := bounded

theorem Place.indexed_address (fits : place.rank < UInt64.size) :
    Indexed place.address place.node.token place.rank :=
  ⟨Text.ofNat place.rank, rfl, .inl (digits_ofNat fits)⟩

theorem accepts_address_iff (fits : place.rank < UInt64.size) :
    Accepts place.address other ↔
      other.node.token = place.node.token ∧ other.rank = place.rank := by
  have indexed := Place.indexed_address fits
  constructor
  · intro accepted
    generalize written : place.address = text at accepted indexed
    cases accepted with
    | any =>
        have last : place.address.getLast? = some ']' := List.getLast?_concat
        rw [written] at last
        contradiction
    | indexed otherIndexed named counted =>
        obtain ⟨rfl, rfl⟩ := indexed.unique otherIndexed
        refine ⟨named, ?_⟩
        rw [Place.rank, named]
        exact counted
    | named notAny plain named => exact absurd indexed (plain _ _)
  · rintro ⟨sameToken, sameRank⟩
    refine .indexed indexed sameToken ?_
    rw [← sameRank, Place.rank, sameToken]
    rfl

/-! ## Places among siblings -/

theorem prefix_of_mem_places (member : place ∈ places earlier siblings) :
    earlier <+: place.earlier := by
  induction siblings generalizing earlier with
  | nil => cases member
  | cons tree others inductionHypothesis =>
      rcases List.mem_cons.mp member with rfl | inOthers
      · exact List.prefix_rfl
      · exact (List.prefix_append earlier [tree]).trans (inductionHypothesis inOthers)

theorem node_mem_of_mem_places (member : place ∈ places earlier siblings) :
    place.node ∈ siblings := by
  rw [← map_node_places siblings earlier]
  exact List.mem_map_of_mem member

/-- A node is not among the earlier siblings that are counted for its rank. -/
theorem rank_lt_countNamed (member : place ∈ places earlier siblings) :
    place.rank < countNamed place.node.token (earlier ++ siblings) := by
  induction siblings generalizing earlier with
  | nil => cases member
  | cons tree others inductionHypothesis =>
      rw [List.append_cons]
      rcases List.mem_cons.mp member with rfl | inOthers
      · have counted := countNamed_concat_of_named (Eq.refl tree.token) earlier
        have further : countNamed tree.token (earlier ++ [tree]) ≤
            countNamed tree.token (earlier ++ [tree] ++ others) :=
          (List.sublist_append_left _ _).countP_le
        show countNamed tree.token earlier < countNamed tree.token (earlier ++ [tree] ++ others)
        omega
      · exact inductionHypothesis inOthers

/-- A later sibling of the same token has a higher rank. -/
theorem rank_lt_of_later (later : other ∈ places (earlier ++ [tree]) siblings)
    (sameToken : other.node.token = tree.token) :
    Place.rank ⟨earlier, tree⟩ < other.rank := by
  have counted := countNamed_concat_of_named (Eq.refl tree.token) earlier
  have more : countNamed tree.token (earlier ++ [tree]) ≤ countNamed tree.token other.earlier :=
    (prefix_of_mem_places later).sublist.countP_le
  unfold Place.rank
  rw [sameToken]
  show countNamed tree.token earlier < _
  omega

/-- Token and rank tell siblings apart. -/
theorem eq_of_rank_eq (member : place ∈ places earlier siblings)
    (otherMember : other ∈ places earlier siblings)
    (sameToken : other.node.token = place.node.token) (sameRank : other.rank = place.rank) :
    other = place := by
  induction siblings generalizing earlier with
  | nil => cases member
  | cons tree others inductionHypothesis =>
      rcases List.mem_cons.mp member with rfl | later
      · rcases List.mem_cons.mp otherMember with rfl | otherLater
        · rfl
        · have := rank_lt_of_later otherLater sameToken
          omega
      · rcases List.mem_cons.mp otherMember with rfl | otherLater
        · have := rank_lt_of_later later sameToken.symm
          omega
        · exact inductionHypothesis later otherLater

/-! ## Chains -/

/-- A chain starts with one of the siblings and ends there or goes on below it. -/
theorem mem_chainsAll_iff : chain ∈ chainsAll earlier siblings ↔
    ∃ place ∈ places earlier siblings, ∃ rest, chain = place :: rest ∧
      (rest = [] ∨ rest ∈ chainsAll [] place.node.children) := by
  induction siblings generalizing earlier with
  | nil => simp [chainsAll, places]
  | cons tree others inductionHypothesis =>
      rw [chainsAll, places, List.mem_append, inductionHypothesis, chains_eq_cons,
        List.mem_cons, List.mem_map, List.exists_mem_cons_iff]
      refine or_congr ⟨?_, ?_⟩ Iff.rfl
      · rintro (rfl | ⟨rest, below, rfl⟩)
        · exact ⟨[], rfl, .inl rfl⟩
        · exact ⟨rest, rfl, .inr below⟩
      · rintro ⟨rest, rfl, rfl | below⟩
        · exact .inl rfl
        · exact .inr ⟨rest, below, rfl⟩

mutual

theorem nodup_chains : ∀ (tree : Tree) (earlier : List Tree), (chains earlier tree).Nodup
  | .node kind token value children, earlier => by
      unfold chains
      apply List.Nodup.cons
      · intro inside
        obtain ⟨rest, below, same⟩ := List.mem_map.mp inside
        exact ne_nil_of_mem_chainsAll below (List.cons.inj same).2
      · exact (nodup_chainsAll children []).map fun _ _ same => (List.cons.inj same).2

/-- No two chains are the same, even if they lead to equal nodes. -/
theorem nodup_chainsAll : ∀ (siblings earlier : List Tree), (chainsAll earlier siblings).Nodup
  | [], _ => List.nodup_nil
  | tree :: others, earlier => by
      unfold chainsAll
      apply List.Nodup.append (nodup_chains tree earlier) (nodup_chainsAll others _)
      intro chain inTree inOthers
      obtain ⟨place, later, rest, rfl, -⟩ := mem_chainsAll_iff.mp inOthers
      have atTree : place = ⟨earlier, tree⟩ := by
        rw [chains_eq_cons, List.mem_cons, List.mem_map] at inTree
        rcases inTree with same | ⟨_, _, same⟩
        · exact (List.cons.inj same).1
        · exact (List.cons.inj same).1.symm
      have longer : earlier.length + 1 ≤ earlier.length := by
        simpa [atTree] using (prefix_of_mem_places later).length_le
      omega

end

/-- Each position on the way to a node has a successor. -/
theorem rank_add_one_lt {chain : List Place} (narrow : Narrow siblings)
    (member : chain ∈ chainsAll [] siblings) :
    ∀ place ∈ chain, place.rank + 1 < UInt64.size := by
  induction chain generalizing siblings with
  | nil => exact absurd rfl (ne_nil_of_mem_chainsAll member)
  | cons place rest inductionHypothesis =>
      obtain ⟨_, amongSiblings, _, same, below⟩ := mem_chainsAll_iff.mp member
      obtain ⟨rfl, rfl⟩ := List.cons.inj same
      rw [List.forall_mem_cons]
      refine ⟨Nat.lt_of_le_of_lt (rank_lt_countNamed amongSiblings) (narrow.here _), ?_⟩
      rcases below with rfl | below
      · simp
      · exact inductionHypothesis (narrow.children (node_mem_of_mem_places amongSiblings)) below

/-- The segments of an address accept the places of their own chain and of no other. -/
theorem forall₂_address_iff {chain other : List Place} (narrow : Narrow siblings)
    (member : chain ∈ chainsAll [] siblings) (otherMember : other ∈ chainsAll [] siblings) :
    List.Forall₂ Accepts (chain.map Place.address) other ↔ other = chain := by
  induction chain generalizing siblings other with
  | nil => exact absurd rfl (ne_nil_of_mem_chainsAll member)
  | cons place rest inductionHypothesis =>
      obtain ⟨_, amongSiblings, _, same, below⟩ := mem_chainsAll_iff.mp member
      obtain ⟨otherPlace, otherAmong, otherRest, rfl, otherBelow⟩ :=
        mem_chainsAll_iff.mp otherMember
      obtain ⟨rfl, rfl⟩ := List.cons.inj same
      have fits : place.rank < UInt64.size :=
        Nat.lt_of_succ_lt (rank_add_one_lt narrow member place List.mem_cons_self)
      have samePlace : Accepts place.address otherPlace ↔ otherPlace = place := by
        rw [accepts_address_iff fits]
        constructor
        · rintro ⟨sameToken, sameRank⟩
          exact eq_of_rank_eq amongSiblings otherAmong sameToken sameRank
        · rintro rfl
          exact ⟨rfl, rfl⟩
      rw [List.map_cons, List.forall₂_cons, samePlace, List.cons.injEq]
      refine and_congr_right ?_
      rintro rfl
      have narrowBelow : Narrow otherPlace.node.children :=
        narrow.children (node_mem_of_mem_places amongSiblings)
      rcases below with rfl | below
      · rw [List.map_nil, List.forall₂_nil_left_iff]
      · rcases otherBelow with rfl | otherBelow
        · have nonempty := ne_nil_of_mem_chainsAll below
          simp [List.forall₂_nil_right_iff, nonempty, eq_comm]
        · exact inductionHypothesis narrowBelow below otherBelow

theorem filter_address_eq_singleton (narrow : Narrow siblings)
    (member : chain ∈ chainsAll [] siblings) :
    (chainsAll [] siblings).filter
      (fun other => List.Forall₂ Accepts (chain.map Place.address) other) = [chain] := by
  have distinct : ((chainsAll [] siblings).filter fun other =>
      List.Forall₂ Accepts (chain.map Place.address) other).Nodup :=
    (nodup_chainsAll siblings []).filter _
  apply List.perm_singleton.mp
  rw [List.perm_ext_iff_of_nodup distinct (List.nodup_singleton chain)]
  intro other
  rw [List.mem_filter, List.mem_singleton, decide_eq_true_iff]
  constructor
  · rintro ⟨otherMember, accepted⟩
    exact (forall₂_address_iff narrow member otherMember).mp accepted
  · rintro rfl
    exact ⟨member, (forall₂_address_iff narrow member member).mpr rfl⟩

theorem not_overflowing_address {chain : List Place} (narrow : Narrow siblings)
    (member : chain ∈ chainsAll [] siblings) :
    ¬ Overflowing (chain.map Place.address) siblings := by
  refine narrow.not_overflowing fun text inAddress name written => ?_
  obtain ⟨place, inChain, rfl⟩ := List.mem_map.mp inAddress
  have smaller := rank_add_one_lt narrow member place inChain
  have indexed : Indexed place.address place.node.token place.rank :=
    Place.indexed_address (Nat.lt_of_succ_lt smaller)
  have same := (indexed.unique written).2
  omega

/-! ## Written addresses -/

theorem Place.dotless_address (dotless : '.' ∉ place.node.token) : '.' ∉ place.address := by
  have notDigit : '.' ∉ Text.ofNat place.rank := by
    intro member
    have isDigit := Nat.isDigit_of_mem_toDigits (by decide) (by decide) member
    contradiction
  simp [Place.address, dotless, notDigit]

theorem splitOn_address (nonempty : chain ≠ [])
    (dotless : ∀ place ∈ chain, '.' ∉ place.node.token) :
    List.splitOn '.' (address chain) = chain.map Place.address := by
  unfold address
  apply Text.splitOn_join
  · simpa using nonempty
  · intro segment member
    obtain ⟨place, inChain, rfl⟩ := List.mem_map.mp member
    exact Place.dotless_address (dotless place inChain)

end BnfParsing.Path

namespace BnfParsing.Tree

open BnfParsing.Path

/-- The address of a node selects this node and no other one, provided no token on the
way to it has a dot. There is a way to every node, in pre-order. Siblings are counted
in words of 64 bits, which number more than a memory holds. -/
theorem address_selects_node (tree : Tree)
    (fits : ∀ node ∈ tree.nodes, Countable node.children) :
    (chains [] tree).filterMap final? = tree.nodes ∧
      ∀ chain ∈ chains [] tree, (∀ place ∈ chain, '.' ∉ place.node.token) →
        ∃ node, final? chain = some node ∧ tree.path (address chain) = .ok [node] ∧
          (chains [] tree).filter (fun other =>
            List.Forall₂ Accepts (List.splitOn '.' (address chain)) other) = [chain] := by
  have single : chainsAll [] [tree] = chains [] tree := List.append_nil _
  have narrow : Narrow [tree] := .single fits
  refine ⟨filterMap_final?_chains tree [], fun chain member dotless => ?_⟩
  rw [← single] at member ⊢
  have nonempty : chain ≠ [] := ne_nil_of_mem_chainsAll member
  have accepted := filter_address_eq_singleton narrow member
  have leads : final? chain = some (chain.getLast nonempty).node := by
    rw [final?, List.getLast?_eq_some_getLast nonempty]
    rfl
  refine ⟨_, leads, ?_, ?_⟩
  · have followed : tree.path (address chain) =
        .ok (reached (chain.map Place.address) [tree]) := by
      rw [path_eq_reach, splitOn_address nonempty dotless]
      exact reach_eq_reached (not_overflowing_address narrow member)
    rw [followed, reached, accepted, List.filterMap_cons_some leads, List.filterMap_nil]
  · rw [splitOn_address nonempty dotless]
    exact accepted

/-- Nodes whose tokens look like segments: stars, empty texts, and brackets with
positions. -/
def bracketedTokens : Tree :=
  .ofRule ['*']
    [.leaf [], .ofRule "x[1]".toList [.leaf ['*'], .leaf ['*']], .leaf [],
      .ofRule "x[1]".toList [.leaf "[0]".toList, .leaf ['*'], .leaf [], .leaf ['*']]]

/-- The way to the last star. -/
def lastStar : List Place :=
  [⟨[], bracketedTokens⟩,
    ⟨bracketedTokens.children.take 3,
      .ofRule "x[1]".toList [.leaf "[0]".toList, .leaf ['*'], .leaf [], .leaf ['*']]⟩,
    ⟨[.leaf "[0]".toList, .leaf ['*'], .leaf []], .leaf ['*']⟩]

theorem bracketedTokens_address :
    (∀ node ∈ bracketedTokens.nodes, Countable node.children) ∧
      lastStar ∈ chains [] bracketedTokens ∧ (∀ place ∈ lastStar, '.' ∉ place.node.token) ∧
      address lastStar = "*[0].x[1][1].*[1]".toList ∧
      bracketedTokens.path "*[0].x[1][1].*[1]".toList = .ok [.leaf ['*']] := by
  have short : ∀ node ∈ bracketedTokens.nodes, node.children.length < UInt64.size := by decide
  have fits : ∀ node ∈ bracketedTokens.nodes, Countable node.children :=
    fun node member => .of_length (short node member)
  have tenth : (chains [] bracketedTokens)[10]? = some lastStar := rfl
  have member : lastStar ∈ chains [] bracketedTokens := List.mem_of_getElem? tenth
  have dotless : ∀ place ∈ lastStar, '.' ∉ place.node.token := by decide
  obtain ⟨node, leads, selects, -⟩ :=
    (address_selects_node bracketedTokens fits).2 lastStar member dotless
  obtain rfl : Tree.leaf ['*'] = node := Option.some.inj leads
  exact ⟨fits, member, dotless, rfl, selects⟩

end BnfParsing.Tree
