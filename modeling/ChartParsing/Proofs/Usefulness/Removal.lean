import ChartParsing.Proofs.Forest.Agreement
import ChartParsing.Proofs.Usefulness.Productivity

/-!
# Grammars without some nonterminals

Removing nonterminals from a grammar takes away the rules that mention them and
no names.  A nonterminal that is kept may then have fewer derivation trees, unless
whatever it can use in a tree is kept as well.  If this is so, the trees of the
nonterminals that are kept stay what they were, and so do their cells, and the
forests that are extracted from these.
-/

namespace ChartParsing

theorem Numbering.toList_insert_fresh {α : Type} [DecidableEq α] [Bucketed α]
    {first second : Numbering α} {value : α} (same : second.toList = first.toList)
    (fresh : first.position? value = none) :
    (second.insert value).2.toList = (first.append value fresh).toList := by
  rw [toList_insert, toList_append, same, if_neg (position?_eq_none_iff.mp fresh)]

namespace Grammar

/-- The names are those of a grammar, and the rules are those that
mention nothing removed. -/
structure Trims (grammar trimmed : Grammar) (removed : List Nonterminal) : Prop where
  nonterminals : trimmed.nonterminals.toList = grammar.nonterminals.toList
  terminals : trimmed.terminals.toList = grammar.terminals.toList
  rules : ∀ rule, rule ∈ trimmed.rules.toList ↔ rule ∈ grammar.rules.toList ∧
    ∀ nonterminal ∈ rule.lhs :: rule.nonterminals, nonterminal ∉ removed

/-- What is kept can use only what is kept in a tree, and a start symbol with a
tree is kept. -/
structure Spares (grammar : Grammar) (removed : List Nonterminal) (start : Nonterminal) :
    Prop where
  start : grammar.Productive start → start ∉ removed
  used : ∀ rule ∈ grammar.rules.toList, rule.lhs ∉ removed →
    (∀ nonterminal ∈ rule.nonterminals, grammar.Productive nonterminal) →
      ∀ nonterminal ∈ rule.nonterminals, nonterminal ∉ removed

variable {grammar trimmed : Grammar} {removed : List Nonterminal} {start : Nonterminal}

/-! ## Names and rules -/

theorem Trims.terminal? (trims : grammar.Trims trimmed removed) (name : String) :
    trimmed.terminal? name = grammar.terminal? name := by
  rw [Grammar.terminal?, Grammar.terminal?, Numbering.position?_eq_idxOf?,
    Numbering.position?_eq_idxOf?, trims.terminals]

theorem Trims.terminal_iff (trims : grammar.Trims trimmed removed) {lhs : Nonterminal}
    {letter : Terminal} :
    ⟨lhs, .terminal letter⟩ ∈ trimmed.rules.toList ↔
      ⟨lhs, .terminal letter⟩ ∈ grammar.rules.toList ∧ lhs ∉ removed := by
  simp [trims.rules, Rule.nonterminals, RightHandSide.nonterminals]

theorem Trims.pair_iff (trims : grammar.Trims trimmed removed) {lhs left right : Nonterminal} :
    ⟨lhs, .pair left right⟩ ∈ trimmed.rules.toList ↔
      ⟨lhs, .pair left right⟩ ∈ grammar.rules.toList ∧
        lhs ∉ removed ∧ left ∉ removed ∧ right ∉ removed := by
  simp [trims.rules, Rule.nonterminals, RightHandSide.nonterminals]

theorem Spares.pair (spares : grammar.Spares removed start) {lhs left right : Nonterminal}
    (member : ⟨lhs, .pair left right⟩ ∈ grammar.rules.toList) (kept : lhs ∉ removed)
    (leftProductive : grammar.Productive left) (rightProductive : grammar.Productive right) :
    left ∉ removed ∧ right ∉ removed := by
  have used := spares.used _ member kept
  simp only [Rule.nonterminals, RightHandSide.nonterminals, List.forall_mem_cons] at used
  obtain ⟨leftKept, rightKept, _⟩ := used ⟨leftProductive, rightProductive, by simp⟩
  exact ⟨leftKept, rightKept⟩

/-! ## Building what remains -/

theorem Trims.nonterminalBound (trims : grammar.Trims trimmed removed) :
    trimmed.nonterminalBound = grammar.nonterminalBound := by
  rw [Grammar.nonterminalBound, Grammar.nonterminalBound, ← Numbering.length_toList,
    trims.nonterminals, Numbering.length_toList]

theorem Reachable.exists_addRule {rule : Rule} (reachable : grammar.Reachable)
    (named : rule.lhs.index < grammar.nonterminalBound) :
    ∃ after : Grammar, after.Reachable ∧ after.nonterminals = grammar.nonterminals ∧
      after.terminals = grammar.terminals ∧
      ∀ other, other ∈ after.rules.toList ↔ other ∈ grammar.rules.toList ∨ other = rule := by
  rw [← reachable.wellFormed.listed] at named
  obtain ⟨number, after, added⟩ := Grammar.exists_addRule rule named
  obtain ⟨nonterminals, terminals⟩ := names_addRule added
  refine ⟨after, ?_, nonterminals, terminals, ?_⟩
  · rcases rule with ⟨lhs, rhs⟩
    cases rhs with
    | terminal letter =>
        apply Construction.reachable_perform? reachable (.terminalRule lhs letter)
        rw [Construction.perform?, added]
        rfl
    | pair left right =>
        apply Construction.reachable_perform? reachable (.pairRule lhs left right)
        rw [Construction.perform?, added]
        rfl
  · intro other
    rw [rules_addRule added, Numbering.mem_toList_insert]

theorem Trims.exists_change {after : Grammar} (trims : grammar.Trims trimmed removed)
    (formed : grammar.WellFormed) (built : trimmed.Reachable) (change : grammar.Change after) :
    ∃ next : Grammar, next.Reachable ∧ after.Trims next removed := by
  cases change with
  | nothing => exact ⟨trimmed, built, trims⟩
  | @nonterminal name fresh =>
      obtain ⟨terminals, rules⟩ := trimmed.others_addNonterminal name
      refine ⟨(trimmed.addNonterminal name).2,
        Construction.reachable_perform? built (.nonterminal name) rfl, ?_,
        terminals ▸ trims.terminals, rules ▸ trims.rules⟩
      rw [nonterminals_addNonterminal]
      exact Numbering.toList_insert_fresh trims.nonterminals fresh
  | @terminal name fresh =>
      exact ⟨(trimmed.addTerminal name).2,
        Construction.reachable_perform? built (.terminal name) rfl, trims.nonterminals,
        Numbering.toList_insert_fresh trims.terminals fresh, trims.rules⟩
  | @rule rule fresh named =>
      by_cases kept : ∀ nonterminal ∈ rule.lhs :: rule.nonterminals, nonterminal ∉ removed
      · rw [formed.listed, ← trims.nonterminalBound] at named
        obtain ⟨next, nextBuilt, nonterminals, terminals, rules⟩ := built.exists_addRule named
        refine ⟨next, nextBuilt, nonterminals ▸ trims.nonterminals, terminals ▸ trims.terminals, ?_⟩
        intro other
        rw [rules, trims.rules, mem_rules_enter fresh, or_and_right]
        exact or_congr_right (iff_self_and.mpr fun same => same ▸ kept)
      · refine ⟨trimmed, built, trims.nonterminals, trims.terminals, ?_⟩
        intro other
        rw [trims.rules, mem_rules_enter fresh, or_and_right]
        refine (or_iff_left ?_).symm
        intro added
        obtain ⟨rfl, spared⟩ := added
        exact kept spared

/-- Every grammar can be built without the rules that mention some nonterminals. -/
theorem Reachable.exists_trims (reachable : grammar.Reachable) (removed : List Nonterminal) :
    ∃ trimmed : Grammar, trimmed.Reachable ∧ grammar.Trims trimmed removed := by
  obtain ⟨calls, performed⟩ := reachable
  have followed := Construction.performAll?_keeps (motive := fun grammar => grammar.WellFormed ∧
    ∃ trimmed : Grammar, trimmed.Reachable ∧ grammar.Trims trimmed removed) ?_ ?_ performed
  · exact followed.2
  · intro before after change earlier
    obtain ⟨formed, trimmed, built, trims⟩ := earlier
    exact ⟨formed.change change, trims.exists_change formed built change⟩
  · refine ⟨wellFormed_empty, .empty, Construction.reachable_empty, rfl, rfl, ?_⟩
    intro rule
    exact (and_iff_left_of_imp fun absent => absurd absent List.not_mem_nil).symm

end Grammar

variable {grammar trimmed : Grammar} {removed : List Nonterminal} {start : Nonterminal}

/-! ## Trees -/

namespace DerivationTree

theorem valid_trimmed_iff (trims : grammar.Trims trimmed removed)
    (spares : grammar.Spares removed start) {tree : DerivationTree} :
    tree.Valid trimmed ↔ tree.Valid grammar ∧ tree.root ∉ removed := by
  induction tree with
  | leaf lhs letter => exact trims.terminal_iff
  | branch lhs left right leftInduction rightInduction =>
      rw [Valid, Valid, trims.pair_iff, leftInduction, rightInduction, root]
      constructor
      · intro valid
        obtain ⟨⟨member, kept, _⟩, ⟨leftValid, _⟩, rightValid, _⟩ := valid
        exact ⟨⟨member, leftValid, rightValid⟩, kept⟩
      · intro valid
        obtain ⟨⟨member, leftValid, rightValid⟩, kept⟩ := valid
        obtain ⟨leftKept, rightKept⟩ :=
          spares.pair member kept ⟨left, leftValid, rfl⟩ ⟨right, rightValid, rfl⟩
        exact ⟨⟨member, kept, leftKept, rightKept⟩, ⟨leftValid, leftKept⟩, rightValid, rightKept⟩

theorem parses_trimmed_iff (trims : grammar.Trims trimmed removed)
    (spares : grammar.Spares removed start) {nonterminal : Nonterminal} {symbols : List String}
    {tree : DerivationTree} :
    tree.Parses trimmed nonterminal symbols ↔
      tree.Parses grammar nonterminal symbols ∧ nonterminal ∉ removed := by
  have named : trimmed.terminal? = grammar.terminal? := funext trims.terminal?
  constructor
  · intro parses
    obtain ⟨rfl, valid, spelled⟩ := parses
    obtain ⟨valid, kept⟩ := (valid_trimmed_iff trims spares).mp valid
    exact ⟨⟨rfl, valid, named ▸ spelled⟩, kept⟩
  · intro parses
    obtain ⟨⟨rfl, valid, spelled⟩, kept⟩ := parses
    exact ⟨rfl, (valid_trimmed_iff trims spares).mpr ⟨valid, kept⟩, named ▸ spelled⟩

end DerivationTree

/-! ## Cells -/

theorem NonterminalSet.toList_eq_filter {small large : NonterminalSet}
    {keep : Nonterminal → Bool}
    (same : ∀ nonterminal, nonterminal ∈ small ↔ nonterminal ∈ large ∧ keep nonterminal = true) :
    small.toList = large.toList.filter keep := by
  have filtered : small = ⟨large.toList.filter keep, large.increasing.filter keep⟩ :=
    NonterminalSet.ext fun nonterminal => (same nonterminal).trans List.mem_filter.symm
  exact congrArg NonterminalSet.toList filtered

namespace Chart

variable {symbols : Array String} {separator : String}

theorem productive_of_mem_cell (formed : grammar.WellFormed) {span : Span}
    {nonterminal : Nonterminal}
    (member : nonterminal ∈ (fill grammar symbols separator).cell span) :
    grammar.Productive nonterminal := by
  have within := within_of_mem_cell member
  rw [size_fill] at within
  obtain ⟨tree, parses⟩ := (mem_cell_iff_exists_tree separator formed within).mp member
  exact ⟨tree, parses.valid, parses.root⟩

theorem filter_pairs (offset : Nat) (keep : Nonterminal → Bool)
    (lefts rights : List Nonterminal) :
    ((lefts.filter keep).flatMap fun left =>
        (rights.filter keep).map (Pairing.mk offset left)) =
      (lefts.flatMap fun left => rights.map (Pairing.mk offset left)).filter fun pairing =>
        keep pairing.left && keep pairing.right := by
  induction lefts with
  | nil => rfl
  | cons first rest induction =>
      rw [List.flatMap_cons, List.filter_append, ← induction, List.filter_map]
      cases kept : keep first with
      | true => simp [kept, Function.comp_def]
      | false => simp [kept, Function.comp_def]

section Trimmed

variable (formed : grammar.WellFormed) (trimmedFormed : trimmed.WellFormed)
  (trims : grammar.Trims trimmed removed) (spares : grammar.Spares removed start)

include formed trimmedFormed trims spares

theorem mem_cell_trimmed_iff {span : Span} {nonterminal : Nonterminal} :
    nonterminal ∈ (fill trimmed symbols separator).cell span ↔
      nonterminal ∈ (fill grammar symbols separator).cell span ∧ nonterminal ∉ removed := by
  by_cases within : span.Within symbols.size
  · simp only [mem_cell_iff_exists_tree separator formed within,
      mem_cell_iff_exists_tree separator trimmedFormed within,
      DerivationTree.parses_trimmed_iff trims spares, exists_and_right]
  · rw [cell_of_not_within (size_fill.symm ▸ within), cell_of_not_within (size_fill.symm ▸ within)]
    simp [NonterminalSet.not_mem_empty]

theorem toList_cell_trimmed (span : Span) :
    ((fill trimmed symbols separator).cell span).toList =
      ((fill grammar symbols separator).cell span).toList.filter (· ∉ removed) := by
  apply NonterminalSet.toList_eq_filter
  intro nonterminal
  rw [mem_cell_trimmed_iff formed trimmedFormed trims spares, decide_eq_true_iff]

theorem accepts_trimmed :
    (fill trimmed symbols separator).accepts start =
      (fill grammar symbols separator).accepts start := by
  rw [Bool.eq_iff_iff, accepts_iff, accepts_iff, span_fill_eq grammar,
    mem_cell_trimmed_iff formed trimmedFormed trims spares, and_iff_left_iff_imp]
  intro member
  exact spares.start (productive_of_mem_cell formed member)

/-! ## Pairings -/

theorem pairings_trimmed (span : Span) :
    (fill trimmed symbols separator).pairings span =
      ((fill grammar symbols separator).pairings span).filter fun pairing =>
        pairing.left ∉ removed && pairing.right ∉ removed := by
  rw [pairings, pairings, List.filter_flatMap]
  congr 1
  funext offset
  simp only [pairingsAt, toList_cell_trimmed formed trimmedFormed trims spares]
  exact filter_pairs offset (· ∉ removed) _ _

theorem pairingsOf_trimmed {item : Item} (kept : item.nonterminal ∉ removed) :
    (fill trimmed symbols separator).pairingsOf item =
      (fill grammar symbols separator).pairingsOf item := by
  rw [pairingsOf, pairingsOf, pairings_trimmed formed trimmedFormed trims spares, grammar_fill,
    grammar_fill, List.filter_filter]
  apply List.filter_congr
  intro pairing paired
  obtain ⟨_, _, leftMember, rightMember⟩ := mem_pairings.mp paired
  rw [Bool.eq_iff_iff, Bool.and_eq_true, NonterminalSet.contains_iff, NonterminalSet.contains_iff,
    trimmedFormed.memPair, formed.memPair, trims.pair_iff]
  simp only [Bool.and_eq_true, decide_eq_true_iff]
  constructor
  · intro both
    exact both.1.1
  · intro member
    obtain ⟨leftKept, rightKept⟩ := spares.pair member kept
      (productive_of_mem_cell formed leftMember) (productive_of_mem_cell formed rightMember)
    exact ⟨⟨member, kept, leftKept, rightKept⟩, leftKept, rightKept⟩

theorem agreeOn_trimmed :
    AgreeOn (·.nonterminal ∉ removed) (fill grammar symbols separator)
      (fill trimmed symbols separator) := by
  refine ⟨?_, fun item => pairingsOf_trimmed formed trimmedFormed trims spares, ?_⟩
  · intro position
    rw [terminal?, terminal?, terminals_fill, terminals_fill, funext trims.terminal?]
  · intro item other kept mentions
    obtain ⟨pairing, paired, half⟩ := mentions
    rw [← pairingsOf_trimmed formed trimmedFormed trims spares kept] at paired
    obtain ⟨⟨leftMember, _⟩, rightMember, _⟩ := members_of_mem_pairingsOf paired
    rw [mem_cell_trimmed_iff formed trimmedFormed trims spares] at leftMember rightMember
    rcases half with rfl | rfl
    · exact leftMember.2
    · exact rightMember.2

end Trimmed

end Chart

/-! ## Forests -/

/-- The forest of a start symbol is the same if everything used below it is kept. -/
theorem Forest.extract?_trimmed (formed : grammar.WellFormed) (trimmedFormed : trimmed.WellFormed)
    (trims : grammar.Trims trimmed removed) (spares : grammar.Spares removed start)
    (symbols : Array String) (separator : String) :
    extract? (.fill trimmed symbols separator) start =
      extract? (.fill grammar symbols separator) start := by
  apply extract?_congr Chart.finished_fill Chart.finished_fill
    (Chart.agreeOn_trimmed formed trimmedFormed trims spares)
  · exact Chart.span_fill_eq ..
  · rw [(Chart.sameInput_fill trimmed symbols separator).room,
      (Chart.sameInput_fill grammar symbols separator).room]
    rfl
  · exact Chart.accepts_trimmed formed trimmedFormed trims spares
  · intro accepted
    exact spares.start (Chart.productive_of_mem_cell formed (Chart.accepts_iff.mp accepted))

end ChartParsing
