import ChartParsing.Proofs.Forest.Nodes

/-!
# Ambiguity

A forest is ambiguous if some node has two derivations.  Two pairings of an item
lead to different trees, and these go into different trees over the whole input;
without such a node every item has one tree only.  So a forest is ambiguous
exactly if there are two derivation trees.

It can also be told from the number of nodes.  A tree over `n` symbols has
`2n - 1` items, and all of them have nodes.  If there are no other nodes, all
trees have the same items and are therefore one tree.
-/

namespace ChartParsing

theorem NodeKind.Explains.length_derivations {chart : Chart} {items : Numbering Item}
    {item : Item} {kind : NodeKind} (explains : kind.Explains chart items item) :
    kind.derivations.length = (chart.pairingsOf item).length := by
  cases explains with
  | leaf single _ => simp [derivations, Chart.pairingsOf, Chart.pairings, single]
  | branch _ denoted => exact denoted.length_eq.symm

namespace Forest

variable {chart : Chart} {grammar : Grammar} {symbols : Array String} {separator : String}
  {start : Nonterminal} {forest : Forest} {item : Item}

theorem isAmbiguous_iff (explained : forest.Explained chart start)
    (connected : forest.Connected chart) :
    forest.isAmbiguous = true ↔
      ∃ id item, forest.items.get? id = some item ∧ 1 < (chart.pairingsOf item).length := by
  simp only [isAmbiguous, Array.any_eq_true, decide_eq_true_eq]
  constructor
  · intro several
    obtain ⟨id, inside, long⟩ := several
    obtain ⟨item, found⟩ := Numbering.exists_get? (connected.kindsSize ▸ inside)
    obtain ⟨kind, settled, explains⟩ := explained.kinds found
    obtain ⟨_, same⟩ := Array.getElem?_eq_some_iff.mp settled
    rw [same, explains.length_derivations] at long
    exact ⟨id, item, found, long⟩
  · intro several
    obtain ⟨id, item, found, long⟩ := several
    obtain ⟨kind, settled, explains⟩ := explained.kinds found
    obtain ⟨inside, same⟩ := Array.getElem?_eq_some_iff.mp settled
    refine ⟨id, inside, ?_⟩
    rw [same, explains.length_derivations]
    exact long

theorem exists_tree_of_pairing (formed : grammar.WellFormed)
    (member : item.nonterminal ∈ (Chart.fill grammar symbols separator).cell item.span)
    {pairing : Pairing}
    (paired : pairing ∈ (Chart.fill grammar symbols separator).pairingsOf item) :
    ∃ left right, pairing = ⟨left.letters.length, left.root, right.root⟩ ∧
      .branch item.nonterminal left right ∈ item.trees grammar symbols := by
  obtain ⟨⟨leftCell, _⟩, rightCell, _⟩ := Chart.members_of_mem_pairingsOf paired
  obtain ⟨left, leftIn⟩ := Item.exists_tree formed leftCell
  obtain ⟨right, rightIn⟩ := Item.exists_tree formed rightCell
  exact ⟨left, right, Pairing.eq_of_mem_trees paired leftIn rightIn,
    Item.branch_mem_trees formed member paired leftIn rightIn⟩

theorem exists_two_trees (formed : grammar.WellFormed)
    (member : item.nonterminal ∈ (Chart.fill grammar symbols separator).cell item.span)
    (several : 1 < ((Chart.fill grammar symbols separator).pairingsOf item).length) :
    ∃ first ∈ item.trees grammar symbols, ∃ second ∈ item.trees grammar symbols,
      first ≠ second := by
  have distinct := Chart.nodup_pairingsOf (Chart.fill grammar symbols separator) item
  obtain ⟨left, right, shown, first⟩ := exists_tree_of_pairing formed member
    (List.getElem_mem (Nat.zero_lt_of_lt several))
  obtain ⟨otherLeft, otherRight, otherShown, second⟩ := exists_tree_of_pairing formed member
    (List.getElem_mem several)
  refine ⟨_, first, _, second, ?_⟩
  intro same
  obtain ⟨_, rfl, rfl⟩ := DerivationTree.branch.inj same
  have places := (distinct.getElem_inj_iff).mp (shown.trans otherShown.symm)
  exact absurd places Nat.zero_ne_one

namespace Explained

/-- Without a node that has two derivations, a node has one tree only. -/
theorem tree_unique (formed : grammar.WellFormed)
    (explained : forest.Explained (Chart.fill grammar symbols separator) start)
    (connected : forest.Connected (Chart.fill grammar symbols separator))
    (plain : forest.isAmbiguous = false) {id : Nat} (found : forest.items.get? id = some item)
    {first second : DerivationTree} (firstIn : first ∈ item.trees grammar symbols)
    (secondIn : second ∈ item.trees grammar symbols) : first = second := by
  induction measure : item.span.length using Nat.strongRecOn
    generalizing id item first second with
  | ind length induction =>
      have member := explained.members found
      have within := Item.within_of_member member
      by_cases single : item.span.length = 1
      · obtain ⟨letter, named⟩ := Extraction.exists_terminal? Chart.finished_fill member single
        rw [Item.mem_trees_single_iff formed member single named] at firstIn secondIn
        exact firstIn.trans secondIn.symm
      · rw [Item.mem_trees_long_iff separator formed within single] at firstIn secondIn
        obtain ⟨pairing, paired, left, leftIn, right, rightIn, rfl⟩ := firstIn
        obtain ⟨other, otherPaired, otherLeft, otherLeftIn, otherRight, otherRightIn, rfl⟩ :=
          secondIn
        have few : ((Chart.fill grammar symbols separator).pairingsOf item).length ≤ 1 := by
          apply Nat.le_of_not_lt
          intro several
          have ambiguous := (isAmbiguous_iff explained connected).mpr ⟨id, item, found, several⟩
          rw [plain] at ambiguous
          cases ambiguous
        obtain ⟨only, listed⟩ := List.length_eq_one_iff.mp
          (Nat.le_antisymm few (List.length_pos_of_mem paired))
        have same : other = pairing := by
          rw [listed, List.mem_singleton] at paired otherPaired
          exact otherPaired.trans paired.symm
        cases same
        obtain ⟨place, hit⟩ := List.mem_iff_getElem?.mp paired
        obtain ⟨leftId, rightId, leftFound, rightFound⟩ := explained.exists_ids found single hit
        obtain ⟨⟨_, leftShorter⟩, _, rightShorter⟩ := Chart.members_of_mem_pairingsOf paired
        rw [induction _ (measure ▸ leftShorter) leftFound leftIn otherLeftIn rfl,
          induction _ (measure ▸ rightShorter) rightFound rightIn otherRightIn rfl]

/-- A forest is ambiguous exactly if there are two trees. -/
theorem isAmbiguous_iff_exists_trees (formed : grammar.WellFormed)
    (explained : forest.Explained (Chart.fill grammar symbols separator) start)
    (connected : forest.Connected (Chart.fill grammar symbols separator)) :
    forest.isAmbiguous = true ↔
      ∃ first second : DerivationTree, first.Parses grammar start symbols.toList ∧
        second.Parses grammar start symbols.toList ∧ first ≠ second := by
  have whole := trees_whole grammar symbols separator start
  constructor
  · intro ambiguous
    obtain ⟨id, item, found, several⟩ := (isAmbiguous_iff explained connected).mp ambiguous
    have reached := (explained.exists_get?_iff connected).mp ⟨id, found⟩
    obtain ⟨graft, grafts⟩ :=
      Item.exists_grafts formed reached (explained.members explained.root)
    obtain ⟨first, firstIn, second, secondIn, apart⟩ :=
      exists_two_trees formed (explained.members found) several
    have grafted := grafts.mem_trees
    rw [whole] at grafted
    exact ⟨graft first, graft second, grafted first firstIn, grafted second secondIn,
      fun same => apart (grafts.injective same)⟩
  · intro different
    obtain ⟨first, second, firstParses, secondParses, apart⟩ := different
    apply Bool.eq_true_of_not_eq_false
    intro plain
    exact apart (explained.tree_unique formed connected plain explained.root
      (whole ▸ firstParses : first ∈ _) (whole ▸ secondParses : second ∈ _))

end Explained

/-! ## Counting trees -/

theorem treeCount_eq (formed : grammar.WellFormed)
    (explained : forest.Explained (Chart.fill grammar symbols separator) start) :
    forest.treeCount =
      cap {tree : DerivationTree | tree.Parses grammar start symbols.toList}.ncard := by
  rw [← trees_whole grammar symbols separator start]
  exact getD_counts formed explained explained.root

theorem le_cap_iff {bound count : Nat} (small : bound ≤ maxCount) :
    bound ≤ cap count ↔ bound ≤ count := by
  rw [cap, Nat.le_min, and_iff_left small]

/-- A nonterminal that is accepted has a forest with at least one tree.  The
forest is ambiguous exactly if there are two derivation trees, and exactly if two
or more are counted. -/
theorem isAmbiguous_iff_two_trees {grammar : Grammar} (reachable : grammar.Reachable)
    (symbols : Array String) (separator : String) (start : Nonterminal)
    (accepted : (Chart.fill grammar symbols separator).accepts start = true) :
    ∃ forest, extract? (Chart.fill grammar symbols separator) start = some forest ∧
      (forest.isAmbiguous = true ↔
        ∃ first second : DerivationTree, first.Parses grammar start symbols.toList ∧
          second.Parses grammar start symbols.toList ∧ first ≠ second) ∧
      (forest.isAmbiguous = true ↔ 2 ≤ forest.treeCount) ∧
      1 ≤ forest.treeCount := by
  have formed := reachable.wellFormed
  obtain ⟨forest, extracted, explained⟩ := extract?_of_accepts Chart.finished_fill accepted
  have connected := connected_of_extract? Chart.finished_fill extracted
  have member := explained.members explained.root
  have finite := Item.finite_trees formed member
  have some_tree := Item.exists_tree formed member
  rw [trees_whole] at finite some_tree
  have ambiguous := explained.isAmbiguous_iff_exists_trees formed connected
  refine ⟨forest, extracted, ambiguous, ?_, ?_⟩
  · rw [ambiguous, treeCount_eq formed explained, le_cap_iff (by decide)]
    exact (Set.one_lt_ncard_iff finite).symm
  · rw [treeCount_eq formed explained, le_cap_iff (by decide)]
    exact (Set.ncard_pos finite).mpr some_tree

/-- Three letters have two trees under the sample grammar. -/
theorem isAmbiguous_iff_two_trees_sample :
    Construction.sample.Reachable ∧
      (Chart.fill Construction.sample #["a", "a", "a"] " ").accepts ⟨0⟩ = true ∧
      ∃ forest, extract? (Chart.fill Construction.sample #["a", "a", "a"] " ") ⟨0⟩ = some forest ∧
        forest.isAmbiguous = true ∧ 2 ≤ forest.treeCount ∧
        ∃ first second : DerivationTree,
          first.Parses Construction.sample ⟨0⟩ #["a", "a", "a"].toList ∧
            second.Parses Construction.sample ⟨0⟩ #["a", "a", "a"].toList ∧ first ≠ second := by
  have reachable := Construction.reachable_sample
  have accepted : (Chart.fill Construction.sample #["a", "a", "a"] " ").accepts ⟨0⟩ = true := by
    decide +kernel
  obtain ⟨forest, extracted, different, counted, _⟩ :=
    isAmbiguous_iff_two_trees reachable #["a", "a", "a"] " " ⟨0⟩ accepted
  have ambiguous : (extract? (Chart.fill Construction.sample #["a", "a", "a"] " ") ⟨0⟩).map
      isAmbiguous = some true := by decide +kernel
  rw [extracted, Option.map_some, Option.some.injEq] at ambiguous
  exact ⟨reachable, accepted, forest, extracted, ambiguous, counted.mp ambiguous,
    different.mp ambiguous⟩

/-! ## Counting nodes -/

namespace Explained

/-- The items of a tree over the whole input have nodes of their own, and there are
nearly twice as many of them as symbols. -/
theorem items_subperm (formed : grammar.WellFormed)
    (explained : forest.Explained (Chart.fill grammar symbols separator) start)
    (connected : forest.Connected (Chart.fill grammar symbols separator)) {tree : DerivationTree}
    (parses : tree.Parses grammar start symbols.toList) :
    (tree.items 0).Subperm forest.items.toList ∧
      (tree.items 0).length + 1 = 2 * symbols.size := by
  constructor
  · apply List.subperm_of_subset (tree.nodup_items 0)
    intro item occurs
    exact (explained.mem_items_iff formed connected).mpr ⟨tree, parses, occurs⟩
  · rw [tree.length_items, parses.length, Array.length_toList]

theorem mem_items_iff_of_size_lt (formed : grammar.WellFormed)
    (explained : forest.Explained (Chart.fill grammar symbols separator) start)
    (connected : forest.Connected (Chart.fill grammar symbols separator))
    (few : forest.size < 2 * symbols.size) {tree : DerivationTree}
    (parses : tree.Parses grammar start symbols.toList) {item : Item} :
    item ∈ tree.items 0 ↔ item ∈ forest.items.toList := by
  obtain ⟨inside, length⟩ := explained.items_subperm formed connected parses
  apply (inside.perm_of_length_le ?_).mem_iff
  rw [Numbering.length_toList]
  rw [size] at few
  omega

/-- A forest has as many nodes as one tree has items exactly if there are no two trees. -/
theorem size_lt_iff (formed : grammar.WellFormed)
    (explained : forest.Explained (Chart.fill grammar symbols separator) start)
    (connected : forest.Connected (Chart.fill grammar symbols separator)) :
    forest.size < 2 * symbols.size ↔ forest.isAmbiguous = false := by
  rw [Bool.eq_false_iff, ne_eq, explained.isAmbiguous_iff_exists_trees formed connected]
  constructor
  · intro few different
    obtain ⟨first, second, firstParses, secondParses, apart⟩ := different
    have spelled : first.letters = second.letters := by
      apply List.map_injective_iff.mpr (Option.some_injective Terminal)
      exact firstParses.spelled.trans secondParses.spelled.symm
    apply apart
    apply DerivationTree.eq_of_items spelled
    intro item
    rw [explained.mem_items_iff_of_size_lt formed connected few firstParses,
      explained.mem_items_iff_of_size_lt formed connected few secondParses]
  · intro unique
    obtain ⟨tree, parses⟩ := Item.exists_tree formed (explained.members explained.root)
    rw [trees_whole] at parses
    have inside : forest.items.toList ⊆ tree.items 0 := by
      intro item known
      obtain ⟨other, otherParses, occurs⟩ := (explained.mem_items_iff formed connected).mp known
      have same : other = tree :=
        Classical.byContradiction fun apart => unique ⟨other, tree, otherParses, parses, apart⟩
      exact same ▸ occurs
    have few := List.Nodup.length_le_of_subset explained.distinct inside
    obtain ⟨_, length⟩ := explained.items_subperm formed connected parses
    rw [Numbering.length_toList] at few
    rw [size, ← length]
    exact Nat.lt_succ_of_le few

end Explained

/-- A forest over `n` symbols has at least `2n - 1` nodes, and it has no more exactly if
it is not ambiguous. -/
theorem size_eq_iff_not_ambiguous {grammar : Grammar} (reachable : grammar.Reachable)
    (symbols : Array String) (separator : String) (start : Nonterminal)
    (accepted : (Chart.fill grammar symbols separator).accepts start = true) :
    1 ≤ symbols.size ∧
      ∃ forest, extract? (Chart.fill grammar symbols separator) start = some forest ∧
        2 * symbols.size - 1 ≤ forest.size ∧
        (forest.size = 2 * symbols.size - 1 ↔ forest.isAmbiguous = false) := by
  have formed := reachable.wellFormed
  obtain ⟨forest, extracted, explained⟩ := extract?_of_accepts Chart.finished_fill accepted
  have connected := connected_of_extract? Chart.finished_fill extracted
  have member := explained.members explained.root
  obtain ⟨tree, parses⟩ := Item.exists_tree formed member
  rw [trees_whole] at parses
  have within := Item.within_of_member member
  have nonempty : 1 ≤ symbols.size := Nat.lt_of_lt_of_le within.positive within.length_le
  obtain ⟨inside, length⟩ := explained.items_subperm formed connected parses
  have least := inside.length_le
  rw [Numbering.length_toList] at least
  refine ⟨nonempty, forest, extracted, ?_, ?_⟩
  · rw [size]
    omega
  · rw [← explained.size_lt_iff formed connected, size]
    omega

/-- Two letters have the three nodes of their only tree. -/
theorem size_eq_iff_not_ambiguous_sample :
    Construction.sample.Reachable ∧
      (Chart.fill Construction.sample #["a", "a"] " ").accepts ⟨0⟩ = true ∧
      ∃ forest, extract? (Chart.fill Construction.sample #["a", "a"] " ") ⟨0⟩ = some forest ∧
        forest.size = 2 * 2 - 1 ∧ forest.isAmbiguous = false := by
  have reachable := Construction.reachable_sample
  have accepted : (Chart.fill Construction.sample #["a", "a"] " ").accepts ⟨0⟩ = true := by
    decide +kernel
  obtain ⟨_, forest, extracted, _, minimal⟩ :=
    size_eq_iff_not_ambiguous reachable #["a", "a"] " " ⟨0⟩ accepted
  have three : (extract? (Chart.fill Construction.sample #["a", "a"] " ") ⟨0⟩).map size =
      some (2 * 2 - 1) := by decide +kernel
  rw [extracted, Option.map_some, Option.some.injEq] at three
  exact ⟨reachable, accepted, forest, extracted, three, minimal.mp three⟩

end Forest

end ChartParsing
