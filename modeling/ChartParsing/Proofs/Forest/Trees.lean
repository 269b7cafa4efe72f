import Mathlib.Data.List.Nodup
import Mathlib.Data.List.ProdSigma
import Mathlib.Data.Set.Card
import ChartParsing.Proofs.Forest.Extraction

/-!
# The derivation trees of an item

A tree over a single position is its leaf.  A longer one consists of a tree for
either half of some pairing, and the pairing can be read off the two trees.  So
the trees of an item are listed without repetition by listing those of shorter
items, and there are as many of them as pairs of trees for the pairings.
-/

namespace ChartParsing

namespace Chart

theorem nodup_pairingsAt (chart : Chart) (span : Span) (offset : Nat) :
    (chart.pairingsAt span offset).Nodup := by
  refine List.nodup_flatMap.mpr ⟨fun left _ => ?_, ?_⟩
  · apply (NonterminalSet.nodup_toList _).map
    intro first second same
    exact (Pairing.mk.inj same).2.2
  · apply (NonterminalSet.nodup_toList _).imp
    intro first second apart
    apply List.disjoint_left.mpr
    intro pairing inFirst inSecond
    obtain ⟨_, _, rfl⟩ := List.mem_map.mp inFirst
    obtain ⟨_, _, same⟩ := List.mem_map.mp inSecond
    exact apart (Pairing.mk.inj same).2.1.symm

theorem split_of_mem_pairingsAt {chart : Chart} {span : Span} {offset : Nat} {pairing : Pairing}
    (member : pairing ∈ chart.pairingsAt span offset) : pairing.split = offset := by
  obtain ⟨_, _, inLeft⟩ := List.mem_flatMap.mp member
  obtain ⟨_, _, rfl⟩ := List.mem_map.mp inLeft
  rfl

theorem nodup_pairingsOf (chart : Chart) (item : Item) : (chart.pairingsOf item).Nodup := by
  have offsets : (List.range' 1 (item.span.length - 1)).Nodup := List.nodup_range'
  refine List.Nodup.filter _ (List.nodup_flatMap.mpr ⟨fun offset _ => ?_, ?_⟩)
  · exact chart.nodup_pairingsAt item.span offset
  · apply offsets.imp
    intro first second apart
    apply List.disjoint_left.mpr
    intro pairing inFirst inSecond
    exact apart ((split_of_mem_pairingsAt inFirst).symm.trans (split_of_mem_pairingsAt inSecond))

end Chart

namespace Item

/-- The derivation trees of a nonterminal over the symbols that a span covers. -/
def trees (grammar : Grammar) (symbols : Array String) (item : Item) : Set DerivationTree :=
  {tree | tree.Parses grammar item.nonterminal (item.span.slice symbols.toList)}

variable {grammar : Grammar} {symbols : Array String} {separator : String} {item : Item}
  {tree : DerivationTree}

theorem mem_trees : tree ∈ item.trees grammar symbols ↔
    tree.Parses grammar item.nonterminal (item.span.slice symbols.toList) :=
  Iff.rfl

theorem within_of_member
    (member : item.nonterminal ∈ (Chart.fill grammar symbols separator).cell item.span) :
    item.span.Within symbols.size := by
  have within := Chart.within_of_mem_cell member
  rwa [Chart.size_fill] at within

theorem mem_trees_single_iff (formed : grammar.WellFormed)
    (member : item.nonterminal ∈ (Chart.fill grammar symbols separator).cell item.span)
    (single : item.span.length = 1) {letter : Terminal}
    (found : (Chart.fill grammar symbols separator).terminal? item.span.start = some letter) :
    tree ∈ item.trees grammar symbols ↔ tree = .leaf item.nonterminal letter := by
  have within := within_of_member member
  have inside := within.start_lt
  rw [Chart.cell_fill within, Chart.derived, if_pos single, Chart.mem_deriveLeaf] at member
  obtain ⟨other, same, derives⟩ := member
  cases found.symm.trans same
  rw [Chart.grammar_fill, formed.memTerminal] at derives
  rw [Chart.terminal?_fill inside] at found
  have symbol : symbols.toList[item.span.start]? = some (symbols[item.span.start]) := by
    rw [Array.getElem?_toList, Array.getElem?_eq_getElem]
  rw [mem_trees, Span.slice_single single symbol, DerivationTree.parses_single_iff]
  constructor
  · intro given
    obtain ⟨named, rfl, known, _⟩ := given
    cases found.symm.trans known
    rfl
  · intro same
    exact ⟨letter, same, found, derives⟩

/-- A tree over two positions or more is a tree for each half of a pairing. -/
theorem mem_trees_long_iff (separator : String) (formed : grammar.WellFormed)
    (within : item.span.Within symbols.size) (long : item.span.length ≠ 1) :
    tree ∈ item.trees grammar symbols ↔
      ∃ pairing ∈ (Chart.fill grammar symbols separator).pairingsOf item,
        ∃ left ∈ (pairing.items item.span).1.trees grammar symbols,
          ∃ right ∈ (pairing.items item.span).2.trees grammar symbols,
            tree = .branch item.nonterminal left right := by
  have total : (item.span.slice symbols.toList).length = item.span.length :=
    Span.length_slice symbols.toList within
  have positive := within.positive
  have several : 1 < (item.span.slice symbols.toList).length := by omega
  simp only [mem_trees, Pairing.items, DerivationTree.parses_long_iff several, total]
  constructor
  · intro parsed
    obtain ⟨offset, left, right, offsetPositive, below, rfl, rule, leftParses,
      rightParses⟩ := parsed
    rw [← Span.slice_cut_left (Nat.le_of_lt below)] at leftParses
    rw [← Span.slice_cut_right] at rightParses
    have leftCell := (Chart.mem_cell_iff_exists_tree separator formed
      (within.cut_left offsetPositive below)).mpr ⟨left, leftParses⟩
    have rightCell := (Chart.mem_cell_iff_exists_tree separator formed
      (within.cut_right below)).mpr ⟨right, rightParses⟩
    refine ⟨⟨offset, left.root, right.root⟩, Chart.mem_pairingsOf.mpr ⟨Chart.mem_pairings.mpr
      ⟨offsetPositive, below, leftCell, rightCell⟩, ?_⟩, left, leftParses, right, rightParses, rfl⟩
    rw [Chart.grammar_fill, formed.memPair]
    exact rule
  · intro parted
    obtain ⟨pairing, paired, left, leftParses, right, rightParses, rfl⟩ := parted
    obtain ⟨listed, derives⟩ := Chart.mem_pairingsOf.mp paired
    obtain ⟨offsetPositive, below, _, _⟩ := Chart.mem_pairings.mp listed
    rw [Chart.grammar_fill, formed.memPair, ← leftParses.root, ← rightParses.root] at derives
    rw [Span.slice_cut_left (Nat.le_of_lt below), ← leftParses.root] at leftParses
    rw [Span.slice_cut_right, ← rightParses.root] at rightParses
    exact ⟨pairing.split, left, right, offsetPositive, below, rfl, derives, leftParses, rightParses⟩

theorem length_letters_of_mem_trees (within : item.span.Within symbols.size)
    (member : tree ∈ item.trees grammar symbols) : tree.letters.length = item.span.length :=
  member.length.trans (Span.length_slice symbols.toList within)

end Item

section Pairings

variable {grammar : Grammar} {symbols : Array String} {separator : String} {item : Item}

theorem Chart.members_of_mem_pairingsOf {chart : Chart} {pairing : Pairing}
    (paired : pairing ∈ chart.pairingsOf item) :
    ((pairing.items item.span).1.nonterminal ∈ chart.cell (pairing.items item.span).1.span ∧
        (pairing.items item.span).1.span.length < item.span.length) ∧
      ((pairing.items item.span).2.nonterminal ∈ chart.cell (pairing.items item.span).2.span ∧
        (pairing.items item.span).2.span.length < item.span.length) := by
  obtain ⟨positive, below, leftMember, rightMember⟩ :=
    Chart.mem_pairings.mp (Chart.mem_pairingsOf.mp paired).1
  refine ⟨⟨leftMember, below⟩, rightMember, ?_⟩
  simp only [Pairing.items, Span.cut]
  omega

theorem Pairing.eq_of_mem_trees {pairing : Pairing} {left right : DerivationTree}
    (paired : pairing ∈ (Chart.fill grammar symbols separator).pairingsOf item)
    (leftMember : left ∈ (pairing.items item.span).1.trees grammar symbols)
    (rightMember : right ∈ (pairing.items item.span).2.trees grammar symbols) :
    pairing = ⟨left.letters.length, left.root, right.root⟩ := by
  have within := Item.within_of_member (Chart.members_of_mem_pairingsOf paired).1.1
  rw [Item.length_letters_of_mem_trees within leftMember, leftMember.root, rightMember.root]
  rfl

end Pairings

namespace Item

/-- The trees of an item that consist of a tree for each half of a pairing. -/
def branches (item : Item) (trees : Item → List DerivationTree) (pairing : Pairing) :
    List DerivationTree :=
  (trees (pairing.items item.span).1 ×ˢ trees (pairing.items item.span).2).map
    fun halves => .branch item.nonterminal halves.1 halves.2

variable {item : Item} {trees : Item → List DerivationTree} {pairing : Pairing}

theorem mem_branches {tree : DerivationTree} :
    tree ∈ item.branches trees pairing ↔
      ∃ left ∈ trees (pairing.items item.span).1, ∃ right ∈ trees (pairing.items item.span).2,
        tree = .branch item.nonterminal left right := by
  simp only [branches, List.mem_map, Prod.exists, List.mem_product]
  constructor
  · intro listed
    obtain ⟨left, right, ⟨leftMember, rightMember⟩, rfl⟩ := listed
    exact ⟨left, leftMember, right, rightMember, rfl⟩
  · intro joined
    obtain ⟨left, leftMember, right, rightMember, rfl⟩ := joined
    exact ⟨left, right, ⟨leftMember, rightMember⟩, rfl⟩

theorem nodup_branches (left : (trees (pairing.items item.span).1).Nodup)
    (right : (trees (pairing.items item.span).2).Nodup) :
    (item.branches trees pairing).Nodup := by
  apply (left.product right).map
  intro first second same
  obtain ⟨_, leftSame, rightSame⟩ := DerivationTree.branch.inj same
  exact Prod.ext leftSame rightSame

theorem length_branches : (item.branches trees pairing).length =
    (trees (pairing.items item.span).1).length * (trees (pairing.items item.span).2).length := by
  rw [branches, List.length_map, List.length_product]

end Item

namespace Chart

/-- The derivation trees of an item over at most so many positions. -/
def treesUpTo (chart : Chart) : Nat → Item → List DerivationTree
  | 0, _ => []
  | longest + 1, item =>
      if item.span.length = 1 then
        ((chart.terminal? item.span.start).map (.leaf item.nonterminal)).toList
      else
        (chart.pairingsOf item).flatMap (item.branches (chart.treesUpTo longest))

variable {grammar : Grammar} {symbols : Array String} {separator : String} {item : Item}

theorem mem_treesUpTo (formed : grammar.WellFormed) {longest : Nat}
    (short : item.span.length ≤ longest)
    (member : item.nonterminal ∈ (fill grammar symbols separator).cell item.span)
    {tree : DerivationTree} :
    tree ∈ (fill grammar symbols separator).treesUpTo longest item ↔
      tree ∈ item.trees grammar symbols := by
  induction longest generalizing item tree with
  | zero => exact absurd (within_of_mem_cell member).positive (by omega)
  | succ longest induction =>
      by_cases single : item.span.length = 1
      · obtain ⟨letter, found⟩ := Extraction.exists_terminal? finished_fill member single
        rw [treesUpTo, if_pos single, found, Item.mem_trees_single_iff formed member single found]
        exact List.mem_singleton
      · rw [treesUpTo, if_neg single, List.mem_flatMap,
          Item.mem_trees_long_iff separator formed (Item.within_of_member member) single]
        refine exists_congr fun pairing => and_congr_right fun paired => ?_
        obtain ⟨⟨leftCell, leftShorter⟩, rightCell, rightShorter⟩ :=
          members_of_mem_pairingsOf paired
        have leftShort := Nat.le_of_lt_succ (Nat.lt_of_lt_of_le leftShorter short)
        have rightShort := Nat.le_of_lt_succ (Nat.lt_of_lt_of_le rightShorter short)
        simp only [Item.mem_branches, induction leftShort leftCell, induction rightShort rightCell]

theorem nodup_treesUpTo (formed : grammar.WellFormed) {longest : Nat}
    (short : item.span.length ≤ longest)
    (member : item.nonterminal ∈ (fill grammar symbols separator).cell item.span) :
    ((fill grammar symbols separator).treesUpTo longest item).Nodup := by
  induction longest generalizing item with
  | zero => exact .nil
  | succ longest induction =>
      by_cases single : item.span.length = 1
      · obtain ⟨letter, found⟩ := Extraction.exists_terminal? finished_fill member single
        rw [treesUpTo, if_pos single, found]
        exact List.nodup_singleton _
      · -- The trees show which pairing they belong to.
        have shown : ∀ pairing ∈ (fill grammar symbols separator).pairingsOf item,
            ∀ left right, .branch item.nonterminal left right ∈
                item.branches ((fill grammar symbols separator).treesUpTo longest) pairing →
              pairing = ⟨left.letters.length, left.root, right.root⟩ := by
          intro pairing paired left right listed
          obtain ⟨⟨leftCell, leftShorter⟩, rightCell, rightShorter⟩ :=
            members_of_mem_pairingsOf paired
          obtain ⟨_, leftListed, _, rightListed, same⟩ := Item.mem_branches.mp listed
          cases same
          exact Pairing.eq_of_mem_trees paired
            ((mem_treesUpTo formed (by omega) leftCell).mp leftListed)
            ((mem_treesUpTo formed (by omega) rightCell).mp rightListed)
        rw [treesUpTo, if_neg single]
        refine List.nodup_flatMap.mpr ⟨?_, (nodup_pairingsOf _ item).imp_of_mem ?_⟩
        · intro pairing paired
          obtain ⟨⟨leftCell, leftShorter⟩, rightCell, rightShorter⟩ :=
            members_of_mem_pairingsOf paired
          exact Item.nodup_branches (induction (by omega) leftCell) (induction (by omega) rightCell)
        · intro first second firstPaired secondPaired apart
          apply List.disjoint_left.mpr
          intro tree inFirst inSecond
          obtain ⟨left, _, right, _, rfl⟩ := Item.mem_branches.mp inFirst
          exact apart ((shown first firstPaired left right inFirst).trans
            (shown second secondPaired left right inSecond).symm)

end Chart

namespace Item

variable {grammar : Grammar} {symbols : Array String} {separator : String} {item : Item}

theorem ncard_trees_eq_length (formed : grammar.WellFormed) {longest : Nat}
    (short : item.span.length ≤ longest)
    (member : item.nonterminal ∈ (Chart.fill grammar symbols separator).cell item.span) :
    (item.trees grammar symbols).ncard =
      ((Chart.fill grammar symbols separator).treesUpTo longest item).length := by
  have listed : item.trees grammar symbols =
      ((Chart.fill grammar symbols separator).treesUpTo longest item).toFinset := by
    ext tree
    rw [Finset.mem_coe, List.mem_toFinset, Chart.mem_treesUpTo formed short member]
  rw [listed, Set.ncard_coe_finset,
    List.toFinset_card_of_nodup (Chart.nodup_treesUpTo formed short member)]

theorem finite_trees (formed : grammar.WellFormed)
    (member : item.nonterminal ∈ (Chart.fill grammar symbols separator).cell item.span) :
    (item.trees grammar symbols).Finite := by
  refine (List.finite_toSet
    ((Chart.fill grammar symbols separator).treesUpTo item.span.length item)).subset ?_
  intro tree inTrees
  exact (Chart.mem_treesUpTo formed (Nat.le_refl _) member).mpr inTrees

theorem ncard_trees_single (formed : grammar.WellFormed)
    (member : item.nonterminal ∈ (Chart.fill grammar symbols separator).cell item.span)
    (single : item.span.length = 1) : (item.trees grammar symbols).ncard = 1 := by
  obtain ⟨letter, found⟩ := Extraction.exists_terminal? Chart.finished_fill member single
  rw [ncard_trees_eq_length formed (Nat.le_of_eq single) member, Chart.treesUpTo, if_pos single,
    found]
  rfl

/-- An item has as many trees as there are pairs of trees for its pairings. -/
theorem ncard_trees_long (formed : grammar.WellFormed)
    (member : item.nonterminal ∈ (Chart.fill grammar symbols separator).cell item.span)
    (long : item.span.length ≠ 1) :
    (item.trees grammar symbols).ncard =
      (((Chart.fill grammar symbols separator).pairingsOf item).map fun pairing =>
        ((pairing.items item.span).1.trees grammar symbols).ncard *
          ((pairing.items item.span).2.trees grammar symbols).ncard).sum := by
  rw [ncard_trees_eq_length formed (Nat.le_succ item.span.length) member, Chart.treesUpTo,
    if_neg long, List.length_flatMap]
  refine congrArg List.sum (List.map_congr_left fun pairing paired => ?_)
  obtain ⟨⟨leftCell, leftShorter⟩, rightCell, rightShorter⟩ :=
    Chart.members_of_mem_pairingsOf paired
  rw [length_branches, ncard_trees_eq_length formed (Nat.le_of_lt leftShorter) leftCell,
    ncard_trees_eq_length formed (Nat.le_of_lt rightShorter) rightCell]

end Item

end ChartParsing
