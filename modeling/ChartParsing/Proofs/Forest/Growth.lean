import ChartParsing.Proofs.Chart.Growth
import ChartParsing.Proofs.Forest.Counting
import ChartParsing.Proofs.Forest.Nodes

/-!
# Forests of a growing grammar

Since cells keep their members, every item keeps its pairings, and what is
reached from the root is still reached.  The forest of a grammar is therefore
found again in the forest of an extended grammar: its nodes stand for items
there, and each of its derivations is there with the same split and the same
children.  Identifiers may differ, so a derivation is told by the items of its
children.  More trees can only make a count larger, capped or not.
-/

namespace ChartParsing

namespace Forest

/-- A derivation by the length of its first part and what its children stand for. -/
structure Key where
  split : Nat
  left : Item
  right : Item
  deriving DecidableEq, Repr

def key? (forest : Forest) (derivation : Derivation) : Option Key := do
  let left ← forest.node? derivation.left
  let right ← forest.node? derivation.right
  return ⟨derivation.split, left.item, right.item⟩

/-- Every node of one forest stands for an item with a node in another one, and each of
its derivations is among the derivations there. -/
def Within (forest larger : Forest) : Prop :=
  ∀ node ∈ forest.nodes, ∃ other ∈ larger.nodes, other.item = node.item ∧
    ∀ derivation ∈ node.kind.derivations, ∃ key, forest.key? derivation = some key ∧
      ∃ otherDerivation ∈ other.kind.derivations, larger.key? otherDerivation = some key

theorem Explained.key?_of_denotes {chart : Chart} {start : Nonterminal} {forest : Forest}
    (explained : forest.Explained chart start) {span : Span} {pairing : Pairing}
    {derivation : Derivation} (denotes : derivation.Denotes forest.items span pairing) :
    forest.key? derivation =
      some ⟨pairing.split, (pairing.items span).1, (pairing.items span).2⟩ := by
  obtain ⟨leftKind, left, _⟩ := explained.node? denotes.left
  obtain ⟨rightKind, right, _⟩ := explained.node? denotes.right
  rw [key?, left, right, ← denotes.split]
  rfl

end Forest

section Growth

variable {before after : Grammar} (grown : before.Extends after) (formed : before.WellFormed)
  (afterFormed : after.WellFormed) {symbols : Array String} {separator : String}
  {start : Nonterminal}

include grown formed afterFormed

theorem Chart.mem_pairingsOf_extends {item : Item} {pairing : Pairing}
    (paired : pairing ∈ (fill before symbols separator).pairingsOf item) :
    pairing ∈ (fill after symbols separator).pairingsOf item := by
  obtain ⟨among, ruled⟩ := mem_pairingsOf.mp paired
  obtain ⟨positive, below, left, right⟩ := mem_pairings.mp among
  rw [grammar_fill, formed.memPair] at ruled
  refine mem_pairingsOf.mpr ⟨mem_pairings.mpr ⟨positive, below, ?_, ?_⟩, ?_⟩
  · exact mem_cell_extends grown formed afterFormed left
  · exact mem_cell_extends grown formed afterFormed right
  · rw [grammar_fill, afterFormed.memPair]
    exact grown.rules _ ruled

theorem Chart.reaches_extends {root item : Item}
    (reached : Relation.ReflTransGen (fill before symbols separator).Mentions root item) :
    Relation.ReflTransGen (fill after symbols separator).Mentions root item := by
  refine Relation.ReflTransGen.mono ?_ _ _ reached
  intro parent child mentions
  obtain ⟨pairing, paired, half⟩ := mentions
  exact ⟨pairing, mem_pairingsOf_extends grown formed afterFormed paired, half⟩

namespace Forest

theorem within_extends {forest larger : Forest}
    (explained : forest.Explained (.fill before symbols separator) start)
    (connected : forest.Connected (.fill before symbols separator))
    (largerExplained : larger.Explained (.fill after symbols separator) start)
    (largerConnected : larger.Connected (.fill after symbols separator)) :
    forest.Within larger := by
  rintro ⟨item, kind⟩ listed
  obtain ⟨id, found, explains⟩ := explained.explains_of_mem_nodes listed
  have reached := Chart.reaches_extends grown formed afterFormed
    ((explained.exists_get?_iff connected).mp ⟨id, found⟩)
  rw [← Chart.span_fill_eq before after] at reached
  obtain ⟨otherId, otherFound⟩ :=
    (largerExplained.exists_get?_iff largerConnected).mpr reached
  obtain ⟨otherKind, otherListed, otherExplains⟩ := largerExplained.exists_mem_nodes otherFound
  refine ⟨⟨item, otherKind⟩, otherListed, rfl, ?_⟩
  intro derivation derived
  cases explains with
  | leaf single named => cases derived
  | branch long denoted =>
      obtain ⟨pairing, paired, denotes⟩ := exists_of_mem_left denoted.flip derived
      have stillPaired := Chart.mem_pairingsOf_extends grown formed afterFormed paired
      cases otherExplains with
      | leaf single named => exact absurd single long
      | branch _ otherDenoted =>
          obtain ⟨other, otherDerived, otherDenotes⟩ :=
            exists_of_mem_left otherDenoted stillPaired
          exact ⟨_, explained.key?_of_denotes denotes, other, otherDerived,
            largerExplained.key?_of_denotes otherDenotes⟩

theorem treeCount_extends {forest larger : Forest}
    (explained : forest.Explained (.fill before symbols separator) start)
    (largerExplained : larger.Explained (.fill after symbols separator) start) :
    forest.treeCount ≤ larger.treeCount := by
  rw [treeCount, treeCount, getD_counts formed explained explained.root,
    getD_counts afterFormed largerExplained largerExplained.root, Chart.span_fill_eq before after]
  have finite := Item.finite_trees afterFormed (largerExplained.members largerExplained.root)
  rw [Chart.span_fill_eq before after] at finite
  have more := Set.ncard_le_ncard
    (fun tree parses => DerivationTree.Parses.extends grown formed afterFormed parses) finite
  exact min_le_min_right maxCount more

/-- The forest of a start symbol is found again in its forest under
the extended grammar. -/
theorem exists_extract?_extends {forest : Forest}
    (extracted : extract? (.fill before symbols separator) start = some forest) :
    ∃ larger, extract? (.fill after symbols separator) start = some larger ∧
      forest.Within larger ∧ forest.treeCount ≤ larger.treeCount := by
  have accepted := (isSome_extract?_iff Chart.finished_fill).mp
    (Option.isSome_of_eq_some extracted)
  obtain ⟨larger, found, largerExplained⟩ := extract?_of_accepts Chart.finished_fill
    (Chart.accepts_extends grown formed afterFormed accepted)
  have explained := explained_of_extract? Chart.finished_fill extracted
  exact ⟨larger, found,
    within_extends grown formed afterFormed explained
      (connected_of_extract? Chart.finished_fill extracted) largerExplained
      (connected_of_extract? Chart.finished_fill found),
    treeCount_extends grown formed afterFormed explained largerExplained⟩

end Forest

end Growth

end ChartParsing
