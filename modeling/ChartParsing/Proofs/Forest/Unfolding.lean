import ChartParsing.Proofs.Forest.Trees

/-!
# Unfolding a forest

Starting from a node, one derivation is chosen at every branch until leaves are
reached.  Each way to choose gives a derivation tree of the node's item, and each
derivation tree is given by one way to choose: the tree shows the pairing of
every branch, and a branch lists no pairing twice.
-/

namespace ChartParsing

/-- What to do at a node and the nodes below: stop, or go on with the derivation at a
place of the list. -/
inductive Choice where
  | stop
  | pick (place : Nat) (left right : Choice)
  deriving DecidableEq, Repr

namespace Forest

/-- The tree that is read off below a node, stopping at leaves only. -/
def unfolded? (forest : Forest) : Choice → Nat → Option DerivationTree
  | .stop, id => do
      match ← forest.node? id with
      | ⟨item, .leaf letter⟩ => return .leaf item.nonterminal letter
      | ⟨_, .branch _⟩ => none
  | .pick place left right, id => do
      let node ← forest.node? id
      let derivation ← node.kind.derivations[place]?
      let leftTree ← forest.unfolded? left derivation.left
      let rightTree ← forest.unfolded? right derivation.right
      return .branch node.item.nonterminal leftTree rightTree

end Forest

theorem exists_getElem?_of_forall₂ {α β : Type} {related : α → β → Prop} {left : List α}
    {right : List β} (all : List.Forall₂ related left right) {place : Nat} {value : α}
    (found : left[place]? = some value) :
    ∃ other, right[place]? = some other ∧ related value other := by
  induction all generalizing place with
  | nil => cases found
  | cons here _ induction =>
      cases place with
      | zero =>
          cases found
          exact ⟨_, rfl, here⟩
      | succ place => exact induction found

namespace Forest.Explained

variable {chart : Chart} {start : Nonterminal} {forest : Forest} {id : Nat} {item : Item}
  {tree : DerivationTree}

theorem node? (explained : forest.Explained chart start)
    (found : forest.items.get? id = some item) :
    ∃ kind, forest.node? id = some ⟨item, kind⟩ ∧ kind.Explains chart forest.items item := by
  obtain ⟨kind, settled, explains⟩ := explained.kinds found
  exact ⟨kind, by simp [Forest.node?, found, settled], explains⟩

theorem unfolded?_stop_iff (explained : forest.Explained chart start)
    (found : forest.items.get? id = some item) :
    forest.unfolded? .stop id = some tree ↔
      item.span.length = 1 ∧ ∃ letter, chart.terminal? item.span.start = some letter ∧
        tree = .leaf item.nonterminal letter := by
  obtain ⟨kind, node, explains⟩ := explained.node? found
  cases explains with
  | leaf single named => simp [unfolded?, node, single, named, eq_comm]
  | branch long denoted => simp [unfolded?, node, long]

theorem unfolded?_pick_iff (explained : forest.Explained chart start)
    (found : forest.items.get? id = some item) {place : Nat} {left right : Choice} :
    forest.unfolded? (.pick place left right) id = some tree ↔
      item.span.length ≠ 1 ∧ ∃ pairing leftId rightId leftTree rightTree,
        (chart.pairingsOf item)[place]? = some pairing ∧
        forest.items.get? leftId = some (pairing.items item.span).1 ∧
        forest.items.get? rightId = some (pairing.items item.span).2 ∧
        forest.unfolded? left leftId = some leftTree ∧
        forest.unfolded? right rightId = some rightTree ∧
        tree = .branch item.nonterminal leftTree rightTree := by
  obtain ⟨kind, node, explains⟩ := explained.node? found
  cases explains with
  | leaf single named => simp [unfolded?, node, NodeKind.derivations, single]
  | branch long denoted =>
      simp only [unfolded?, node, NodeKind.derivations, Option.bind_eq_bind, Option.bind_some,
        Option.bind_eq_some_iff, Option.pure_def, Option.some.injEq]
      constructor
      · intro picked
        obtain ⟨derivation, listed, leftTree, leftUnfolds, rightTree, rightUnfolds, rfl⟩ := picked
        obtain ⟨pairing, hit, denotes⟩ := exists_getElem?_of_forall₂ denoted.flip listed
        exact ⟨long, pairing, derivation.left, derivation.right, leftTree, rightTree, hit,
          denotes.left, denotes.right, leftUnfolds, rightUnfolds, rfl⟩
      · intro picked
        obtain ⟨_, pairing, leftId, rightId, leftTree, rightTree, hit, leftFound, rightFound,
          leftUnfolds, rightUnfolds, rfl⟩ := picked
        obtain ⟨derivation, listed, denotes⟩ := exists_getElem?_of_forall₂ denoted hit
        cases Numbering.get?_injective explained.distinct denotes.left leftFound
        cases Numbering.get?_injective explained.distinct denotes.right rightFound
        exact ⟨derivation, listed, leftTree, leftUnfolds, rightTree, rightUnfolds, rfl⟩

theorem exists_ids (explained : forest.Explained chart start)
    (found : forest.items.get? id = some item) (long : item.span.length ≠ 1) {pairing : Pairing}
    {place : Nat} (hit : (chart.pairingsOf item)[place]? = some pairing) :
    ∃ leftId rightId, forest.items.get? leftId = some (pairing.items item.span).1 ∧
      forest.items.get? rightId = some (pairing.items item.span).2 := by
  obtain ⟨kind, _, explains⟩ := explained.kinds found
  cases explains with
  | leaf single named => exact absurd single long
  | branch _ denoted =>
      obtain ⟨derivation, _, denotes⟩ := exists_getElem?_of_forall₂ denoted hit
      exact ⟨derivation.left, derivation.right, denotes.left, denotes.right⟩

end Forest.Explained

namespace Forest.Explained

variable {grammar : Grammar} {symbols : Array String} {separator : String} {start : Nonterminal}
  {forest : Forest} {id : Nat} {item : Item} {tree : DerivationTree}

theorem mem_trees_of_unfolded? (formed : grammar.WellFormed)
    (explained : forest.Explained (Chart.fill grammar symbols separator) start) {choice : Choice}
    (found : forest.items.get? id = some item) (unfolds : forest.unfolded? choice id = some tree) :
    tree ∈ item.trees grammar symbols := by
  have member := explained.members found
  induction choice generalizing id item tree with
  | stop =>
      obtain ⟨single, letter, named, rfl⟩ := (explained.unfolded?_stop_iff found).mp unfolds
      exact (Item.mem_trees_single_iff formed member single named).mpr rfl
  | pick place left right leftInduction rightInduction =>
      obtain ⟨long, pairing, leftId, rightId, leftTree, rightTree, hit, leftFound, rightFound,
        leftUnfolds, rightUnfolds, rfl⟩ := (explained.unfolded?_pick_iff found).mp unfolds
      refine (Item.mem_trees_long_iff separator formed (Item.within_of_member member) long).mpr
        ⟨pairing, List.mem_of_getElem? hit, leftTree, ?_, rightTree, ?_, rfl⟩
      · exact leftInduction leftFound leftUnfolds (explained.members leftFound)
      · exact rightInduction rightFound rightUnfolds (explained.members rightFound)

/-- Every derivation tree is read off in some way. -/
theorem exists_choice (formed : grammar.WellFormed)
    (explained : forest.Explained (Chart.fill grammar symbols separator) start)
    (found : forest.items.get? id = some item) (inTrees : tree ∈ item.trees grammar symbols) :
    ∃ choice, forest.unfolded? choice id = some tree := by
  induction tree generalizing id item with
  | leaf lhs letter =>
      have member := explained.members found
      have single : item.span.length = 1 :=
        (Item.length_letters_of_mem_trees (Item.within_of_member member) inTrees).symm
      obtain ⟨letter, named⟩ := Extraction.exists_terminal? Chart.finished_fill member single
      have same := (Item.mem_trees_single_iff formed member single named).mp inTrees
      exact ⟨.stop, (explained.unfolded?_stop_iff found).mpr ⟨single, letter, named, same⟩⟩
  | branch lhs left right leftInduction rightInduction =>
      have within := Item.within_of_member (explained.members found)
      have long : item.span.length ≠ 1 := by
        have leftPositive := left.letters_length_pos
        have rightPositive := right.letters_length_pos
        have total := Item.length_letters_of_mem_trees within inTrees
        rw [DerivationTree.letters, List.length_append] at total
        omega
      obtain ⟨pairing, paired, leftTree, leftIn, rightTree, rightIn, same⟩ :=
        (Item.mem_trees_long_iff separator formed within long).mp inTrees
      obtain ⟨rfl, rfl, rfl⟩ := DerivationTree.branch.inj same
      obtain ⟨place, hit⟩ := List.mem_iff_getElem?.mp paired
      obtain ⟨leftId, rightId, leftFound, rightFound⟩ := explained.exists_ids found long hit
      obtain ⟨leftChoice, leftUnfolds⟩ := leftInduction leftFound leftIn
      obtain ⟨rightChoice, rightUnfolds⟩ := rightInduction rightFound rightIn
      exact ⟨.pick place leftChoice rightChoice, (explained.unfolded?_pick_iff found).mpr
        ⟨long, pairing, leftId, rightId, left, right, hit, leftFound, rightFound, leftUnfolds,
          rightUnfolds, rfl⟩⟩

/-- No derivation tree is read off in two ways. -/
theorem unfolded?_injective (formed : grammar.WellFormed)
    (explained : forest.Explained (Chart.fill grammar symbols separator) start)
    {first second : Choice} (found : forest.items.get? id = some item)
    (firstUnfolds : forest.unfolded? first id = some tree)
    (secondUnfolds : forest.unfolded? second id = some tree) : first = second := by
  induction first generalizing second id item tree with
  | stop =>
      obtain ⟨single, _⟩ := (explained.unfolded?_stop_iff found).mp firstUnfolds
      cases second with
      | stop => rfl
      | pick place left right =>
          exact absurd single ((explained.unfolded?_pick_iff found).mp secondUnfolds).1
  | pick place left right leftInduction rightInduction =>
      obtain ⟨long, pairing, leftId, rightId, leftTree, rightTree, hit, leftFound, rightFound,
        leftUnfolds, rightUnfolds, rfl⟩ := (explained.unfolded?_pick_iff found).mp firstUnfolds
      cases second with
      | stop => exact absurd ((explained.unfolded?_stop_iff found).mp secondUnfolds).1 long
      | pick otherPlace otherLeft otherRight =>
          obtain ⟨_, other, otherLeftId, otherRightId, _, _, otherHit, otherLeftFound,
            otherRightFound, otherLeftUnfolds, otherRightUnfolds, same⟩ :=
            (explained.unfolded?_pick_iff found).mp secondUnfolds
          obtain ⟨_, rfl, rfl⟩ := DerivationTree.branch.inj same
          have shown := Pairing.eq_of_mem_trees (List.mem_of_getElem? hit)
            (explained.mem_trees_of_unfolded? formed leftFound leftUnfolds)
            (explained.mem_trees_of_unfolded? formed rightFound rightUnfolds)
          have otherShown := Pairing.eq_of_mem_trees (List.mem_of_getElem? otherHit)
            (explained.mem_trees_of_unfolded? formed otherLeftFound otherLeftUnfolds)
            (explained.mem_trees_of_unfolded? formed otherRightFound otherRightUnfolds)
          cases shown.trans otherShown.symm
          cases Numbering.get?_injective explained.distinct leftFound otherLeftFound
          cases Numbering.get?_injective explained.distinct rightFound otherRightFound
          have inside := (List.getElem?_eq_some_iff.mp hit).1
          cases (List.getElem?_inj inside (Chart.nodup_pairingsOf _ item)).mp
            (hit.trans otherHit.symm)
          rw [leftInduction leftFound leftUnfolds otherLeftUnfolds,
            rightInduction rightFound rightUnfolds otherRightUnfolds]

end Forest.Explained

end ChartParsing
