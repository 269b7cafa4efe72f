import ChartParsing.Proofs.Forest.Trees

/-!
# Items that occur in derivation trees

Every node of a derivation tree stands for a nonterminal over a span.  A tree
over `n` symbols has `2n - 1` nodes, all of them for different items, and no two
trees over the same symbols have the same items.

An item occurs in some tree of another one exactly if it can be reached from it
by passing from an item to a half of one of its pairings.  Each tree of the item
can then be put in its place, and different trees stay different.
-/

namespace ChartParsing

namespace DerivationTree

/-- The items of the nodes, for a tree whose leaves begin at a position. -/
def items (start : Nat) : DerivationTree → List Item
  | .leaf lhs _ => [⟨lhs, ⟨start, 1⟩⟩]
  | .branch lhs left right =>
      ⟨lhs, ⟨start, left.letters.length + right.letters.length⟩⟩ ::
        (left.items start ++ right.items (start + left.letters.length))

variable {start : Nat} {item : Item} {lhs : Nonterminal} {left right : DerivationTree}

theorem mem_items_leaf {letter : Terminal} :
    item ∈ (leaf lhs letter).items start ↔ item = ⟨lhs, ⟨start, 1⟩⟩ := by
  simp [items]

theorem mem_items_branch :
    item ∈ (branch lhs left right).items start ↔
      item = ⟨lhs, ⟨start, left.letters.length + right.letters.length⟩⟩ ∨
        item ∈ left.items start ∨ item ∈ right.items (start + left.letters.length) := by
  simp [items]

theorem one_lt_length_branch (lhs : Nonterminal) (left right : DerivationTree) :
    1 < (branch lhs left right).letters.length := by
  have leftPositive := left.letters_length_pos
  have rightPositive := right.letters_length_pos
  rw [letters, List.length_append]
  omega

theorem root_mem_items (start : Nat) (tree : DerivationTree) :
    ⟨tree.root, ⟨start, tree.letters.length⟩⟩ ∈ tree.items start := by
  cases tree with
  | leaf lhs letter => simp [items, root, letters]
  | branch lhs left right => simp [items, root, letters]

theorem length_items (start : Nat) (tree : DerivationTree) :
    (tree.items start).length + 1 = 2 * tree.letters.length := by
  induction tree generalizing start with
  | leaf lhs letter => rfl
  | branch lhs left right leftLength rightLength =>
      have leftItems := leftLength start
      have rightItems := rightLength (start + left.letters.length)
      simp only [items, letters, List.length_cons, List.length_append]
      omega

theorem span_of_mem_items {tree : DerivationTree} (occurs : item ∈ tree.items start) :
    start ≤ item.span.start ∧ 0 < item.span.length ∧
      item.span.stop ≤ start + tree.letters.length := by
  induction tree generalizing start with
  | leaf lhs letter =>
      rw [mem_items_leaf.mp occurs]
      simp [Span.stop, letters]
  | branch lhs left right leftInside rightInside =>
      have leftPositive := left.letters_length_pos
      rw [letters, List.length_append]
      rcases mem_items_branch.mp occurs with rfl | inLeft | inRight
      · simp only [Span.stop]
        omega
      · have inside := leftInside inLeft
        omega
      · have inside := rightInside inRight
        omega

/-- The left half has the items that end before the halves meet. -/
theorem mem_items_left_iff :
    item ∈ left.items start ↔
      item ∈ (branch lhs left right).items start ∧
        item.span.stop ≤ start + left.letters.length := by
  rw [mem_items_branch]
  constructor
  · intro occurs
    exact ⟨.inr (.inl occurs), (span_of_mem_items occurs).2.2⟩
  · intro early
    obtain ⟨rfl | inLeft | inRight, stop⟩ := early
    · have rightPositive := right.letters_length_pos
      simp only [Span.stop] at stop
      omega
    · exact inLeft
    · have inside := span_of_mem_items inRight
      simp only [Span.stop] at stop
      omega

theorem mem_items_right_iff :
    item ∈ right.items (start + left.letters.length) ↔
      item ∈ (branch lhs left right).items start ∧
        start + left.letters.length ≤ item.span.start := by
  rw [mem_items_branch]
  constructor
  · intro occurs
    exact ⟨.inr (.inr occurs), (span_of_mem_items occurs).1⟩
  · intro late
    obtain ⟨rfl | inLeft | inRight, first⟩ := late
    · have leftPositive := left.letters_length_pos
      simp only at first
      omega
    · have inside := span_of_mem_items inLeft
      simp only [Span.stop] at inside
      omega
    · exact inRight

theorem nodup_items (start : Nat) (tree : DerivationTree) : (tree.items start).Nodup := by
  induction tree generalizing start with
  | leaf lhs letter => exact List.nodup_singleton _
  | branch lhs left right leftNodup rightNodup =>
      have leftPositive := left.letters_length_pos
      have rightPositive := right.letters_length_pos
      rw [items, List.nodup_cons]
      constructor
      · intro below
        rcases List.mem_append.mp below with inLeft | inRight
        · have inside := span_of_mem_items inLeft
          simp only [Span.stop] at inside
          omega
        · have inside := span_of_mem_items inRight
          simp only at inside
          omega
      · refine List.Nodup.append (leftNodup start) (rightNodup _) ?_
        intro item inLeft inRight
        have leftInside := span_of_mem_items inLeft
        have rightInside := span_of_mem_items inRight
        simp only [Span.stop] at leftInside
        omega

/-! ## A tree is determined by its items and its leaves -/

theorem root_eq_of_mem_items {tree : DerivationTree} (occurs : item ∈ tree.items start)
    (whole : item.span.length = tree.letters.length) : item.nonterminal = tree.root := by
  cases tree with
  | leaf lhs letter =>
      rw [mem_items_leaf.mp occurs]
      rfl
  | branch lhs left right =>
      have leftPositive := left.letters_length_pos
      have rightPositive := right.letters_length_pos
      rw [letters, List.length_append] at whole
      rcases mem_items_branch.mp occurs with rfl | inLeft | inRight
      · rfl
      · have inside := span_of_mem_items inLeft
        simp only [Span.stop] at inside
        omega
      · have inside := span_of_mem_items inRight
        simp only [Span.stop] at inside
        omega

/-- A shorter item at the start ends no later than where the halves meet. -/
theorem length_le_of_mem_items (occurs : item ∈ (branch lhs left right).items start)
    (first : item.span.start = start)
    (shorter : item.span.length < left.letters.length + right.letters.length) :
    item.span.length ≤ left.letters.length := by
  have leftPositive := left.letters_length_pos
  rcases mem_items_branch.mp occurs with rfl | inLeft | inRight
  · exact absurd shorter (Nat.lt_irrefl _)
  · have inside := span_of_mem_items inLeft
    simp only [Span.stop] at inside
    omega
  · have inside := span_of_mem_items inRight
    omega

/-- Two trees with the same leaves and the same items have their halves meet
at one place. -/
theorem length_left_eq_of_items {otherLhs : Nonterminal} {otherLeft otherRight : DerivationTree}
    (spelled : (branch lhs left right).letters = (branch otherLhs otherLeft otherRight).letters)
    (same : ∀ item, item ∈ (branch lhs left right).items start ↔
      item ∈ (branch otherLhs otherLeft otherRight).items start) :
    left.letters.length = otherLeft.letters.length := by
  have rightPositive := right.letters_length_pos
  have otherPositive := otherRight.letters_length_pos
  have lengths := congrArg List.length spelled
  simp only [letters, List.length_append] at lengths
  apply Nat.le_antisymm
  · have occurs := (same _).mp (mem_items_left_iff.mp (left.root_mem_items start)).1
    exact length_le_of_mem_items occurs rfl (by simp only; omega)
  · have occurs := (same _).mpr (mem_items_left_iff.mp (otherLeft.root_mem_items start)).1
    exact length_le_of_mem_items occurs rfl (by simp only; omega)

theorem eq_of_items {first second : DerivationTree} (spelled : first.letters = second.letters)
    (same : ∀ item, item ∈ first.items start ↔ item ∈ second.items start) : first = second := by
  induction first generalizing start second with
  | leaf lhs letter =>
      have roots := root_eq_of_mem_items ((same _).mp (root_mem_items start _))
        (congrArg List.length spelled)
      cases second with
      | leaf otherLhs other =>
          cases spelled
          cases roots
          rfl
      | branch otherLhs left right =>
          have long := one_lt_length_branch otherLhs left right
          rw [← spelled] at long
          exact absurd long (Nat.lt_irrefl 1)
  | branch lhs left right leftInduction rightInduction =>
      have roots := root_eq_of_mem_items ((same _).mp (root_mem_items start _))
        (congrArg List.length spelled)
      cases second with
      | leaf otherLhs other =>
          have long := one_lt_length_branch lhs left right
          rw [spelled] at long
          exact absurd long (Nat.lt_irrefl 1)
      | branch otherLhs otherLeft otherRight =>
          have meet := length_left_eq_of_items spelled same
          obtain ⟨leftSpelled, rightSpelled⟩ := List.append_inj spelled meet
          have leftSame : ∀ item, item ∈ left.items start ↔ item ∈ otherLeft.items start := by
            intro item
            rw [mem_items_left_iff, same item, meet, ← mem_items_left_iff]
          have rightSame : ∀ item, item ∈ right.items (start + left.letters.length) ↔
              item ∈ otherRight.items (start + left.letters.length) := by
            intro item
            rw [mem_items_right_iff, same item, meet, ← mem_items_right_iff]
          cases roots
          rw [leftInduction leftSpelled leftSame, rightInduction rightSpelled rightSame]

end DerivationTree

/-! ## Reaching items -/

/-- One item mentions another one that is half of one of its pairings. -/
def Chart.Mentions (chart : Chart) (parent child : Item) : Prop :=
  ∃ pairing ∈ chart.pairingsOf parent,
    child = (pairing.items parent.span).1 ∨ child = (pairing.items parent.span).2

namespace Item

variable {grammar : Grammar} {symbols : Array String} {separator : String} {root item : Item}
  {tree : DerivationTree}

theorem exists_tree (formed : grammar.WellFormed)
    (member : item.nonterminal ∈ (Chart.fill grammar symbols separator).cell item.span) :
    ∃ tree, tree ∈ item.trees grammar symbols :=
  (Chart.mem_cell_iff_exists_tree separator formed (within_of_member member)).mp member

theorem root_of_mem_trees (within : item.span.Within symbols.size)
    (inTrees : tree ∈ item.trees grammar symbols) :
    ⟨tree.root, ⟨item.span.start, tree.letters.length⟩⟩ = item := by
  rw [length_letters_of_mem_trees within inTrees, inTrees.root]

theorem mem_items_of_mem_trees (within : item.span.Within symbols.size)
    (inTrees : tree ∈ item.trees grammar symbols) : item ∈ tree.items item.span.start := by
  have occurs := tree.root_mem_items item.span.start
  rwa [root_of_mem_trees within inTrees] at occurs

theorem exists_pairing_of_branch (separator : String) (formed : grammar.WellFormed)
    (within : item.span.Within symbols.size) {lhs : Nonterminal} {left right : DerivationTree}
    (inTrees : .branch lhs left right ∈ item.trees grammar symbols) :
    ∃ pairing ∈ (Chart.fill grammar symbols separator).pairingsOf item,
      left ∈ (pairing.items item.span).1.trees grammar symbols ∧
        right ∈ (pairing.items item.span).2.trees grammar symbols := by
  have long : item.span.length ≠ 1 := by
    have several := DerivationTree.one_lt_length_branch lhs left right
    rw [length_letters_of_mem_trees within inTrees] at several
    exact Nat.ne_of_gt several
  obtain ⟨pairing, paired, _, leftIn, _, rightIn, same⟩ :=
    (mem_trees_long_iff separator formed within long).mp inTrees
  obtain ⟨_, rfl, rfl⟩ := DerivationTree.branch.inj same
  exact ⟨pairing, paired, leftIn, rightIn⟩

theorem reaches_of_mem_items (separator : String) (formed : grammar.WellFormed)
    (within : item.span.Within symbols.size) (inTrees : tree ∈ item.trees grammar symbols)
    {other : Item} (occurs : other ∈ tree.items item.span.start) :
    Relation.ReflTransGen (Chart.fill grammar symbols separator).Mentions item other := by
  induction tree generalizing item with
  | leaf lhs letter =>
      have same := root_of_mem_trees within inTrees
      rw [DerivationTree.mem_items_leaf.mp occurs, ← same]
      exact .refl
  | branch lhs left right leftInduction rightInduction =>
      obtain ⟨pairing, paired, leftIn, rightIn⟩ :=
        exists_pairing_of_branch separator formed within inTrees
      obtain ⟨⟨leftCell, _⟩, rightCell, _⟩ := Chart.members_of_mem_pairingsOf paired
      have leftWithin := within_of_member leftCell
      have rightWithin := within_of_member rightCell
      rcases DerivationTree.mem_items_branch.mp occurs with rfl | inLeft | inRight
      · have same := root_of_mem_trees within inTrees
        rw [DerivationTree.letters, List.length_append] at same
        rw [← same]
        exact .refl
      · exact .head ⟨pairing, paired, .inl rfl⟩ (leftInduction leftWithin leftIn inLeft)
      · rw [length_letters_of_mem_trees leftWithin leftIn] at inRight
        exact .head ⟨pairing, paired, .inr rfl⟩ (rightInduction rightWithin rightIn inRight)

theorem length_ne_one_of_mem_pairingsOf {chart : Chart} {pairing : Pairing}
    (paired : pairing ∈ chart.pairingsOf item) : item.span.length ≠ 1 := by
  obtain ⟨positive, below, _⟩ := Chart.mem_pairings.mp (Chart.mem_pairingsOf.mp paired).1
  omega

theorem branch_mem_trees (formed : grammar.WellFormed)
    (member : item.nonterminal ∈ (Chart.fill grammar symbols separator).cell item.span)
    {pairing : Pairing}
    (paired : pairing ∈ (Chart.fill grammar symbols separator).pairingsOf item)
    {left right : DerivationTree}
    (leftIn : left ∈ (pairing.items item.span).1.trees grammar symbols)
    (rightIn : right ∈ (pairing.items item.span).2.trees grammar symbols) :
    .branch item.nonterminal left right ∈ item.trees grammar symbols :=
  (mem_trees_long_iff separator formed (within_of_member member)
    (length_ne_one_of_mem_pairingsOf paired)).mpr
      ⟨pairing, paired, left, leftIn, right, rightIn, rfl⟩

/-- A way to put the trees of an item into a tree of another one, which keeps different
trees different and what occurs in them. -/
structure Grafts (grammar : Grammar) (symbols : Array String) (root item : Item)
    (graft : DerivationTree → DerivationTree) : Prop where
  injective : Function.Injective graft
  mem_trees : ∀ tree ∈ item.trees grammar symbols, graft tree ∈ root.trees grammar symbols
  mem_items : ∀ tree ∈ item.trees grammar symbols, ∀ other ∈ tree.items item.span.start,
    other ∈ (graft tree).items root.span.start

theorem grafts_id (item : Item) : Grafts grammar symbols item item id :=
  ⟨Function.injective_id, fun _ inTrees => inTrees, fun _ _ _ occurs => occurs⟩

theorem grafts_left (formed : grammar.WellFormed)
    (member : root.nonterminal ∈ (Chart.fill grammar symbols separator).cell root.span)
    {pairing : Pairing}
    (paired : pairing ∈ (Chart.fill grammar symbols separator).pairingsOf root)
    {right : DerivationTree} (rightIn : right ∈ (pairing.items root.span).2.trees grammar symbols)
    {inner : DerivationTree → DerivationTree}
    (grafts : Grafts grammar symbols (pairing.items root.span).1 item inner) :
    Grafts grammar symbols root item fun tree => .branch root.nonterminal (inner tree) right where
  injective _ _ same := grafts.injective (DerivationTree.branch.inj same).2.1
  mem_trees tree inTrees := branch_mem_trees formed member paired (grafts.mem_trees tree inTrees)
    rightIn
  mem_items tree inTrees other occurs :=
    DerivationTree.mem_items_branch.mpr (.inr (.inl (grafts.mem_items tree inTrees other occurs)))

theorem grafts_right (formed : grammar.WellFormed)
    (member : root.nonterminal ∈ (Chart.fill grammar symbols separator).cell root.span)
    {pairing : Pairing}
    (paired : pairing ∈ (Chart.fill grammar symbols separator).pairingsOf root)
    {left : DerivationTree} (leftIn : left ∈ (pairing.items root.span).1.trees grammar symbols)
    {inner : DerivationTree → DerivationTree}
    (grafts : Grafts grammar symbols (pairing.items root.span).2 item inner) :
    Grafts grammar symbols root item fun tree => .branch root.nonterminal left (inner tree) where
  injective _ _ same := grafts.injective (DerivationTree.branch.inj same).2.2
  mem_trees tree inTrees := branch_mem_trees formed member paired leftIn
    (grafts.mem_trees tree inTrees)
  mem_items tree inTrees other occurs := by
    have leftWithin := within_of_member (Chart.members_of_mem_pairingsOf paired).1.1
    have inRight := grafts.mem_items tree inTrees other occurs
    have meet : (pairing.items root.span).2.span.start =
        root.span.start + left.letters.length := by
      rw [length_letters_of_mem_trees leftWithin leftIn]
      rfl
    rw [meet] at inRight
    exact DerivationTree.mem_items_branch.mpr (.inr (.inr inRight))

/-- The trees of an item that is reached go into trees of the item it is reached from. -/
theorem exists_grafts (formed : grammar.WellFormed)
    (reached : Relation.ReflTransGen (Chart.fill grammar symbols separator).Mentions root item)
    (member : root.nonterminal ∈ (Chart.fill grammar symbols separator).cell root.span) :
    ∃ graft, Grafts grammar symbols root item graft := by
  induction reached using Relation.ReflTransGen.head_induction_on with
  | refl => exact ⟨id, grafts_id item⟩
  | head mentions _ induction =>
      obtain ⟨pairing, paired, rfl | rfl⟩ := mentions
      · obtain ⟨⟨leftCell, _⟩, rightCell, _⟩ := Chart.members_of_mem_pairingsOf paired
        obtain ⟨inner, grafts⟩ := induction leftCell
        obtain ⟨right, rightIn⟩ := exists_tree formed rightCell
        exact ⟨_, grafts_left formed member paired rightIn grafts⟩
      · obtain ⟨⟨leftCell, _⟩, rightCell, _⟩ := Chart.members_of_mem_pairingsOf paired
        obtain ⟨inner, grafts⟩ := induction rightCell
        obtain ⟨left, leftIn⟩ := exists_tree formed leftCell
        exact ⟨_, grafts_right formed member paired leftIn grafts⟩

theorem member_of_reaches {chart : Chart}
    (reached : Relation.ReflTransGen chart.Mentions root item)
    (member : root.nonterminal ∈ chart.cell root.span) :
    item.nonterminal ∈ chart.cell item.span := by
  induction reached with
  | refl => exact member
  | tail _ mentions _ =>
      obtain ⟨pairing, paired, rfl | rfl⟩ := mentions
      · exact (Chart.members_of_mem_pairingsOf paired).1.1
      · exact (Chart.members_of_mem_pairingsOf paired).2.1

/-- An item is reached from another one exactly if it occurs in one of its trees. -/
theorem reaches_iff_exists_tree (formed : grammar.WellFormed)
    (member : root.nonterminal ∈ (Chart.fill grammar symbols separator).cell root.span) :
    Relation.ReflTransGen (Chart.fill grammar symbols separator).Mentions root item ↔
      ∃ tree ∈ root.trees grammar symbols, item ∈ tree.items root.span.start := by
  constructor
  · intro reached
    have itemMember := member_of_reaches reached member
    obtain ⟨graft, grafts⟩ := exists_grafts formed reached member
    obtain ⟨tree, inTrees⟩ := exists_tree formed itemMember
    have occurs := mem_items_of_mem_trees (within_of_member itemMember) inTrees
    exact ⟨graft tree, grafts.mem_trees tree inTrees, grafts.mem_items tree inTrees item occurs⟩
  · intro occurring
    obtain ⟨tree, inTrees, occurs⟩ := occurring
    exact reaches_of_mem_items separator formed (within_of_member member) inTrees occurs

end Item

end ChartParsing
