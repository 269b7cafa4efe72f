import ChartParsing.Forest.Count
import ChartParsing.Proofs.Forest.Unfolding
import ChartParsing.Proofs.Grammar.Construction

/-!
# The number of derivation trees

Capping the operands of a sum or a product changes nothing about the capped
result.  Nodes are counted by increasing length, so when a node is counted, its
children have been, and its count is the number of its trees, capped.
-/

namespace ChartParsing

namespace Forest

/-! ## Capped arithmetic -/

theorem cap_cap_add (left right : Nat) : cap (cap left + cap right) = cap (left + right) := by
  simp only [cap]
  omega

theorem cap_mul_cap (factor count : Nat) : cap (factor * cap count) = cap (factor * count) := by
  rcases Nat.lt_or_ge count maxCount with below | above
  · have kept : cap count = count := Nat.min_eq_left (Nat.le_of_lt below)
    rw [kept]
  · have reduced : cap count = maxCount := Nat.min_eq_right above
    rw [reduced]
    cases factor with
    | zero => rw [Nat.zero_mul, Nat.zero_mul]
    | succ factor =>
        have capped : maxCount ≤ (factor + 1) * maxCount :=
          Nat.le_mul_of_pos_left _ (Nat.succ_pos factor)
        have whole : maxCount ≤ (factor + 1) * count :=
          Nat.le_trans capped (Nat.mul_le_mul_left _ above)
        exact (Nat.min_eq_right capped).trans (Nat.min_eq_right whole).symm

theorem cap_cap_mul (left right : Nat) : cap (cap left * cap right) = cap (left * right) := by
  rw [cap_mul_cap, Nat.mul_comm, cap_mul_cap, Nat.mul_comm]

/-! ## Counting one node -/

variable {grammar : Grammar} {symbols : Array String} {separator : String} {start : Nonterminal}
  {forest : Forest}

theorem countKind_branch {counts : Array Nat} {items : Numbering Item} {span : Span}
    (number : Item → Nat) {pairings : List Pairing} {derivations : List Derivation}
    (denoted : List.Forall₂ (Derivation.Denotes items span) pairings derivations)
    (counted : ∀ pairing ∈ pairings, ∀ id,
      (items.get? id = some (pairing.items span).1 →
        counts.getD id 0 = cap (number (pairing.items span).1)) ∧
      (items.get? id = some (pairing.items span).2 →
        counts.getD id 0 = cap (number (pairing.items span).2))) :
    countKind counts (.branch derivations) =
      cap ((pairings.map fun pairing =>
        number (pairing.items span).1 * number (pairing.items span).2).sum) := by
  suffices folded : ∀ earlier : Nat,
      derivations.foldl
        (fun count derivation =>
          cap (count + cap (counts.getD derivation.left 0 * counts.getD derivation.right 0)))
        (cap earlier) =
      cap (earlier + (pairings.map fun pairing =>
        number (pairing.items span).1 * number (pairing.items span).2).sum) by
    have whole := folded 0
    rwa [Nat.zero_add] at whole
  induction denoted with
  | nil => intro earlier; simp
  | cons denotes _ induction =>
      intro earlier
      obtain ⟨here, later⟩ := List.forall_mem_cons.mp counted
      rw [List.foldl_cons, (here _).1 denotes.left, (here _).2 denotes.right, cap_cap_mul,
        cap_cap_add, induction later, List.map_cons, List.sum_cons, Nat.add_assoc]

/-- The nodes over fewer positions and some further nodes have the right counts. -/
structure Counted (grammar : Grammar) (symbols : Array String) (forest : Forest) (length : Nat)
    (done : List Nat) (counts : Array Nat) : Prop where
  size : counts.size = forest.items.size
  count : ∀ {id : Nat} {item : Item}, forest.items.get? id = some item →
    item.span.length < length ∨ id ∈ done →
    counts.getD id 0 = cap (item.trees grammar symbols).ncard

theorem countKind_eq (formed : grammar.WellFormed) {length : Nat} {done : List Nat}
    {counts : Array Nat} (counted : Counted grammar symbols forest length done counts)
    {item : Item}
    (member : item.nonterminal ∈ (Chart.fill grammar symbols separator).cell item.span)
    (reached : item.span.length = length) {kind : NodeKind}
    (explains : kind.Explains (Chart.fill grammar symbols separator) forest.items item) :
    countKind counts kind = cap (item.trees grammar symbols).ncard := by
  cases explains with
  | leaf single named =>
      rw [Item.ncard_trees_single formed member single]
      rfl
  | branch long denoted =>
      rw [Item.ncard_trees_long formed member long]
      apply countKind_branch (fun item => (item.trees grammar symbols).ncard) denoted
      intro pairing paired id
      obtain ⟨⟨_, leftShorter⟩, _, rightShorter⟩ := Chart.members_of_mem_pairingsOf paired
      exact ⟨fun found => counted.count found (.inl (reached ▸ leftShorter)),
        fun found => counted.count found (.inl (reached ▸ rightShorter))⟩

theorem Counted.countNode (formed : grammar.WellFormed)
    (explained : forest.Explained (Chart.fill grammar symbols separator) start) {length : Nat}
    {done : List Nat} {counts : Array Nat}
    (counted : Counted grammar symbols forest length done counts) {id : Nat} {item : Item}
    (found : forest.items.get? id = some item) (reached : item.span.length = length) :
    Counted grammar symbols forest length (id :: done) (forest.countNode counts id) := by
  obtain ⟨kind, settled, explains⟩ := explained.kinds found
  have right := countKind_eq formed counted (explained.members found) reached explains
  rw [Forest.countNode, settled]
  refine ⟨Array.size_setIfInBounds.trans counted.size, ?_⟩
  intro other otherItem otherFound reason
  by_cases same : id = other
  · cases same
    cases found.symm.trans otherFound
    have inside : id < counts.size := counted.size ▸ Numbering.get?_lt_size found
    simp [inside, right]
  · have earlier : otherItem.span.length < length ∨ other ∈ done := by
      rcases reason with shorter | listed
      · exact .inl shorter
      · exact .inr ((List.mem_cons.mp listed).resolve_left (Ne.symm same))
    rw [Array.getD_eq_getD_getElem?, Array.getElem?_setIfInBounds, if_neg same,
      ← Array.getD_eq_getD_getElem?]
    exact counted.count otherFound earlier

/-! ## Counting all nodes -/

theorem mem_nodesOfLength {length id : Nat} :
    id ∈ forest.nodesOfLength length ↔
      ∃ item, forest.items.get? id = some item ∧ item.span.length = length := by
  simp [nodesOfLength, List.mem_zipIdx_iff_getElem?, Numbering.get?_eq_getElem?]

theorem le_foldl_length (items : List Item) (longest : Nat) :
    longest ≤ items.foldl (fun longest item => max longest item.span.length) longest ∧
      ∀ item ∈ items,
        item.span.length ≤
          items.foldl (fun longest item => max longest item.span.length) longest := by
  induction items generalizing longest with
  | nil => exact ⟨Nat.le_refl _, fun _ absent => absurd absent List.not_mem_nil⟩
  | cons first rest induction =>
      obtain ⟨grown, later⟩ := induction (max longest first.span.length)
      refine ⟨Nat.le_trans (Nat.le_max_left ..) grown, ?_⟩
      intro item member
      rcases List.mem_cons.mp member with rfl | inRest
      · exact Nat.le_trans (Nat.le_max_right ..) grown
      · exact later item inRest

theorem length_le_maxLength {id : Nat} {item : Item} (found : forest.items.get? id = some item) :
    item.span.length ≤ forest.maxLength := by
  rw [Numbering.get?_eq_getElem?] at found
  exact (le_foldl_length forest.items.toList 0).2 item (List.mem_of_getElem? found)

theorem Counted.foldl_countNode (formed : grammar.WellFormed)
    (explained : forest.Explained (Chart.fill grammar symbols separator) start) {length : Nat}
    {ids : List Nat} (reached : ∀ id ∈ ids, id ∈ forest.nodesOfLength length) {done : List Nat}
    {counts : Array Nat} (counted : Counted grammar symbols forest length done counts) :
    Counted grammar symbols forest length (ids.reverse ++ done)
      (ids.foldl forest.countNode counts) := by
  induction ids generalizing done counts with
  | nil => exact counted
  | cons id rest induction =>
      obtain ⟨here, later⟩ := List.forall_mem_cons.mp reached
      obtain ⟨item, found, length⟩ := mem_nodesOfLength.mp here
      rw [List.reverse_cons, List.append_assoc, List.singleton_append, List.foldl_cons]
      exact induction later (counted.countNode formed explained found length)

theorem counted_byLength (formed : grammar.WellFormed)
    (explained : forest.Explained (Chart.fill grammar symbols separator) start) (length : Nat) :
    Counted grammar symbols forest length []
      (((List.range length).flatMap forest.nodesOfLength).foldl forest.countNode
        (Array.replicate forest.size 0)) := by
  induction length with
  | zero =>
      refine ⟨Array.size_replicate, ?_⟩
      intro id item _ reason
      simp at reason
  | succ length induction =>
      rw [List.range_succ, List.flatMap_append, List.foldl_append, List.flatMap_singleton]
      have counted := induction.foldl_countNode formed explained fun _ member => member
      refine ⟨counted.size, ?_⟩
      intro id item found reason
      apply counted.count found
      rcases Nat.lt_succ_iff_lt_or_eq.mp (reason.resolve_right List.not_mem_nil) with shorter | same
      · exact .inl shorter
      · right
        rw [List.append_nil, List.mem_reverse]
        exact mem_nodesOfLength.mpr ⟨item, found, same⟩

theorem getD_counts (formed : grammar.WellFormed)
    (explained : forest.Explained (Chart.fill grammar symbols separator) start) {id : Nat}
    {item : Item} (found : forest.items.get? id = some item) :
    forest.counts.getD id 0 = cap (item.trees grammar symbols).ncard :=
  (counted_byLength formed explained _).count found
    (.inl (Nat.lt_succ_of_le (length_le_maxLength found)))

theorem trees_whole (grammar : Grammar) (symbols : Array String) (separator : String)
    (start : Nonterminal) :
    (⟨start, (Chart.fill grammar symbols separator).span⟩ : Item).trees grammar symbols =
      {tree | tree.Parses grammar start symbols.toList} := by
  rw [Item.trees, Chart.slice_span_fill]

/-- A forest unfolds, in exactly one way each, to the derivation trees over the input, and
the number of these trees is counted, up to the greatest count. -/
theorem unfolds_to_derivation_trees {grammar : Grammar} (reachable : grammar.Reachable)
    (symbols : Array String) (separator : String) (start : Nonterminal) :
    ((extract? (Chart.fill grammar symbols separator) start).isSome ↔
        (Chart.fill grammar symbols separator).accepts start = true) ∧
      ∀ forest, extract? (Chart.fill grammar symbols separator) start = some forest →
        (∀ choice tree, forest.unfolded? choice forest.root = some tree →
          tree.Parses grammar start symbols.toList) ∧
        (∀ tree : DerivationTree, tree.Parses grammar start symbols.toList →
          ∃! choice, forest.unfolded? choice forest.root = some tree) ∧
        {tree : DerivationTree | tree.Parses grammar start symbols.toList}.Finite ∧
        forest.treeCount =
          min {tree : DerivationTree | tree.Parses grammar start symbols.toList}.ncard
            (2 ^ 64 - 1) := by
  have formed := reachable.wellFormed
  refine ⟨isSome_extract?_iff Chart.finished_fill, ?_⟩
  intro forest extracted
  have explained := explained_of_extract? Chart.finished_fill extracted
  have root := explained.root
  have whole := trees_whole grammar symbols separator start
  rw [← whole]
  refine ⟨?_, ?_, Item.finite_trees formed (explained.members root),
    getD_counts formed explained root⟩
  · intro choice tree unfolds
    have inTrees := explained.mem_trees_of_unfolded? formed root unfolds
    rwa [whole] at inTrees
  · intro tree parses
    obtain ⟨choice, unfolds⟩ := explained.exists_choice formed root (whole ▸ parses : tree ∈ _)
    exact ⟨choice, unfolds, fun other otherUnfolds =>
      explained.unfolded?_injective formed root otherUnfolds unfolds⟩

/-- Three letters have two trees under the ambiguous sample grammar. -/
theorem unfolds_to_derivation_trees_sample :
    Construction.sample.Reachable ∧
      ∃ forest, extract? (Chart.fill Construction.sample #["a", "a", "a"] " ") ⟨0⟩ = some forest ∧
        forest.treeCount = 2 ∧
        {tree : DerivationTree |
          tree.Parses Construction.sample ⟨0⟩ #["a", "a", "a"].toList}.ncard = 2 := by
  have reachable := Construction.reachable_sample
  obtain ⟨some_iff, right⟩ :=
    unfolds_to_derivation_trees reachable #["a", "a", "a"] " " ⟨0⟩
  have counted : (extract? (Chart.fill Construction.sample #["a", "a", "a"] " ") ⟨0⟩).map
      treeCount = some 2 := by decide +kernel
  obtain ⟨forest, extracted, two⟩ := Option.map_eq_some_iff.mp counted
  obtain ⟨_, _, _, number⟩ := right forest extracted
  refine ⟨reachable, forest, extracted, two, ?_⟩
  omega

end Forest

end ChartParsing
