import ChartParsing.Proofs.Forest.Nodes

/-!
# The derivations of a node

A node over a single position is a leaf with the terminal there.  Any other node lists
its derivations as the chart lists the pairings of its item: by the length of the first
part, then by the left and then by the right nonterminal.  No pairing is left out, and
each of them is there once, with the nodes of its two halves.
-/

namespace ChartParsing

/-- One pairing comes before another one, by the length of the first part, then by the
left and then by the right nonterminal. -/
def Pairing.Before (first second : Pairing) : Prop :=
  first.split < second.split ∨
    first.split = second.split ∧
      (first.left.index < second.left.index ∨
        first.left = second.left ∧ first.right.index < second.right.index)

/-- A derivation of a node over a span is read as a pairing: its children are the nodes
of the two items that the pairing stands for. -/
structure Derivation.ReadAs (forest : Forest) (span : Span) (derivation : Derivation)
    (pairing : Pairing) : Prop where
  split : derivation.split = pairing.split
  left : forest.nodes[derivation.left]?.map Node.item =
    some ⟨pairing.left, ⟨span.start, pairing.split⟩⟩
  right : forest.nodes[derivation.right]?.map Node.item =
    some ⟨pairing.right, ⟨span.start + pairing.split, span.length - pairing.split⟩⟩

namespace Chart

variable {chart : Chart} {item : Item}

/-! ## The order of pairings -/

theorem pairwise_pairingsAt (chart : Chart) (span : Span) (offset : Nat) :
    (chart.pairingsAt span offset).Pairwise Pairing.Before := by
  refine List.pairwise_flatMap.mpr ⟨fun left _ => ?_, ?_⟩
  · rw [List.pairwise_map]
    exact (NonterminalSet.pairwise_toList _).imp fun below => .inr ⟨rfl, .inr ⟨rfl, below⟩⟩
  · apply (NonterminalSet.pairwise_toList _).imp
    intro first second below pairing inFirst other inSecond
    obtain ⟨_, _, rfl⟩ := List.mem_map.mp inFirst
    obtain ⟨_, _, rfl⟩ := List.mem_map.mp inSecond
    exact .inr ⟨rfl, .inl below⟩

theorem pairwise_pairingsOf (chart : Chart) (item : Item) :
    (chart.pairingsOf item).Pairwise Pairing.Before := by
  refine List.Pairwise.filter _ (List.pairwise_flatMap.mpr ⟨fun offset _ => ?_, ?_⟩)
  · exact chart.pairwise_pairingsAt item.span offset
  · have ascending : (List.range' 1 (item.span.length - 1)).Pairwise (· < ·) :=
      List.pairwise_lt_range'
    apply ascending.imp
    intro first second below pairing inFirst other inSecond
    left
    rw [split_of_mem_pairingsAt inFirst, split_of_mem_pairingsAt inSecond]
    exact below

theorem exists_mem_pairingsOf (finished : chart.Finished)
    (member : item.nonterminal ∈ chart.cell item.span) (long : item.span.length ≠ 1) :
    ∃ pairing, pairing ∈ chart.pairingsOf item := by
  rw [finished item.span (within_of_mem_cell member), derived, if_neg long] at member
  obtain ⟨pairing, paired, ruled⟩ := mem_derive.mp member
  exact ⟨pairing, mem_pairingsOf.mpr ⟨paired, ruled⟩⟩

theorem mem_pairingsOf_fill {grammar : Grammar} {symbols : Array String} {separator : String}
    (formed : grammar.WellFormed) {pairing : Pairing} :
    pairing ∈ (fill grammar symbols separator).pairingsOf item ↔
      1 ≤ pairing.split ∧ pairing.split < item.span.length ∧
        pairing.left ∈
          (fill grammar symbols separator).cell ⟨item.span.start, pairing.split⟩ ∧
        pairing.right ∈ (fill grammar symbols separator).cell
          ⟨item.span.start + pairing.split, item.span.length - pairing.split⟩ ∧
        ⟨item.nonterminal, .pair pairing.left pairing.right⟩ ∈ grammar.rules.toList := by
  rw [mem_pairingsOf, mem_pairings, grammar_fill, formed.memPair]
  simp only [and_assoc]
  rfl

end Chart

namespace Forest

variable {chart : Chart} {start : Nonterminal} {forest : Forest}

theorem map_item_getElem?_nodes (explained : forest.Explained chart start) (id : Nat) :
    forest.nodes[id]?.map Node.item = forest.items.get? id := by
  rw [← List.getElem?_map, map_item_nodes explained, Numbering.get?_eq_getElem?]

theorem Explained.readAs (explained : forest.Explained chart start) {span : Span}
    {pairing : Pairing} {derivation : Derivation}
    (denotes : derivation.Denotes forest.items span pairing) :
    derivation.ReadAs forest span pairing where
  split := denotes.split
  left := (map_item_getElem?_nodes explained _).trans denotes.left
  right := (map_item_getElem?_nodes explained _).trans denotes.right

/-- Every node of a forest is of one of two kinds.  Over a single position it is a leaf
with the terminal of the symbol there, for which its nonterminal has a rule.  Over two
positions or more it is a branch.  Its derivations are read as the pairings of two cells
that together cover the span and for which the nonterminal has a rule: as all of them,
each once and in order, and there is at least one. -/
theorem derivations_are_pairings {grammar : Grammar} (reachable : grammar.Reachable)
    (symbols : Array String) (separator : String) (start : Nonterminal)
    (accepted : (Chart.fill grammar symbols separator).accepts start = true) :
    ∃ forest, extract? (Chart.fill grammar symbols separator) start = some forest ∧
      ∀ nonterminal position length kind,
        ⟨⟨nonterminal, ⟨position, length⟩⟩, kind⟩ ∈ forest.nodes →
        (length = 1 ∧ ∃ letter, kind = .leaf letter ∧
          symbols[position]?.map grammar.terminal? = some (some letter) ∧
          ⟨nonterminal, .terminal letter⟩ ∈ grammar.rules.toList) ∨
        (2 ≤ length ∧ ∃ derivations pairings, kind = .branch derivations ∧
          List.Forall₂ (Derivation.ReadAs forest ⟨position, length⟩) derivations pairings ∧
          (∀ split left right, ⟨split, left, right⟩ ∈ pairings ↔
            1 ≤ split ∧ split < length ∧
              left ∈ (Chart.fill grammar symbols separator).cell ⟨position, split⟩ ∧
              right ∈ (Chart.fill grammar symbols separator).cell
                ⟨position + split, length - split⟩ ∧
              ⟨nonterminal, .pair left right⟩ ∈ grammar.rules.toList) ∧
          pairings.Pairwise Pairing.Before ∧ derivations ≠ []) := by
  have formed := reachable.wellFormed
  have finished : (Chart.fill grammar symbols separator).Finished := Chart.finished_fill
  obtain ⟨forest, extracted, explained⟩ := extract?_of_accepts finished accepted
  refine ⟨forest, extracted, ?_⟩
  intro nonterminal position length kind listed
  have member := member_of_mem_nodes explained listed
  have within : (⟨position, length⟩ : Span).Within symbols.size := Item.within_of_member member
  obtain ⟨_, _, explains⟩ := explained.explains_of_mem_nodes listed
  cases explains with
  | @leaf letter single found =>
      have inside : position < symbols.size := within.start_lt
      rw [Chart.cell_fill within, Chart.derived, if_pos single, Chart.mem_deriveLeaf] at member
      obtain ⟨other, same, derives⟩ := member
      cases found.symm.trans same
      rw [Chart.grammar_fill, formed.memTerminal] at derives
      rw [Chart.terminal?_fill inside] at found
      refine .inl ⟨single, letter, rfl, ?_, derives⟩
      rw [Array.getElem?_eq_getElem inside, Option.map_some, found]
  | @branch derivations long denoted =>
      have positive : 0 < length := within.positive
      have several : length ≠ 1 := long
      obtain ⟨pairing, paired⟩ := Chart.exists_mem_pairingsOf finished member long
      refine .inr ⟨by omega, derivations,
        (Chart.fill grammar symbols separator).pairingsOf ⟨nonterminal, ⟨position, length⟩⟩,
        rfl, ?_, ?_, Chart.pairwise_pairingsOf _ _, ?_⟩
      · exact denoted.flip.imp fun _ _ denotes => explained.readAs denotes
      · intro split left right
        exact Chart.mem_pairingsOf_fill formed
      · rintro rfl
        rw [List.forall₂_nil_right_iff.mp denoted] at paired
        cases paired

/-- The root over three letters can be cut after the first and after the second one. -/
theorem derivations_are_pairings_sample :
    Construction.sample.Reachable ∧
      (Chart.fill Construction.sample #["a", "a", "a"] " ").accepts ⟨0⟩ = true ∧
      ∃ forest derivations pairings,
        extract? (Chart.fill Construction.sample #["a", "a", "a"] " ") ⟨0⟩ = some forest ∧
        ⟨⟨⟨0⟩, ⟨0, 3⟩⟩, .branch derivations⟩ ∈ forest.nodes ∧ derivations.length = 2 ∧
        List.Forall₂ (Derivation.ReadAs forest ⟨0, 3⟩) derivations pairings ∧
        ⟨1, ⟨0⟩, ⟨0⟩⟩ ∈ pairings ∧ ⟨2, ⟨0⟩, ⟨0⟩⟩ ∈ pairings ∧
        pairings.Pairwise Pairing.Before := by
  have reachable := Construction.reachable_sample
  have accepted : (Chart.fill Construction.sample #["a", "a", "a"] " ").accepts ⟨0⟩ = true := by
    decide +kernel
  have rooted : (extract? (Chart.fill Construction.sample #["a", "a", "a"] " ") ⟨0⟩).map
      (fun forest => forest.nodes.head?) =
        some (some ⟨⟨⟨0⟩, ⟨0, 3⟩⟩, .branch [⟨1, 1, 2⟩, ⟨2, 3, 4⟩]⟩) := by decide +kernel
  obtain ⟨forest, extracted, kinds⟩ :=
    derivations_are_pairings reachable #["a", "a", "a"] " " ⟨0⟩ accepted
  rw [extracted, Option.map_some, Option.some.injEq] at rooted
  have listed := List.mem_of_head? rooted
  rcases kinds ⟨0⟩ 0 3 _ listed with ⟨single, _⟩ | ⟨_, _, pairings, same, read, exact, ordered, _⟩
  · cases single
  · cases same
    refine ⟨reachable, accepted, forest, _, pairings, extracted, listed, rfl, read, ?_, ?_, ordered⟩
    · exact (exact 1 ⟨0⟩ ⟨0⟩).mpr (by decide +kernel)
    · exact (exact 2 ⟨0⟩ ⟨0⟩).mpr (by decide +kernel)

end Forest

end ChartParsing
