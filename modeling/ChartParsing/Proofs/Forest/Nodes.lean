import ChartParsing.Proofs.Forest.Counting
import ChartParsing.Proofs.Forest.Occurrence

/-!
# The nodes of a forest

Expanding a node adds items that the node mentions, and only behind all items
there are.  So every node but the first is mentioned by an earlier one, and is
reached from the root; and whatever is reached from the root has a node, since
every node lists all of its pairings.  The nodes of a forest are therefore the
items that occur in some derivation tree over the whole input.
-/

namespace ChartParsing

/-- One numbering grows from another one: numbers are kept, and what joins is of a
certain kind and comes behind. -/
structure Numbering.GrowsBy (kind : Item → Prop) (before after : Numbering Item) : Prop where
  includes : after.Includes before
  size_le : before.size ≤ after.size
  origin : ∀ {id : Nat} {item : Item}, after.get? id = some item →
    before.get? id = some item ∨ (before.size ≤ id ∧ kind item)

namespace Numbering.GrowsBy

variable {kind other : Item → Prop}

theorem refl (items : Numbering Item) : GrowsBy kind items items :=
  ⟨fun found => found, Nat.le_refl _, .inl⟩

theorem trans {first second third : Numbering Item} (lower : GrowsBy kind first second)
    (upper : GrowsBy kind second third) : GrowsBy kind first third := by
  refine ⟨fun found => upper.includes (lower.includes found),
    Nat.le_trans lower.size_le upper.size_le, ?_⟩
  intro id item found
  rcases upper.origin found with earlier | ⟨behind, allowed⟩
  · exact lower.origin earlier
  · exact .inr ⟨Nat.le_trans lower.size_le behind, allowed⟩

theorem imp {before after : Numbering Item} (weaker : ∀ item, kind item → other item)
    (grows : GrowsBy kind before after) : GrowsBy other before after := by
  refine ⟨grows.includes, grows.size_le, ?_⟩
  intro id item found
  exact (grows.origin found).imp_right fun new => ⟨new.1, weaker item new.2⟩

end Numbering.GrowsBy

namespace Extraction

variable {chart : Chart} {state after final : Extraction} {start : Nonterminal}

theorem growsBy_mention (state : Extraction) (item : Item) :
    Numbering.GrowsBy (· = item) state.items (state.mention item).2.items := by
  cases found : state.items.position? item with
  | some id =>
      rw [mention_of_position? found]
      exact .refl _
  | none =>
      rw [mention_of_fresh found]
      refine ⟨includes_append found, ?_, ?_⟩
      · simp [Numbering.size_append]
      · intro id other known
        rw [Numbering.get?_append] at known
        split at known
        · next last => exact .inr ⟨Nat.le_of_eq last.symm, (Option.some.inj known).symm⟩
        · exact .inl known

theorem growsBy_mentionAll (span : Span) (pairings : List Pairing) (state : Extraction) :
    Numbering.GrowsBy
      (fun item => ∃ pairing ∈ pairings,
        item = (pairing.items span).1 ∨ item = (pairing.items span).2)
      state.items (mentionAll span pairings state).2.items := by
  induction pairings generalizing state with
  | nil => exact .refl _
  | cons pairing rest induction =>
      have left := growsBy_mention state (pairing.items span).1
      have right := growsBy_mention (state.mention (pairing.items span).1).2
        (pairing.items span).2
      have later := induction
        ((state.mention (pairing.items span).1).2.mention (pairing.items span).2).2
      refine ((left.imp ?_).trans (right.imp ?_)).trans (later.imp ?_)
      · exact fun _ same => ⟨pairing, List.mem_cons_self, .inl same⟩
      · exact fun _ same => ⟨pairing, List.mem_cons_self, .inr same⟩
      · intro item listed
        obtain ⟨other, member, half⟩ := listed
        exact ⟨other, List.mem_cons_of_mem _ member, half⟩

theorem growsBy_expand? {id : Nat} (expanded : expand? chart id state = some after) :
    ∃ item, state.items.get? id = some item ∧
      Numbering.GrowsBy (chart.Mentions item) state.items after.items := by
  simp only [expand?, Option.bind_eq_bind, Option.bind_eq_some_iff] at expanded
  obtain ⟨item, found, settled⟩ := expanded
  refine ⟨item, found, ?_⟩
  split at settled
  · obtain ⟨letter, _, same⟩ := Option.bind_eq_some_iff.mp settled
    cases same
    exact .refl _
  · cases settled
    exact growsBy_mentionAll item.span (chart.pairingsOf item) state

theorem run?_keeps {motive : Numbering Item → Prop}
    (keeps : ∀ {id : Nat} {item : Item} {before after : Numbering Item},
      before.get? id = some item → before.GrowsBy (chart.Mentions item) after →
      motive before → motive after)
    {steps : Nat} (ran : run? chart steps state = some final) (begun : motive state.items) :
    motive final.items := by
  induction ran using run?_induction with
  | ended _ _ => exact begun
  | turn _ _ stepped induction =>
      obtain ⟨item, found, grows⟩ := growsBy_expand? stepped
      exact induction (keeps found grows begun)

/-- Every item but the first is mentioned by an earlier one. -/
def Descends (chart : Chart) (items : Numbering Item) : Prop :=
  ∀ id item, items.get? id = some item → id ≠ 0 →
    ∃ parent parentItem, parent < id ∧ items.get? parent = some parentItem ∧
      chart.Mentions parentItem item

theorem Descends.growsBy {before after : Numbering Item} (descends : Descends chart before)
    {id : Nat} {item : Item} (found : before.get? id = some item)
    (grows : before.GrowsBy (chart.Mentions item) after) : Descends chart after := by
  intro other otherItem otherFound behindRoot
  rcases grows.origin otherFound with earlier | ⟨behind, mentions⟩
  · obtain ⟨parent, parentItem, below, parentFound, mentions⟩ :=
      descends other otherItem earlier behindRoot
    exact ⟨parent, parentItem, below, grows.includes parentFound, mentions⟩
  · exact ⟨id, item, Nat.lt_of_lt_of_le (Numbering.get?_lt_size found) behind,
      grows.includes found, mentions⟩

/-- The state in which an extraction starts: only the root is mentioned. -/
def begin (chart : Chart) (start : Nonterminal) : Extraction :=
  ((empty chart.cells.size).mention ⟨start, chart.span⟩).2

theorem get?_begin_iff {id : Nat} {item : Item} :
    (begin chart start).items.get? id = some item ↔ id = 0 ∧ item = ⟨start, chart.span⟩ := by
  have fresh : (empty chart.cells.size).items.position? ⟨start, chart.span⟩ = none :=
    Numbering.position?_eq_none_iff.mpr List.not_mem_nil
  rw [begin, mention_of_fresh fresh, Numbering.get?_append]
  simp [empty, Numbering.empty, Numbering.size, Numbering.get?, eq_comm]

theorem sound_begin (member : start ∈ chart.cell chart.span) : Sound chart [] (begin chart start) :=
  (mention_spec ⟨start, chart.span⟩ (sound_empty chart chart.cells.size) member).1

theorem exists_run_begin (finished : chart.Finished) (accepted : chart.accepts start = true) :
    ∃ final, run? chart (chart.memberCount chart.spans) (begin chart start) = some final ∧
      Sound chart [] final := by
  have begun := sound_begin (Chart.accepts_iff.mp accepted)
  obtain ⟨final, ran, sound, _⟩ := run?_spec finished begun (Nat.le_add_right _ _)
  exact ⟨final, ran, sound⟩

theorem descends_begin : Descends chart (begin chart start).items := by
  intro id item found behindRoot
  exact absurd (get?_begin_iff.mp found).1 behindRoot

end Extraction

namespace Forest

variable {chart : Chart} {start : Nonterminal} {forest : Forest}

theorem extract?_eq_some_iff :
    extract? chart start = some forest ↔
      chart.accepts start = true ∧ ∃ final,
        Extraction.run? chart (chart.memberCount chart.spans) (Extraction.begin chart start) =
          some final ∧ final.toForest = forest := by
  cases accepted : chart.accepts start with
  | false => simp [extract?_of_not_accepts accepted]
  | true =>
      simp [extract?, accepted, Extraction.begin, Option.bind_eq_some_iff]

/-- What an extraction leaves behind beside explained nodes. -/
structure Connected (chart : Chart) (forest : Forest) : Prop where
  kindsSize : forest.kinds.size = forest.items.size
  descends : Extraction.Descends chart forest.items

theorem connected_of_extract? (finished : chart.Finished)
    (extracted : extract? chart start = some forest) : forest.Connected chart := by
  obtain ⟨accepted, final, ran, rfl⟩ := extract?_eq_some_iff.mp extracted
  obtain ⟨other, otherRan, sound⟩ := Extraction.exists_run_begin finished accepted
  cases ran.symm.trans otherRan
  refine ⟨sound.kindsSize, ?_⟩
  have keeps : ∀ {id : Nat} {item : Item} {before after : Numbering Item},
      before.get? id = some item → before.GrowsBy (chart.Mentions item) after →
      Extraction.Descends chart before → Extraction.Descends chart after :=
    fun found grows descends => descends.growsBy found grows
  exact Extraction.run?_keeps keeps ran Extraction.descends_begin

/-! ## Nodes and their items -/

namespace Explained

/-- The items of the nodes are those that are reached from the root. -/
theorem exists_get?_iff (explained : forest.Explained chart start)
    (connected : forest.Connected chart) {item : Item} :
    (∃ id, forest.items.get? id = some item) ↔
      Relation.ReflTransGen chart.Mentions ⟨start, chart.span⟩ item := by
  constructor
  · intro known
    obtain ⟨id, found⟩ := known
    induction id using Nat.strongRecOn generalizing item with
    | ind id induction =>
        by_cases first : id = 0
        · cases first
          cases found.symm.trans explained.root
          exact .refl
        · obtain ⟨parent, parentItem, below, parentFound, mentions⟩ :=
            connected.descends id item found first
          exact .tail (induction parent below parentFound) mentions
  · intro reached
    induction reached with
    | refl => exact ⟨forest.root, explained.root⟩
    | tail _ mentions induction =>
        obtain ⟨parent, parentFound⟩ := induction
        obtain ⟨pairing, paired, half⟩ := mentions
        obtain ⟨place, hit⟩ := List.mem_iff_getElem?.mp paired
        obtain ⟨leftId, rightId, leftFound, rightFound⟩ := explained.exists_ids parentFound
          (Item.length_ne_one_of_mem_pairingsOf paired) hit
        rcases half with rfl | rfl
        · exact ⟨leftId, leftFound⟩
        · exact ⟨rightId, rightFound⟩

theorem exists_derivation (explained : forest.Explained chart start) {parent id : Nat}
    {parentItem item : Item} (parentFound : forest.items.get? parent = some parentItem)
    (found : forest.items.get? id = some item) (mentions : chart.Mentions parentItem item) :
    ∃ node derivation, forest.node? parent = some node ∧ derivation ∈ node.kind.derivations ∧
      (derivation.left = id ∨ derivation.right = id) := by
  obtain ⟨kind, node, explains⟩ := explained.node? parentFound
  obtain ⟨pairing, paired, half⟩ := mentions
  cases explains with
  | leaf single _ => exact absurd single (Item.length_ne_one_of_mem_pairingsOf paired)
  | branch _ denoted =>
      obtain ⟨place, hit⟩ := List.mem_iff_getElem?.mp paired
      obtain ⟨derivation, listed, denotes⟩ := exists_getElem?_of_forall₂ denoted hit
      refine ⟨_, derivation, node, List.mem_of_getElem? listed, ?_⟩
      rcases half with rfl | rfl
      · exact .inl (Numbering.get?_injective explained.distinct denotes.left found)
      · exact .inr (Numbering.get?_injective explained.distinct denotes.right found)

end Explained

/-- The items of the nodes are those that occur in some tree of the root. -/
theorem Explained.mem_items_iff {grammar : Grammar} {symbols : Array String} {separator : String}
    (formed : grammar.WellFormed)
    (explained : forest.Explained (Chart.fill grammar symbols separator) start)
    (connected : forest.Connected (Chart.fill grammar symbols separator)) {item : Item} :
    item ∈ forest.items.toList ↔
      ∃ tree : DerivationTree, tree.Parses grammar start symbols.toList ∧ item ∈ tree.items 0 := by
  have member := explained.members explained.root
  rw [List.mem_iff_getElem?]
  simp only [← Numbering.get?_eq_getElem?]
  rw [explained.exists_get?_iff connected, Item.reaches_iff_exists_tree formed member, trees_whole]
  rfl

theorem getElem?_nodes (forest : Forest) (id : Nat) : forest.nodes[id]? = forest.node? id := by
  have kinds : forest.kinds.toList[id]? = forest.kinds[id]? := Array.getElem?_toList
  rw [nodes, List.getElem?_zipWith, node?, Numbering.get?_eq_getElem?, kinds]
  cases forest.items.toList[id]? with
  | none => rfl
  | some item => cases forest.kinds[id]? <;> rfl

theorem map_item_nodes (explained : forest.Explained chart start) :
    forest.nodes.map Node.item = forest.items.toList := by
  apply List.ext_getElem?
  intro id
  rw [List.getElem?_map, getElem?_nodes, ← Numbering.get?_eq_getElem?]
  cases found : forest.items.get? id with
  | none => simp [node?, found]
  | some item =>
      obtain ⟨kind, node, _⟩ := explained.node? found
      rw [node, Option.map_some]

theorem Explained.explains_of_node? (explained : forest.Explained chart start) {id : Nat}
    {node : Node} (placed : forest.node? id = some node) :
    forest.items.get? id = some node.item ∧
      node.kind.Explains chart forest.items node.item := by
  cases found : forest.items.get? id with
  | none => simp [Forest.node?, found] at placed
  | some item =>
      obtain ⟨kind, known, explains⟩ := explained.node? found
      cases known.symm.trans placed
      exact ⟨rfl, explains⟩

theorem Explained.explains_of_mem_nodes (explained : forest.Explained chart start) {node : Node}
    (listed : node ∈ forest.nodes) :
    ∃ id, forest.items.get? id = some node.item ∧
      node.kind.Explains chart forest.items node.item := by
  obtain ⟨id, placed⟩ := List.mem_iff_getElem?.mp listed
  rw [getElem?_nodes] at placed
  exact ⟨id, explained.explains_of_node? placed⟩

theorem Explained.exists_mem_nodes (explained : forest.Explained chart start) {id : Nat}
    {item : Item} (found : forest.items.get? id = some item) :
    ∃ kind, ⟨item, kind⟩ ∈ forest.nodes ∧ kind.Explains chart forest.items item := by
  obtain ⟨kind, known, explains⟩ := explained.node? found
  exact ⟨kind, List.mem_of_getElem? ((forest.getElem?_nodes id).trans known), explains⟩

theorem member_of_mem_nodes (explained : forest.Explained chart start) {node : Node}
    (listed : node ∈ forest.nodes) : node.item.nonterminal ∈ chart.cell node.item.span := by
  obtain ⟨id, found, _⟩ := explained.explains_of_mem_nodes listed
  exact explained.members found

/-- A nonterminal that is accepted has a forest.  Its nodes stand for the items
that occur in the derivation trees over the whole input, each item once.  The
root comes first, every other node is a child of an earlier one, and a node is
found at its place. -/
theorem nodes_are_occurrences {grammar : Grammar} (reachable : grammar.Reachable)
    (symbols : Array String) (separator : String) (start : Nonterminal)
    (accepted : (Chart.fill grammar symbols separator).accepts start = true) :
    ∃ forest, extract? (Chart.fill grammar symbols separator) start = some forest ∧
      (∀ item : Item, (∃ node ∈ forest.nodes, node.item = item) ↔
        ∃ tree : DerivationTree, tree.Parses grammar start symbols.toList ∧ item ∈ tree.items 0) ∧
      (forest.nodes.map Node.item).Nodup ∧
      forest.nodes[forest.root]?.map Node.item = some ⟨start, ⟨0, symbols.size⟩⟩ ∧
      (∀ id node, forest.nodes[id]? = some node → id ≠ forest.root →
        ∃ parent parentNode derivation, parent < id ∧ forest.nodes[parent]? = some parentNode ∧
          derivation ∈ parentNode.kind.derivations ∧
          (derivation.left = id ∨ derivation.right = id)) ∧
      (∀ item id, forest.find? item = some id ↔
        ∃ node, forest.nodes[id]? = some node ∧ node.item = item) := by
  have formed := reachable.wellFormed
  have finished : (Chart.fill grammar symbols separator).Finished := Chart.finished_fill
  obtain ⟨forest, extracted, explained⟩ := extract?_of_accepts finished accepted
  have connected := connected_of_extract? finished extracted
  have listed := map_item_nodes explained
  have placed : ∀ id, forest.nodes[id]?.map Node.item = forest.items.get? id := by
    intro id
    rw [← List.getElem?_map, listed, Numbering.get?_eq_getElem?]
  refine ⟨forest, extracted, ?_, listed ▸ explained.distinct, ?_, ?_, ?_⟩
  · intro item
    rw [← List.mem_map, listed, explained.mem_items_iff formed connected]
  · rw [placed, explained.root, Chart.span, Chart.size_fill]
  · intro id node found behindRoot
    have itemFound := placed id
    rw [found, Option.map_some] at itemFound
    obtain ⟨parent, parentItem, below, parentFound, mentions⟩ :=
      connected.descends id node.item itemFound.symm behindRoot
    obtain ⟨parentNode, derivation, parentNodeFound, derived, child⟩ :=
      explained.exists_derivation parentFound itemFound.symm mentions
    exact ⟨parent, parentNode, derivation, below, (forest.getElem?_nodes parent).trans
      parentNodeFound, derived, child⟩
  · intro item id
    rw [find?, Numbering.position?_eq_some_iff explained.distinct, ← placed,
      Option.map_eq_some_iff]

/-- Under the sample grammar the last two of three letters have a node, and a tree in
which they are a part of their own. -/
theorem nodes_are_occurrences_sample :
    Construction.sample.Reachable ∧
      (Chart.fill Construction.sample #["a", "a", "a"] " ").accepts ⟨0⟩ = true ∧
      ∃ forest, extract? (Chart.fill Construction.sample #["a", "a", "a"] " ") ⟨0⟩ = some forest ∧
        forest.find? ⟨⟨0⟩, ⟨1, 2⟩⟩ = some 2 ∧
        ∃ tree : DerivationTree,
          tree.Parses Construction.sample ⟨0⟩ #["a", "a", "a"].toList ∧
            ⟨⟨0⟩, ⟨1, 2⟩⟩ ∈ tree.items 0 := by
  have reachable := Construction.reachable_sample
  have accepted : (Chart.fill Construction.sample #["a", "a", "a"] " ").accepts ⟨0⟩ = true := by
    decide +kernel
  obtain ⟨forest, extracted, occurring, _, _, _, found⟩ :=
    nodes_are_occurrences reachable #["a", "a", "a"] " " ⟨0⟩ accepted
  have place : (extract? (Chart.fill Construction.sample #["a", "a", "a"] " ") ⟨0⟩).map
      (fun forest => forest.find? ⟨⟨0⟩, ⟨1, 2⟩⟩) = some (some 2) := by decide +kernel
  rw [extracted, Option.map_some, Option.some.injEq] at place
  obtain ⟨node, listed, same⟩ := (found _ _).mp place
  exact ⟨reachable, accepted, forest, extracted, place,
    (occurring _).mp ⟨node, List.mem_of_getElem? listed, same⟩⟩

end Forest

end ChartParsing
