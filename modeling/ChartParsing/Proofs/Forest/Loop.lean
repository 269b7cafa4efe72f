import ChartParsing.Proofs.Forest.Agreement
import ChartParsing.Proofs.Usefulness.Removal

/-!
# The loop of an extraction

The loop takes a node off the stack, mentions the two items of each of its pairings, and
settles the node, until the stack is empty.  Its steps are given here one by one, so that
something can be said about the moments within a turn, when some of the children have been
mentioned and others have not.  At every moment each node is on the stack, or it is the one
being expanded, or it is expanded and its children have nodes; so no node is taken off the
stack twice.  Only members of cells become nodes, and no cell has more members than there
are nonterminals.
-/

namespace ChartParsing

namespace Extraction

/-- A turn of the loop that is under way. -/
structure Turn where
  /-- The node taken off the stack. -/
  id : Nat
  item : Item
  /-- The derivations found so far. -/
  listed : List Derivation
  /-- The left child of the next pairing, once it is mentioned. -/
  left : Option Nat
  /-- The pairings that are not yet listed as derivations. -/
  rest : List Pairing

structure Moment where
  /-- The nodes taken off the stack so far, the latest in front. -/
  taken : List Nat
  /-- The turn that is under way, if the loop is not between two turns. -/
  turn : Option Turn
  state : Extraction

namespace Moment

def begin (chart : Chart) (start : Nonterminal) : Moment :=
  ⟨[], none, Extraction.begin chart start⟩

/-- The node being expanded, if there is one. -/
def busy (moment : Moment) : List Nat :=
  (moment.turn.map Turn.id).toList

end Moment

/-- The steps of the loop: a node is taken off the stack, the left or the right item of
its next pairing is mentioned, or the node is settled.  Only a node over two positions
or more mentions anything. -/
inductive Step (chart : Chart) : Moment → Moment → Prop where
  | take {taken pending expanded : List Nat} {items : Numbering Item} {kinds : Array NodeKind}
      {id : Nat} {item : Item} : items.get? id = some item →
      Step chart ⟨taken, none, ⟨items, kinds, id :: pending, expanded⟩⟩
        ⟨id :: taken, some ⟨id, item, [], none, chart.pairingsOf item⟩,
          ⟨items, kinds, pending, expanded⟩⟩
  | left {taken : List Nat} {id : Nat} {item : Item} {listed : List Derivation}
      {pairing : Pairing} {rest : List Pairing} {state : Extraction} :
      item.span.length ≠ 1 →
      Step chart ⟨taken, some ⟨id, item, listed, none, pairing :: rest⟩, state⟩
        ⟨taken, some ⟨id, item, listed, some (state.mention (pairing.items item.span).1).1,
          pairing :: rest⟩, (state.mention (pairing.items item.span).1).2⟩
  | right {taken : List Nat} {id leftId : Nat} {item : Item} {listed : List Derivation}
      {pairing : Pairing} {rest : List Pairing} {state : Extraction} :
      Step chart ⟨taken, some ⟨id, item, listed, some leftId, pairing :: rest⟩, state⟩
        ⟨taken, some ⟨id, item, listed ++
            [⟨pairing.split, leftId, (state.mention (pairing.items item.span).2).1⟩], none, rest⟩,
          (state.mention (pairing.items item.span).2).2⟩
  | leaf {taken : List Nat} {id : Nat} {item : Item} {listed : List Derivation}
      {rest : List Pairing} {state : Extraction} {letter : Terminal} : item.span.length = 1 →
      chart.terminal? item.span.start = some letter →
      Step chart ⟨taken, some ⟨id, item, listed, none, rest⟩, state⟩
        ⟨taken, none, state.settle id (.leaf letter)⟩
  | branch {taken : List Nat} {id : Nat} {item : Item} {listed : List Derivation}
      {state : Extraction} : item.span.length ≠ 1 →
      Step chart ⟨taken, some ⟨id, item, listed, none, []⟩, state⟩
        ⟨taken, none, state.settle id (.branch listed)⟩

/-- Some steps lead from one moment to another one. -/
abbrev Leads (chart : Chart) : Moment → Moment → Prop :=
  Relation.ReflTransGen (Step chart)

variable {chart : Chart} {start : Nonterminal} {moment before after : Moment}

theorem Step.unique {other : Moment} (step : Step chart before after)
    (otherStep : Step chart before other) : after = other := by
  cases step with
  | take found =>
      cases otherStep with
      | take otherFound =>
          cases found.symm.trans otherFound
          rfl
  | left long =>
      cases otherStep with
      | left _ => rfl
      | leaf single _ => exact absurd single long
  | right =>
      cases otherStep with
      | right => rfl
  | leaf single found =>
      cases otherStep with
      | left long => exact absurd single long
      | leaf _ otherFound =>
          cases found.symm.trans otherFound
          rfl
      | branch long => exact absurd single long
  | branch long =>
      cases otherStep with
      | leaf single _ => exact absurd single long
      | branch _ => rfl

/-! ## What holds at every moment -/

namespace Turn

/-- What is listed so far are the derivations of the first pairings of the node. -/
structure Sound (chart : Chart) (items : Numbering Item) (turn : Turn) : Prop where
  known : items.get? turn.id = some turn.item
  listed : ∃ done, done ++ turn.rest = chart.pairingsOf turn.item ∧
    List.Forall₂ (Derivation.Denotes items turn.item.span) done turn.listed
  left : ∀ id pairing, turn.left = some id → turn.rest.head? = some pairing →
    items.get? id = some (pairing.items turn.item.span).1

variable {items : Numbering Item} {id : Nat} {item : Item} {listed : List Derivation}
  {left : Option Nat} {pairing : Pairing} {rest : List Pairing}

theorem sound_take (known : items.get? id = some item) :
    Sound chart items ⟨id, item, [], none, chart.pairingsOf item⟩ :=
  ⟨known, ⟨[], rfl, .nil⟩, fun _ _ absent => by cases absent⟩

theorem Sound.members (sound : Sound chart items ⟨id, item, listed, left, pairing :: rest⟩) :
    (pairing.items item.span).1.nonterminal ∈ chart.cell (pairing.items item.span).1.span ∧
      (pairing.items item.span).2.nonterminal ∈ chart.cell (pairing.items item.span).2.span := by
  obtain ⟨done, all, _⟩ := sound.listed
  have paired : pairing ∈ chart.pairingsOf item := by
    rw [← all]
    exact List.mem_append_right _ List.mem_cons_self
  exact (Chart.mem_pairings.mp (Chart.mem_pairingsOf.mp paired).1).2.2

theorem Sound.mentionLeft {after : Numbering Item} {leftId : Nat}
    (sound : Sound chart items ⟨id, item, listed, none, pairing :: rest⟩)
    (includes : after.Includes items)
    (found : after.get? leftId = some (pairing.items item.span).1) :
    Sound chart after ⟨id, item, listed, some leftId, pairing :: rest⟩ := by
  obtain ⟨done, all, denoted⟩ := sound.listed
  refine ⟨includes sound.known, ⟨done, all, ?_⟩, ?_⟩
  · exact denoted.imp fun _ _ denotes => denotes.mono includes
  · rintro _ _ ⟨⟩ ⟨⟩
    exact found

theorem Sound.mentionRight {after : Numbering Item} {leftId rightId : Nat}
    (sound : Sound chart items ⟨id, item, listed, some leftId, pairing :: rest⟩)
    (includes : after.Includes items)
    (found : after.get? rightId = some (pairing.items item.span).2) :
    Sound chart after ⟨id, item, listed ++ [⟨pairing.split, leftId, rightId⟩], none, rest⟩ := by
  obtain ⟨done, all, denoted⟩ := sound.listed
  have leftFound := includes (sound.left leftId pairing rfl rfl)
  refine ⟨includes sound.known, ⟨done ++ [pairing], ?_, ?_⟩, fun _ _ absent => by cases absent⟩
  · rw [← all, List.append_assoc]
    rfl
  · have earlier := denoted.imp fun _ _ denotes => denotes.mono includes
    exact List.rel_append earlier (.cons ⟨rfl, leftFound, found⟩ .nil)

end Turn

namespace Moment

/-- Beside what holds of the state, the nodes taken are those expanded and the one being
expanded. -/
structure Sound (chart : Chart) (moment : Moment) : Prop where
  state : moment.state.Sound chart moment.busy
  taken : moment.taken = moment.busy ++ moment.state.expanded
  turn : ∀ turn, moment.turn = some turn → turn.Sound chart moment.state.items

theorem sound_begin (member : start ∈ chart.cell chart.span) : (begin chart start).Sound chart where
  state := Extraction.sound_begin member
  taken := by
    rw [begin, Extraction.begin,
      mention_of_fresh (Numbering.position?_eq_none_iff.mpr List.not_mem_nil)]
    rfl
  turn _ absent := by cases absent

theorem Sound.idle {taken : List Nat} {state : Extraction} (sound : state.Sound chart [])
    (same : taken = state.expanded) : Sound chart ⟨taken, none, state⟩ :=
  ⟨sound, same, fun _ absent => by cases absent⟩

theorem Sound.mention {taken : List Nat} {turn next : Turn} {state : Extraction} {item : Item}
    (sound : Sound chart ⟨taken, some turn, state⟩) (same : next.id = turn.id)
    (member : item.nonterminal ∈ chart.cell item.span)
    (keeps : (state.mention item).2.items.Includes state.items →
      (state.mention item).2.items.get? (state.mention item).1 = some item →
      next.Sound chart (state.mention item).2.items) :
    Sound chart ⟨taken, some next, (state.mention item).2⟩ := by
  obtain ⟨mentioned, kept, found⟩ := mention_spec item sound.state member
  have busy : Moment.busy ⟨taken, some next, (state.mention item).2⟩ = [turn.id] :=
    congrArg ([·]) same
  refine ⟨busy ▸ mentioned, ?_, ?_⟩
  · rw [busy, kept.expanded]
    exact sound.taken
  · rintro _ ⟨⟩
    exact keeps kept.items found

end Moment

/-- Every step keeps what holds. -/
theorem Step.sound (step : Step chart before after) (sound : before.Sound chart) :
    after.Sound chart := by
  cases step with
  | take found =>
      refine ⟨{ sound.state with identifiers := sound.state.identifiers }, ?_, ?_⟩
      · exact congrArg (_ :: ·) sound.taken
      · rintro _ ⟨⟩
        exact Turn.sound_take found
  | left long =>
      have turn := sound.turn _ rfl
      exact sound.mention rfl turn.members.1 turn.mentionLeft
  | right =>
      have turn := sound.turn _ rfl
      exact sound.mention rfl turn.members.2 turn.mentionRight
  | leaf single found =>
      have turn := sound.turn _ rfl
      exact .idle (sound.state.settle turn.known (.leaf single found)) sound.taken
  | branch long =>
      have turn := sound.turn _ rfl
      obtain ⟨done, all, denoted⟩ := turn.listed
      rw [List.append_nil] at all
      subst all
      exact .idle (sound.state.settle turn.known (.branch long denoted)) sound.taken

theorem sound_of_leads (leads : Leads chart before after) (sound : before.Sound chart) :
    after.Sound chart := by
  induction leads with
  | refl => exact sound
  | tail _ step earlier => exact step.sound earlier

/-! ## The steps of a run -/

theorem leads_mentionAll {taken : List Nat} {id : Nat} {item : Item} (long : item.span.length ≠ 1)
    (rest : List Pairing) (listed : List Derivation) (state : Extraction) :
    Leads chart ⟨taken, some ⟨id, item, listed, none, rest⟩, state⟩
      ⟨taken, some ⟨id, item, listed ++ (mentionAll item.span rest state).1, none, []⟩,
        (mentionAll item.span rest state).2⟩ := by
  induction rest generalizing listed state with
  | nil => rw [mentionAll, List.append_nil]
  | cons pairing rest induction =>
      let left := state.mention (pairing.items item.span).1
      let right := left.2.mention (pairing.items item.span).2
      have later := induction (listed ++ [⟨pairing.split, left.1, right.1⟩]) right.2
      rw [List.append_assoc] at later
      exact .head (.left long) (.head .right later)

/-- Expanding a node is a turn of the loop. -/
theorem leads_expand? {taken pending expanded : List Nat} {items : Numbering Item}
    {kinds : Array NodeKind} {id : Nat} {next : Extraction}
    (stepped : expand? chart id ⟨items, kinds, pending, expanded⟩ = some next) :
    Leads chart ⟨taken, none, ⟨items, kinds, id :: pending, expanded⟩⟩
      ⟨id :: taken, none, next⟩ := by
  simp only [expand?, Option.bind_eq_bind, Option.bind_eq_some_iff] at stepped
  obtain ⟨item, found, settled⟩ := stepped
  refine .head (.take found) ?_
  split at settled
  · next single =>
      obtain ⟨letter, terminal, same⟩ := Option.bind_eq_some_iff.mp settled
      cases same
      exact .single (.leaf single terminal)
  · next long =>
      cases settled
      exact (leads_mentionAll long (chart.pairingsOf item) [] _).tail (.branch long)

theorem leads_run? {steps : Nat} {state final : Extraction}
    (ran : run? chart steps state = some final) (taken : List Nat) :
    final.pending = [] ∧ ∃ later, Leads chart ⟨taken, none, state⟩ ⟨later, none, final⟩ := by
  induction ran using run?_induction generalizing taken with
  | ended _ nothing => exact ⟨nothing, taken, .refl⟩
  | turn _ _ stepped induction =>
      obtain ⟨ended, later, leads⟩ := induction (_ :: taken)
      exact ⟨ended, later, (leads_expand? stepped).trans leads⟩

theorem not_step_of_ended (idle : moment.turn = none) (ended : moment.state.pending = []) :
    ¬Step chart moment after := by
  intro step
  cases step with
  | take _ => cases ended
  | left _ | right | leaf _ _ | branch _ => cases idle

/-- If some steps lead to the end, then they do so from every moment on the way, and
there is no other way. -/
theorem leads_end {final : Moment} (idle : final.turn = none) (ended : final.state.pending = [])
    (whole : Leads chart before final) (leads : Leads chart before moment) :
    Leads chart moment final := by
  have unique : Relator.RightUnique (Step chart) := fun _ _ _ step other => step.unique other
  rcases Relation.ReflTransGen.total_of_right_unique unique leads whole with onward | back
  · exact onward
  · -- No step goes out of the end, so the moment is the end itself.
    rcases Relation.ReflTransGen.cases_head back with same | ⟨next, step, _⟩
    · rw [same]
    · exact absurd step (not_step_of_ended idle ended)

/-! ## Where the nodes are -/

/-- A node is expanded.  Its kind gives all of its derivations, and what it
mentions has nodes. -/
structure Settled (chart : Chart) (state : Extraction) (id : Nat) (item : Item) : Prop where
  expanded : id ∈ state.expanded
  kind : ∃ kind, state.kinds[id]? = some kind ∧ kind.Explains chart state.items item
  children : ∀ child, chart.Mentions item child → ∃ childId, state.items.get? childId = some child

theorem exists_child {items : Numbering Item} {item child : Item} {kind : NodeKind}
    (explains : kind.Explains chart items item) (mentions : chart.Mentions item child) :
    ∃ id, items.get? id = some child := by
  obtain ⟨pairing, paired, half⟩ := mentions
  cases explains with
  | leaf single _ => exact absurd single (Item.length_ne_one_of_mem_pairingsOf paired)
  | branch _ denoted =>
      obtain ⟨derivation, _, denotes⟩ := exists_of_mem_left denoted paired
      rcases half with rfl | rfl
      · exact ⟨derivation.left, denotes.left⟩
      · exact ⟨derivation.right, denotes.right⟩

namespace Moment

/-- The items, their kinds and the stack fit together. -/
structure Orderly (chart : Chart) (moment : Moment) : Prop where
  kindsSize : moment.state.kinds.size = moment.state.items.size
  taken : moment.taken = moment.busy ++ moment.state.expanded
  takenOnce : moment.taken.Nodup
  pendingOnce : moment.state.pending.Nodup
  pending : ∀ id ∈ moment.state.pending, id < moment.state.items.size ∧ id ∉ moment.taken
  nodes : ∀ id item, moment.state.items.get? id = some item →
    id ∈ moment.state.pending ∨ id ∈ moment.busy ∨ Settled chart moment.state id item

theorem Sound.orderly (sound : moment.Sound chart) : moment.Orderly chart := by
  have identifiers : (moment.taken ++ moment.state.pending).Perm
      (List.range moment.state.items.size) := by
    rw [sound.taken, List.append_assoc]
    refine .trans (List.perm_append_comm.append_left _) ?_
    rw [← List.append_assoc]
    exact sound.state.identifiers
  have once := identifiers.nodup_iff.mpr List.nodup_range
  obtain ⟨takenOnce, pendingOnce, apart⟩ := List.nodup_append'.mp once
  refine ⟨sound.state.kindsSize, sound.taken, takenOnce, pendingOnce, ?_, ?_⟩
  · intro id member
    refine ⟨List.mem_range.mp (identifiers.mem_iff.mp (List.mem_append_right _ member)), ?_⟩
    exact fun earlier => apart earlier member
  · intro id item found
    have placed := identifiers.mem_iff.mpr (List.mem_range.mpr (Numbering.get?_lt_size found))
    rw [sound.taken, List.mem_append, List.mem_append] at placed
    rcases placed with (busy | expanded) | pending
    · exact .inr (.inl busy)
    · obtain ⟨other, kind, same, settled, explains⟩ := sound.state.explained id expanded
      cases found.symm.trans same
      exact .inr (.inr ⟨expanded, ⟨kind, settled, explains⟩, fun _ => exists_child explains⟩)
    · exact .inl pending

end Moment

/-! ## The number of turns -/

/-- A run that ends needs one turn for each node that it expands. -/
theorem exists_exact_run? (finished : chart.Finished) {steps : Nat} {state final : Extraction}
    (sound : state.Sound chart []) (ran : run? chart steps state = some final) :
    ∃ turns, turns ≤ steps ∧ turns + state.expanded.length = final.expanded.length ∧
      run? chart turns state = some final := by
  induction ran using run?_induction with
  | ended _ ended => exact ⟨0, Nat.zero_le _, Nat.zero_add _, run?_of_ended ended 0⟩
  | @turn steps id items kinds pending expanded next _ _ stepped induction =>
      have busy : Sound chart [id] ⟨items, kinds, pending, expanded⟩ :=
        { sound with identifiers := sound.identifiers }
      obtain ⟨other, otherStepped, nextSound, _, grown⟩ := expand?_spec finished busy
      cases stepped.symm.trans otherStepped
      obtain ⟨turns, few, count, exactly⟩ := induction nextSound
      refine ⟨turns + 1, Nat.succ_le_succ few, ?_, ?_⟩
      · rw [← count, grown, List.length_cons, Nat.add_assoc, Nat.add_comm 1]
      · rw [run?, stepped]
        exact exactly

theorem isSome_run?_iff (finished : chart.Finished) {steps : Nat} {state final : Extraction}
    (sound : state.Sound chart []) (ran : run? chart steps state = some final) (turns : Nat) :
    (run? chart turns state).isSome ↔
      final.expanded.length ≤ turns + state.expanded.length := by
  constructor
  · intro ends
    obtain ⟨other, otherRan⟩ := Option.isSome_iff_exists.mp ends
    have same := run?_add otherRan steps
    rw [Nat.add_comm, run?_add ran turns] at same
    cases same
    obtain ⟨exact, few, count, _⟩ := exists_exact_run? finished sound otherRan
    omega
  · intro enough
    obtain ⟨exact, _, count, exactRan⟩ := exists_exact_run? finished sound ran
    obtain ⟨spare, rfl⟩ := Nat.exists_eq_add_of_le (show exact ≤ turns by omega)
    rw [run?_add exactRan spare]
    rfl

/-- The loop that starts with an accepted nonterminal comes to an end, when it has taken
off each node and has made a turn for each. -/
theorem exists_end (finished : chart.Finished) (accepted : chart.accepts start = true) :
    ∃ final, Leads chart (.begin chart start) final ∧ final.turn = none ∧
      final.state.pending = [] ∧
      Forest.extract? chart start = some final.state.toForest ∧
      final.taken.Perm (List.range final.state.items.size) ∧
      ∀ turns, (run? chart turns (begin chart start)).isSome ↔ final.state.items.size ≤ turns := by
  have member := Chart.accepts_iff.mp accepted
  have begun := Moment.sound_begin member
  obtain ⟨state, ran, sound⟩ := exists_run_begin finished accepted
  obtain ⟨ended, taken, leads⟩ := leads_run? ran []
  have identifiers := sound.identifiers
  rw [ended] at identifiers
  have count : state.expanded.length = state.items.size :=
    identifiers.length_eq.trans List.length_range
  have nothing : (begin chart start).expanded = [] := begun.taken.symm
  refine ⟨⟨taken, none, state⟩, leads, rfl, ended, ?_, ?_, ?_⟩
  · exact Forest.extract?_of_run? accepted ran
  · have same : taken = state.expanded := (sound_of_leads leads begun).taken
    rwa [same]
  · intro turns
    rw [isSome_run?_iff finished (Extraction.sound_begin member) ran, nothing, count]
    rfl

end Extraction

/-! ## The number of nodes -/

namespace Chart

theorem two_mul_length_spans (chart : Chart) :
    2 * chart.spans.length = chart.size * (chart.size + 1) := by
  have rows : ∀ size, 2 * ((List.range size).map (size - ·)).sum = size * (size + 1) := by
    intro size
    induction size with
    | zero => rfl
    | succ size induction =>
        have later : (List.range size).map ((size + 1 - ·) ∘ Nat.succ) =
            (List.range size).map (size - ·) :=
          List.map_congr_left fun start _ => Nat.succ_sub_succ size start
        rw [List.range_succ_eq_map, List.map_cons, List.map_map, later, List.sum_cons, Nat.mul_add,
          induction, Nat.sub_zero, ← Nat.add_mul, Nat.add_comm 2, Nat.mul_comm]
  rw [spans, List.length_flatMap, ← rows chart.size]
  simp only [List.length_map, List.length_range']

theorem memberCount_le {chart : Chart} {bound : Nat}
    (few : ∀ span, (chart.cell span).size ≤ bound) (spans : List Span) :
    chart.memberCount spans ≤ bound * spans.length := by
  induction spans with
  | nil => exact Nat.zero_le _
  | cons span rest induction =>
      rw [List.length_cons, Nat.mul_succ, Nat.add_comm]
      exact Nat.add_le_add (few span) induction

theorem size_cell_fill_le {grammar : Grammar} (formed : grammar.WellFormed)
    (symbols : Array String) (separator : String) (span : Span) :
    ((fill grammar symbols separator).cell span).size ≤ grammar.nonterminalBound :=
  NonterminalSet.size_le fun _ member => (productive_of_mem_cell formed member).named formed

theorem memberCount_fill_le {grammar : Grammar} (formed : grammar.WellFormed)
    (symbols : Array String) (separator : String) :
    (fill grammar symbols separator).memberCount (fill grammar symbols separator).spans ≤
      grammar.nonterminalBound * symbols.size * (symbols.size + 1) / 2 := by
  have few := memberCount_le (size_cell_fill_le formed symbols separator)
    (fill grammar symbols separator).spans
  have spans := two_mul_length_spans (fill grammar symbols separator)
  rw [size_fill] at spans
  rw [Nat.le_div_iff_mul_le Nat.two_pos, Nat.mul_assoc, ← spans, Nat.mul_comm 2, ← Nat.mul_assoc]
  exact Nat.mul_le_mul_right 2 few

end Chart

/-! ## The whole loop -/

namespace Forest

/-- While the forest of an accepted nonterminal is extracted, there is a kind for each
item at every moment, also within a turn.  No node is on the stack twice or after it has
been taken off.  Every node is on the stack, or being expanded, or expanded with nodes
for all of its children.  From every moment the loop comes to its end, and then it has
taken off each node once.  It needs just one turn for each node, and there are at most
as many nodes as nonterminals for each span. -/
theorem each_node_is_taken_once {grammar : Grammar} (reachable : grammar.Reachable)
    (symbols : Array String) (separator : String) (start : Nonterminal)
    (accepted : (Chart.fill grammar symbols separator).accepts start = true) :
    ∃ forest final,
      extract? (Chart.fill grammar symbols separator) start = some forest ∧
      final.state.toForest = forest ∧ final.turn = none ∧ final.state.pending = [] ∧
      (∀ moment, Extraction.Leads (Chart.fill grammar symbols separator)
          (.begin (Chart.fill grammar symbols separator) start) moment →
        moment.Orderly (Chart.fill grammar symbols separator) ∧
          Extraction.Leads (Chart.fill grammar symbols separator) moment final) ∧
      final.taken.Perm (List.range forest.size) ∧
      (∀ turns, (Extraction.run? (Chart.fill grammar symbols separator) turns
          (.begin (Chart.fill grammar symbols separator) start)).isSome ↔ forest.size ≤ turns) ∧
      forest.size ≤ grammar.nonterminalBound * symbols.size * (symbols.size + 1) / 2 := by
  have formed := reachable.wellFormed
  have begun := Extraction.Moment.sound_begin (Chart.accepts_iff.mp accepted)
  obtain ⟨final, whole, idle, ended, extracted, taken, turns⟩ :=
    Extraction.exists_end Chart.finished_fill accepted
  refine ⟨final.state.toForest, final, extracted, rfl, idle, ended, ?_, taken, turns, ?_⟩
  · intro moment leads
    exact ⟨(Extraction.sound_of_leads leads begun).orderly,
      Extraction.leads_end idle ended whole leads⟩
  · have sound := (Extraction.sound_of_leads whole begun).state
    exact sound.size_le.trans (Chart.memberCount_fill_le formed symbols separator)

/-- Three letters have six nodes, which is as many as there can be: the grammar has one
nonterminal, and there are six spans. -/
theorem each_node_is_taken_once_sample :
    Construction.sample.Reachable ∧
      (Chart.fill Construction.sample #["a", "a", "a"] " ").accepts ⟨0⟩ = true ∧
      ∃ forest final,
        extract? (Chart.fill Construction.sample #["a", "a", "a"] " ") ⟨0⟩ = some forest ∧
        final.state.toForest = forest ∧ forest.size = 6 ∧
        Construction.sample.nonterminalBound * 3 * (3 + 1) / 2 = 6 ∧
        Extraction.Leads (Chart.fill Construction.sample #["a", "a", "a"] " ")
          (.begin (Chart.fill Construction.sample #["a", "a", "a"] " ") ⟨0⟩) final ∧
        final.Orderly (Chart.fill Construction.sample #["a", "a", "a"] " ") ∧
        final.taken.Perm [0, 1, 2, 3, 4, 5] ∧
        Extraction.run? (Chart.fill Construction.sample #["a", "a", "a"] " ") 5
          (.begin (Chart.fill Construction.sample #["a", "a", "a"] " ") ⟨0⟩) = none := by
  have reachable := Construction.reachable_sample
  have accepted : (Chart.fill Construction.sample #["a", "a", "a"] " ").accepts ⟨0⟩ = true := by
    decide +kernel
  have count : (extract? (Chart.fill Construction.sample #["a", "a", "a"] " ") ⟨0⟩).map
      Forest.size = some 6 := by decide +kernel
  obtain ⟨forest, final, extracted, same, _, _, moments, taken, turns, _⟩ :=
    each_node_is_taken_once reachable #["a", "a", "a"] " " ⟨0⟩ accepted
  rw [extracted, Option.map_some, Option.some.injEq] at count
  have whole := (moments _ .refl).2
  refine ⟨reachable, accepted, forest, final, extracted, same, count, by decide +kernel, whole,
    (moments final whole).1, ?_, ?_⟩
  · rw [count] at taken
    exact taken
  · have short := (turns 5).not.mpr (by omega)
    exact Option.not_isSome_iff_eq_none.mp short

end Forest

end ChartParsing
