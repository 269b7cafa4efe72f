import Mathlib.Data.List.Forall2
import Mathlib.Data.List.Perm.Subperm
import ChartParsing.Forest.Extraction
import ChartParsing.Proofs.Chart.Membership

/-!
# The extraction loop

While a forest is extracted, every identifier is pending or expanded, and never
twice.  Expanded nodes are explained for good, since identifiers keep their items
however many items join later.  Only members of cells are ever mentioned, which
bounds the number of expansions, so the loop ends with every node explained.
-/

namespace ChartParsing

theorem Chart.mem_pairingsOf {chart : Chart} {item : Item} {pairing : Pairing} :
    pairing ∈ chart.pairingsOf item ↔
      pairing ∈ chart.pairings item.span ∧
        item.nonterminal ∈ chart.grammar.lhsForPair pairing.left pairing.right := by
  rw [pairingsOf, List.mem_filter, NonterminalSet.contains_iff]

/-- The two items that a pairing over a span stands for. -/
def Pairing.items (pairing : Pairing) (span : Span) : Item × Item :=
  (⟨pairing.left, (span.cut pairing.split).1⟩, ⟨pairing.right, (span.cut pairing.split).2⟩)

/-- A derivation mentions the two items of a pairing by their identifiers. -/
structure Derivation.Denotes (items : Numbering Item) (span : Span) (pairing : Pairing)
    (derivation : Derivation) : Prop where
  split : derivation.split = pairing.split
  left : items.get? derivation.left = some (pairing.items span).1
  right : items.get? derivation.right = some (pairing.items span).2

/-- A kind gives the terminal of a single position, and otherwise all
pairings in order. -/
inductive NodeKind.Explains (chart : Chart) (items : Numbering Item) (item : Item) :
    NodeKind → Prop where
  | leaf {letter : Terminal} : item.span.length = 1 →
      chart.terminal? item.span.start = some letter → Explains chart items item (.leaf letter)
  | branch {derivations : List Derivation} : item.span.length ≠ 1 →
      List.Forall₂ (Derivation.Denotes items item.span) (chart.pairingsOf item) derivations →
      Explains chart items item (.branch derivations)

/-- Identifiers keep their items. -/
def Numbering.Includes (after before : Numbering Item) : Prop :=
  ∀ {id : Nat} {item : Item}, before.get? id = some item → after.get? id = some item

theorem Derivation.Denotes.mono {before after : Numbering Item} (includes : after.Includes before)
    {span : Span} {pairing : Pairing} {derivation : Derivation}
    (denotes : derivation.Denotes before span pairing) :
    derivation.Denotes after span pairing :=
  ⟨denotes.split, includes denotes.left, includes denotes.right⟩

theorem NodeKind.Explains.mono {chart : Chart} {before after : Numbering Item}
    (includes : after.Includes before) {item : Item} {kind : NodeKind}
    (explains : kind.Explains chart before item) : kind.Explains chart after item := by
  cases explains with
  | leaf single letter => exact .leaf single letter
  | branch long denoted =>
      exact .branch long (denoted.imp fun _ _ denotes => denotes.mono includes)

namespace Extraction

/-- What holds between expansions.  The identifiers in `busy` are taken off the stack
and not yet expanded. -/
structure Sound (chart : Chart) (busy : List Nat) (state : Extraction) : Prop where
  distinct : state.items.Distinct
  kindsSize : state.kinds.size = state.items.size
  members : ∀ item ∈ state.items.toList, item.nonterminal ∈ chart.cell item.span
  identifiers : (busy ++ state.pending ++ state.expanded).Perm (List.range state.items.size)
  explained : ∀ id ∈ state.expanded, ∃ item kind, state.items.get? id = some item ∧
    state.kinds[id]? = some kind ∧ kind.Explains chart state.items item

/-- Mentioning items changes nothing about the nodes there are. -/
structure Keeps (before after : Extraction) : Prop where
  items : after.items.Includes before.items
  kinds : ∀ id, id < before.items.size → after.kinds[id]? = before.kinds[id]?
  expanded : after.expanded = before.expanded

theorem Keeps.refl (state : Extraction) : Keeps state state :=
  ⟨fun found => found, fun _ _ => rfl, rfl⟩

theorem Keeps.trans {first second third : Extraction} (lower : Keeps first second)
    (upper : Keeps second third) : Keeps first third := by
  refine ⟨fun found => upper.items (lower.items found), ?_, upper.expanded.trans lower.expanded⟩
  intro id inside
  obtain ⟨item, found⟩ := Numbering.exists_get? inside
  rw [upper.kinds id (Numbering.get?_lt_size (lower.items found)), lower.kinds id inside]

variable {chart : Chart}

/-! ## Mentioning -/

theorem sound_empty (chart : Chart) (room : Nat) : Sound chart [] (empty room) where
  distinct := Numbering.distinct_empty room
  kindsSize := rfl
  members _ member := absurd member List.not_mem_nil
  identifiers := .refl []
  explained _ member := absurd member List.not_mem_nil

theorem mention_of_position? {state : Extraction} {item : Item} {id : Nat}
    (found : state.items.position? item = some id) : state.mention item = (id, state) := by
  rw [mention, found]

theorem mention_of_fresh {state : Extraction} {item : Item}
    (fresh : state.items.position? item = none) :
    state.mention item =
      (state.items.size,
        { state with
          items := state.items.append item fresh
          kinds := state.kinds.push (.branch [])
          pending := state.items.size :: state.pending }) := by
  rw [mention, fresh, Numbering.insert_of_position?_eq_none fresh]

theorem includes_append {items : Numbering Item} {item : Item}
    (fresh : items.position? item = none) : (items.append item fresh).Includes items := by
  intro id other found
  rw [Numbering.get?_append, if_neg (Nat.ne_of_lt (Numbering.get?_lt_size found))]
  exact found

theorem Sound.append {busy : List Nat} {state : Extraction} (sound : Sound chart busy state)
    {item : Item} (member : item.nonterminal ∈ chart.cell item.span)
    (fresh : state.items.position? item = none) :
    Sound chart busy
      { state with
        items := state.items.append item fresh
        kinds := state.kinds.push (.branch [])
        pending := state.items.size :: state.pending } where
  distinct := Numbering.distinct_append fresh sound.distinct
  kindsSize := by
    rw [Array.size_push, Numbering.size_append, sound.kindsSize]
  members other inside := by
    rw [Numbering.toList_append, List.mem_append, List.mem_singleton] at inside
    rcases inside with old | rfl
    · exact sound.members other old
    · exact member
  identifiers := by
    have moved : (busy ++ state.items.size :: state.pending ++ state.expanded).Perm
        (state.items.size :: (busy ++ state.pending ++ state.expanded)) := by
      rw [List.append_assoc, List.append_assoc, List.cons_append]
      exact List.perm_middle
    rw [Numbering.size_append, List.range_succ]
    exact moved.trans ((sound.identifiers.cons _).trans (List.perm_append_singleton ..).symm)
  explained id expanded := by
    obtain ⟨other, kind, found, settled, explains⟩ := sound.explained id expanded
    have inside : id < state.kinds.size := sound.kindsSize ▸ Numbering.get?_lt_size found
    refine ⟨other, kind, includes_append fresh found, ?_, explains.mono (includes_append fresh)⟩
    rw [Array.getElem?_push, if_neg (Nat.ne_of_lt inside)]
    exact settled

theorem keeps_append {state : Extraction} {item : Item}
    (kindsSize : state.kinds.size = state.items.size)
    (fresh : state.items.position? item = none) :
    Keeps state
      { state with
        items := state.items.append item fresh
        kinds := state.kinds.push (.branch [])
        pending := state.items.size :: state.pending } := by
  refine ⟨includes_append fresh, ?_, rfl⟩
  intro id inside
  rw [Array.getElem?_push, if_neg (Nat.ne_of_lt (kindsSize ▸ inside))]

theorem mention_spec {busy : List Nat} {state : Extraction} (item : Item)
    (sound : Sound chart busy state) (member : item.nonterminal ∈ chart.cell item.span) :
    Sound chart busy (state.mention item).2 ∧ Keeps state (state.mention item).2 ∧
      (state.mention item).2.items.get? (state.mention item).1 = some item := by
  cases found : state.items.position? item with
  | some id =>
      rw [mention_of_position? found]
      exact ⟨sound, .refl state, Numbering.get?_of_position? found⟩
  | none =>
      rw [mention_of_fresh found]
      refine ⟨sound.append member found, keeps_append sound.kindsSize found, ?_⟩
      rw [Numbering.get?_append, if_pos rfl]

theorem mentionAll_spec {busy : List Nat} (span : Span) {pairings : List Pairing}
    {state : Extraction} (sound : Sound chart busy state)
    (members : ∀ pairing ∈ pairings, pairing ∈ chart.pairings span) :
    Sound chart busy (mentionAll span pairings state).2 ∧
      Keeps state (mentionAll span pairings state).2 ∧
      List.Forall₂ (Derivation.Denotes (mentionAll span pairings state).2.items span) pairings
        (mentionAll span pairings state).1 := by
  induction pairings generalizing state with
  | nil => exact ⟨sound, .refl state, .nil⟩
  | cons pairing rest induction =>
      obtain ⟨_, _, leftMember, rightMember⟩ :=
        Chart.mem_pairings.mp (members pairing List.mem_cons_self)
      obtain ⟨leftSound, leftKeeps, leftFound⟩ :=
        mention_spec (pairing.items span).1 sound leftMember
      obtain ⟨rightSound, rightKeeps, rightFound⟩ :=
        mention_spec (pairing.items span).2 leftSound rightMember
      obtain ⟨laterSound, laterKeeps, denoted⟩ :=
        induction rightSound fun other later => members other (List.mem_cons_of_mem _ later)
      refine ⟨laterSound, (leftKeeps.trans rightKeeps).trans laterKeeps, ?_⟩
      refine .cons ⟨rfl, ?_, ?_⟩ denoted
      · exact laterKeeps.items (rightKeeps.items leftFound)
      · exact laterKeeps.items rightFound

/-! ## Expanding -/

theorem Sound.nodup {busy : List Nat} {state : Extraction} (sound : Sound chart busy state) :
    (busy ++ state.pending ++ state.expanded).Nodup :=
  sound.identifiers.nodup_iff.mpr List.nodup_range

theorem Sound.settle {id : Nat} {state : Extraction} (sound : Sound chart [id] state)
    {item : Item} {kind : NodeKind} (found : state.items.get? id = some item)
    (explains : kind.Explains chart state.items item) :
    Sound chart [] (state.settle id kind) where
  distinct := sound.distinct
  kindsSize := Array.size_setIfInBounds.trans sound.kindsSize
  members := sound.members
  identifiers := List.perm_middle.trans sound.identifiers
  explained other expanded := by
    have inside : id < state.kinds.size := sound.kindsSize ▸ Numbering.get?_lt_size found
    rcases List.mem_cons.mp expanded with rfl | earlier
    · refine ⟨item, kind, found, ?_, explains⟩
      simp [Extraction.settle, inside]
    · obtain ⟨known, settled, knownFound, knownSettled, knownExplains⟩ :=
        sound.explained other earlier
      have apart : id ≠ other := by
        intro same
        subst same
        have separate := (List.nodup_cons.mp sound.nodup).1
        exact separate (List.mem_append_right _ earlier)
      refine ⟨known, settled, knownFound, ?_, knownExplains⟩
      rw [Extraction.settle, Array.getElem?_setIfInBounds, if_neg apart]
      exact knownSettled

theorem exists_terminal? (finished : chart.Finished) {item : Item}
    (member : item.nonterminal ∈ chart.cell item.span) (single : item.span.length = 1) :
    ∃ letter, chart.terminal? item.span.start = some letter := by
  rw [finished item.span (Chart.within_of_mem_cell member), Chart.derived, if_pos single] at member
  obtain ⟨letter, found, _⟩ := Chart.mem_deriveLeaf.mp member
  exact ⟨letter, found⟩

/-- Expanding a pending node succeeds and explains it. -/
theorem expand?_spec (finished : chart.Finished) {id : Nat} {state : Extraction}
    (sound : Sound chart [id] state) :
    ∃ after, expand? chart id state = some after ∧ Sound chart [] after ∧
      after.items.Includes state.items ∧ after.expanded = id :: state.expanded := by
  have inside : id < state.items.size :=
    List.mem_range.mp (sound.identifiers.mem_iff.mp List.mem_cons_self)
  obtain ⟨item, found⟩ := Numbering.exists_get? inside
  have listed : item ∈ state.items.toList :=
    List.mem_of_getElem? (state.items.get?_eq_getElem? id ▸ found)
  have member := sound.members item listed
  by_cases single : item.span.length = 1
  · obtain ⟨letter, terminal⟩ := exists_terminal? finished member single
    refine ⟨state.settle id (.leaf letter), ?_, sound.settle found (.leaf single terminal),
      fun known => known, rfl⟩
    simp [expand?, found, single, terminal]
  · obtain ⟨laterSound, keeps, denoted⟩ := mentionAll_spec item.span sound
      fun pairing paired => (Chart.mem_pairingsOf.mp paired).1
    refine ⟨_, ?_, laterSound.settle (keeps.items found) (.branch single denoted), keeps.items,
      congrArg (id :: ·) keeps.expanded⟩
    simp [expand?, found, single]

/-! ## The whole loop -/

/-- The members of all cells of some spans. -/
def cellItems (chart : Chart) (spans : List Span) : List Item :=
  spans.flatMap fun span => (chart.cell span).toList.map fun member => ⟨member, span⟩

theorem length_cellItems (chart : Chart) (spans : List Span) :
    (cellItems chart spans).length = chart.memberCount spans := by
  induction spans with
  | nil => rfl
  | cons span rest induction =>
      rw [cellItems, List.flatMap_cons, List.length_append, List.length_map]
      exact congrArg ((chart.cell span).size + ·) induction

theorem Sound.size_le {busy : List Nat} {state : Extraction} (sound : Sound chart busy state) :
    state.items.size ≤ chart.memberCount chart.spans := by
  rw [← Numbering.length_toList, ← length_cellItems]
  apply List.Nodup.length_le_of_subset sound.distinct
  intro item listed
  have member := sound.members item listed
  refine List.mem_flatMap.mpr
    ⟨item.span, Chart.mem_spans.mpr (Chart.within_of_mem_cell member), ?_⟩
  exact List.mem_map.mpr ⟨item.nonterminal, member, rfl⟩

theorem Sound.pending_add_expanded {busy : List Nat} {state : Extraction}
    (sound : Sound chart busy state) :
    busy.length + state.pending.length + state.expanded.length = state.items.size := by
  have lengths := sound.identifiers.length_eq
  rwa [List.length_append, List.length_append, List.length_range] at lengths

theorem run?_of_ended {state : Extraction} (ended : state.pending = []) (steps : Nat) :
    run? chart steps state = some state := by
  rcases state with ⟨items, kinds, pending, expanded⟩
  cases ended
  cases steps <;> rfl

/-- A run that ends has nothing pending, or expands one node and goes on. -/
@[elab_as_elim]
theorem run?_induction {final : Extraction}
    {motive : ∀ steps state, run? chart steps state = some final → Prop}
    (ended : ∀ {steps : Nat} (ran : run? chart steps final = some final), final.pending = [] →
      motive steps final ran)
    (turn : ∀ {steps id : Nat} {items : Numbering Item} {kinds : Array NodeKind}
      {pending expanded : List Nat} {next : Extraction}
      (ran : run? chart (steps + 1) ⟨items, kinds, id :: pending, expanded⟩ = some final)
      (later : run? chart steps next = some final),
      expand? chart id ⟨items, kinds, pending, expanded⟩ = some next →
      motive steps next later → motive (steps + 1) ⟨items, kinds, id :: pending, expanded⟩ ran)
    {steps : Nat} {state : Extraction} (ran : run? chart steps state = some final) :
    motive steps state ran := by
  induction steps generalizing state with
  | zero =>
      rcases state with ⟨items, kinds, pending, expanded⟩
      cases pending with
      | nil =>
          cases Option.some.inj ran
          exact ended ran rfl
      | cons id pending => cases ran
  | succ steps induction =>
      rcases state with ⟨items, kinds, pending, expanded⟩
      cases pending with
      | nil =>
          cases Option.some.inj ran
          exact ended ran rfl
      | cons id pending =>
          obtain ⟨next, stepped, later⟩ := Option.bind_eq_some_iff.mp ran
          exact turn ran later stepped (induction later)

/-- Each expansion uses up one of the members of all cells. -/
theorem run?_spec (finished : chart.Finished) {steps : Nat} {state : Extraction}
    (sound : Sound chart [] state)
    (enough : chart.memberCount chart.spans ≤ steps + state.expanded.length) :
    ∃ final, run? chart steps state = some final ∧ Sound chart [] final ∧ final.pending = [] ∧
      final.items.Includes state.items := by
  induction steps generalizing state with
  | zero =>
      rcases state with ⟨items, kinds, pending, expanded⟩
      cases pending with
      | nil => exact ⟨_, rfl, sound, rfl, fun known => known⟩
      | cons id pending =>
          have bound := sound.size_le
          have total := sound.pending_add_expanded
          simp only [List.length_cons, List.length_nil] at bound total enough
          omega
  | succ steps induction =>
      rcases state with ⟨items, kinds, pending, expanded⟩
      cases pending with
      | nil => exact ⟨_, rfl, sound, rfl, fun known => known⟩
      | cons id pending =>
          have busy : Sound chart [id] ⟨items, kinds, pending, expanded⟩ :=
            { sound with identifiers := sound.identifiers }
          obtain ⟨after, success, afterSound, includes, grown⟩ := expand?_spec finished busy
          have remaining : chart.memberCount chart.spans ≤ steps + after.expanded.length := by
            rw [grown, List.length_cons]
            simp only at enough ⊢
            omega
          obtain ⟨final, ran, finalSound, ended, finalIncludes⟩ := induction afterSound remaining
          refine ⟨final, ?_, finalSound, ended, fun known => finalIncludes (includes known)⟩
          rw [run?, success]
          exact ran

end Extraction

namespace Forest

/-- A forest in which the root stands for a nonterminal over the whole input, and every
node is explained by the chart. -/
structure Explained (chart : Chart) (start : Nonterminal) (forest : Forest) : Prop where
  distinct : forest.items.Distinct
  root : forest.items.get? forest.root = some ⟨start, chart.span⟩
  members : ∀ {id : Nat} {item : Item}, forest.items.get? id = some item →
    item.nonterminal ∈ chart.cell item.span
  kinds : ∀ {id : Nat} {item : Item}, forest.items.get? id = some item →
    ∃ kind, forest.kinds[id]? = some kind ∧ kind.Explains chart forest.items item

theorem explained_of_sound {chart : Chart} {start : Nonterminal} {final : Extraction}
    (sound : final.Sound chart []) (ended : final.pending = [])
    (root : final.items.get? 0 = some ⟨start, chart.span⟩) :
    final.toForest.Explained chart start where
  distinct := sound.distinct
  root := root
  members found :=
    sound.members _ (List.mem_of_getElem? (final.items.get?_eq_getElem? _ ▸ found))
  kinds := by
    intro id item found
    have identifiers := sound.identifiers
    rw [ended] at identifiers
    have expanded : id ∈ final.expanded :=
      identifiers.mem_iff.mpr (List.mem_range.mpr (Numbering.get?_lt_size found))
    obtain ⟨other, kind, same, settled, explains⟩ := sound.explained id expanded
    cases found.symm.trans same
    exact ⟨kind, settled, explains⟩

theorem extract?_of_not_accepts {chart : Chart} {start : Nonterminal}
    (rejected : chart.accepts start = false) : extract? chart start = none := by
  rw [extract?, rejected]
  rfl

theorem extract?_of_run? {chart : Chart} {start : Nonterminal} {final : Extraction}
    (accepted : chart.accepts start = true)
    (ran : Extraction.run? chart (chart.memberCount chart.spans)
      ((Extraction.empty chart.cells.size).mention ⟨start, chart.span⟩).2 = some final) :
    extract? chart start = some final.toForest := by
  rw [extract?, accepted]
  exact congrArg (Option.bind · fun state => some state.toForest) ran

theorem extract?_of_accepts {chart : Chart} (finished : chart.Finished) {start : Nonterminal}
    (accepted : chart.accepts start = true) :
    ∃ forest, extract? chart start = some forest ∧ forest.Explained chart start := by
  have member : start ∈ chart.cell chart.span := Chart.accepts_iff.mp accepted
  obtain ⟨begunSound, _, begunRoot⟩ :=
    Extraction.mention_spec ⟨start, chart.span⟩
      (Extraction.sound_empty chart chart.cells.size) member
  have enough : chart.memberCount chart.spans ≤ chart.memberCount chart.spans +
      ((Extraction.empty chart.cells.size).mention ⟨start, chart.span⟩).2.expanded.length :=
    Nat.le_add_right ..
  obtain ⟨final, ran, finalSound, ended, includes⟩ :=
    Extraction.run?_spec finished begunSound enough
  have first : ((Extraction.empty chart.cells.size).mention ⟨start, chart.span⟩).1 = 0 := by
    rw [Extraction.mention_of_fresh (Numbering.position?_eq_none_iff.mpr List.not_mem_nil)]
    rfl
  rw [first] at begunRoot
  exact ⟨final.toForest, extract?_of_run? accepted ran,
    explained_of_sound finalSound ended (includes begunRoot)⟩

theorem isSome_extract?_iff {chart : Chart} (finished : chart.Finished) {start : Nonterminal} :
    (extract? chart start).isSome ↔ chart.accepts start = true := by
  cases accepted : chart.accepts start with
  | true =>
      obtain ⟨forest, extracted, _⟩ := extract?_of_accepts finished accepted
      simp [extracted]
  | false => simp [extract?_of_not_accepts accepted]

theorem explained_of_extract? {chart : Chart} (finished : chart.Finished) {start : Nonterminal}
    {forest : Forest} (extracted : extract? chart start = some forest) :
    forest.Explained chart start := by
  have accepted := (isSome_extract?_iff finished).mp (Option.isSome_of_eq_some extracted)
  obtain ⟨other, found, explained⟩ := extract?_of_accepts finished accepted
  cases extracted.symm.trans found
  exact explained

end Forest

end ChartParsing
