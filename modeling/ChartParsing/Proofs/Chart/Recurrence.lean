import ChartParsing.Chart.Fill

/-!
# The recurrence of a filled chart

Filling stores one tier of cells after the other.  A stored tier neither touches
the cells of other lengths nor what they were derived from, so in the end every
cell holds what its rule derives from the finished chart: from the terminal at a
single position, and from all pairs of shorter cells otherwise.
-/

namespace ChartParsing

namespace Span

/-- A span covers at least one position, and none beyond an input of a given size. -/
structure Within (span : Span) (size : Nat) : Prop where
  positive : 0 < span.length
  inside : span.stop ≤ size

theorem Within.cut_left {span : Span} {size offset : Nat} (within : span.Within size)
    (positive : 0 < offset) (shorter : offset < span.length) :
    (span.cut offset).1.Within size := by
  have inside := within.inside
  simp only [stop] at inside
  exact ⟨positive, by simp only [cut, stop]; omega⟩

theorem Within.cut_right {span : Span} {size offset : Nat} (within : span.Within size)
    (shorter : offset < span.length) : (span.cut offset).2.Within size := by
  refine ⟨Nat.sub_pos_of_lt shorter, ?_⟩
  rw [stop_cut_right (Nat.le_of_lt shorter)]
  exact within.inside

theorem Within.length_le {span : Span} {size : Nat} (within : span.Within size) :
    span.length ≤ size :=
  Nat.le_trans (Nat.le_add_left ..) within.inside

theorem Within.start_lt {span : Span} {size : Nat} (within : span.Within size) :
    span.start < size := by
  have inside := within.inside
  have positive := within.positive
  simp only [stop] at inside
  omega

end Span

namespace Chart

/-! ## Slots -/

theorem slot_injective {size : Nat} {left right : Span} (leftWithin : left.Within size)
    (rightWithin : right.Within size) (same : slot size left = slot size right) :
    left = right := by
  have leftShort := Nat.lt_succ_of_le leftWithin.length_le
  have rightShort := Nat.lt_succ_of_le rightWithin.length_le
  have lengths : left.length = right.length := by
    have remainders := congrArg (· % (size + 1)) same
    simpa [slot, Nat.mul_add_mod', Nat.mod_eq_of_lt leftShort,
      Nat.mod_eq_of_lt rightShort] using remainders
  have starts : left.start = right.start := by
    simp only [slot, lengths, Nat.add_right_cancel_iff] at same
    exact Nat.eq_of_mul_eq_mul_right (Nat.succ_pos size) same
  cases left
  cases right
  cases starts
  cases lengths
  rfl

theorem slot_lt {size : Nat} {span : Span} (within : span.Within size) :
    slot size span < size * (size + 1) := by
  have short := Nat.lt_succ_of_le within.length_le
  calc
    slot size span < span.start * (size + 1) + (size + 1) := Nat.add_lt_add_left short _
    _ = (span.start + 1) * (size + 1) := (Nat.succ_mul ..).symm
    _ ≤ size * (size + 1) := Nat.mul_le_mul_right _ within.start_lt

theorem cell_eq_getD {chart : Chart} {span : Span} (within : span.Within chart.size) :
    chart.cell span = chart.cells.getD (slot chart.size span) .empty := by
  have nonempty := Nat.ne_of_gt within.positive
  have inside := Nat.not_lt.mpr within.inside
  rw [cell, if_neg (not_or.mpr ⟨nonempty, inside⟩)]

theorem cell_of_not_within {chart : Chart} {span : Span} (outside : ¬span.Within chart.size) :
    chart.cell span = .empty := by
  unfold cell
  split
  · rfl
  · next apart =>
      obtain ⟨nonempty, inside⟩ := not_or.mp apart
      exact absurd ⟨Nat.pos_of_ne_zero nonempty, Nat.not_lt.mp inside⟩ outside

theorem within_of_mem_cell {chart : Chart} {span : Span} {nonterminal : Nonterminal}
    (member : nonterminal ∈ chart.cell span) : span.Within chart.size := by
  apply Classical.byContradiction
  intro outside
  rw [cell_of_not_within outside] at member
  exact NonterminalSet.not_mem_empty _ member

/-! ## Storing -/

/-- Two charts of one input, which may differ in what their slots hold. -/
structure SameInput (before after : Chart) : Prop where
  grammar : after.grammar = before.grammar
  symbols : after.symbols = before.symbols
  separator : after.separator = before.separator
  terminals : after.terminals = before.terminals
  room : after.cells.size = before.cells.size

theorem SameInput.refl (chart : Chart) : SameInput chart chart :=
  ⟨rfl, rfl, rfl, rfl, rfl⟩

theorem SameInput.trans {first second third : Chart} (lower : SameInput first second)
    (upper : SameInput second third) : SameInput first third :=
  ⟨upper.grammar.trans lower.grammar, upper.symbols.trans lower.symbols,
    upper.separator.trans lower.separator, upper.terminals.trans lower.terminals,
    upper.room.trans lower.room⟩

theorem SameInput.size {before after : Chart} (same : SameInput before after) :
    after.size = before.size :=
  congrArg Array.size same.symbols

theorem sameInput_store (chart : Chart) (span : Span) (set : NonterminalSet) :
    SameInput chart (chart.store span set) :=
  ⟨rfl, rfl, rfl, rfl, Array.size_setIfInBounds ..⟩

theorem sameInput_storeAll (chart : Chart) (sets : List (Span × NonterminalSet)) :
    SameInput chart (chart.storeAll sets) := by
  induction sets generalizing chart with
  | nil => exact .refl chart
  | cons entry rest induction =>
      exact (sameInput_store chart entry.1 entry.2).trans (induction _)

/-- There is a slot for every span of the input. -/
def HasRoom (chart : Chart) : Prop :=
  chart.cells.size = chart.size * (chart.size + 1)

theorem HasRoom.of_sameInput {before after : Chart} (room : before.HasRoom)
    (same : SameInput before after) : after.HasRoom := by
  rw [HasRoom, same.room, same.size]
  exact room

theorem HasRoom.slot_lt {chart : Chart} (room : chart.HasRoom) {span : Span}
    (within : span.Within chart.size) : slot chart.size span < chart.cells.size :=
  room ▸ Chart.slot_lt within

theorem hasRoom_blank (grammar : Grammar) (symbols : Array String) (separator : String) :
    (blank grammar symbols separator).HasRoom :=
  Array.size_replicate

theorem cell_store {chart : Chart} {stored span : Span} {set : NonterminalSet}
    (room : chart.HasRoom) (storedWithin : stored.Within chart.size)
    (within : span.Within chart.size) :
    (chart.store stored set).cell span = if span = stored then set else chart.cell span := by
  have size := (sameInput_store chart stored set).size
  have there := room.slot_lt storedWithin
  rw [cell_eq_getD (size ▸ within), cell_eq_getD within, size, store,
    Array.getD_eq_getD_getElem?, Array.getD_eq_getD_getElem?, Array.getElem?_setIfInBounds]
  by_cases same : span = stored
  · simp [same, there]
  · have apart : slot chart.size stored ≠ slot chart.size span :=
      fun equal => same (slot_injective within storedWithin equal.symm)
    rw [if_neg apart, if_neg same]

theorem cell_storeAll {chart : Chart} {spans : List Span} {value : Span → NonterminalSet}
    (room : chart.HasRoom) (spansWithin : ∀ span ∈ spans, span.Within chart.size)
    {span : Span} (within : span.Within chart.size) :
    (chart.storeAll (spans.map fun span => (span, value span))).cell span =
      if span ∈ spans then value span else chart.cell span := by
  induction spans generalizing chart with
  | nil => simp [storeAll]
  | cons first rest induction =>
      have same := sameInput_store chart first (value first)
      have later := induction (room.of_sameInput same)
        (fun other member => same.size ▸ spansWithin other (List.mem_cons_of_mem _ member))
        (same.size ▸ within)
      have unfolded : chart.storeAll ((first :: rest).map fun span => (span, value span)) =
          (chart.store first (value first)).storeAll
            (rest.map fun span => (span, value span)) := rfl
      rw [unfolded, later, cell_store room (spansWithin first List.mem_cons_self) within]
      by_cases member : span ∈ rest
      · simp [member]
      · by_cases hit : span = first
        · simp [hit]
        · simp [member, hit]

/-! ## What a cell is derived from -/

theorem mem_tier {chart : Chart} {length : Nat} {span : Span} :
    span ∈ chart.tier length ↔ span.length = length ∧ span.start < chart.size + 1 - length := by
  rw [tier, List.mem_map]
  constructor
  · intro mapped
    obtain ⟨start, member, rfl⟩ := mapped
    exact ⟨rfl, List.mem_range.mp member⟩
  · intro within
    obtain ⟨rfl, below⟩ := within
    exact ⟨span.start, List.mem_range.mpr below, rfl⟩

theorem mem_tier_iff_within {chart : Chart} {length : Nat} {span : Span}
    (positive : 0 < length) :
    span ∈ chart.tier length ↔ span.length = length ∧ span.Within chart.size := by
  rw [mem_tier]
  constructor
  · intro bounded
    obtain ⟨rfl, below⟩ := bounded
    exact ⟨rfl, positive, by simp only [Span.stop]; omega⟩
  · intro bounded
    obtain ⟨rfl, within⟩ := bounded
    have inside := within.inside
    simp only [Span.stop] at inside
    exact ⟨rfl, by omega⟩

theorem mem_spans {chart : Chart} {span : Span} :
    span ∈ chart.spans ↔ span.Within chart.size := by
  rcases span with ⟨start, length⟩
  simp only [spans, List.mem_flatMap, List.mem_map, List.mem_range, List.mem_range'_1,
    Span.mk.injEq]
  constructor
  · intro listed
    obtain ⟨_, below, _, bounds, rfl, rfl⟩ := listed
    exact ⟨bounds.1, by simp only [Span.stop]; omega⟩
  · intro within
    have inside := within.inside
    simp only [Span.stop] at inside
    exact ⟨start, within.start_lt, length, ⟨within.positive, by omega⟩, rfl, rfl⟩

theorem mem_pairings {chart : Chart} {span : Span} {pairing : Pairing} :
    pairing ∈ chart.pairings span ↔
      0 < pairing.split ∧ pairing.split < span.length ∧
        pairing.left ∈ chart.cell (span.cut pairing.split).1 ∧
        pairing.right ∈ chart.cell (span.cut pairing.split).2 := by
  rcases pairing with ⟨split, left, right⟩
  simp only [pairings, pairingsAt, List.mem_flatMap, List.mem_map, List.mem_range'_1,
    NonterminalSet.mem_toList, Pairing.mk.injEq]
  constructor
  · intro mapped
    obtain ⟨offset, ⟨positive, below⟩, first, firstMember, second, secondMember, rfl, rfl,
      rfl⟩ := mapped
    exact ⟨positive, by omega, firstMember, secondMember⟩
  · intro paired
    obtain ⟨positive, below, leftMember, rightMember⟩ := paired
    exact ⟨split, ⟨positive, by omega⟩, left, leftMember, right, rightMember, rfl, rfl, rfl⟩

theorem mem_derive {chart : Chart} {span : Span} {nonterminal : Nonterminal} :
    nonterminal ∈ chart.derive span ↔
      ∃ pairing ∈ chart.pairings span,
        nonterminal ∈ chart.grammar.lhsForPair pairing.left pairing.right := by
  rw [derive, NonterminalSet.mem_unions]
  constructor
  · intro found
    obtain ⟨set, member, inside⟩ := found
    obtain ⟨pairing, paired, rfl⟩ := List.mem_map.mp member
    exact ⟨pairing, paired, inside⟩
  · intro found
    obtain ⟨pairing, paired, inside⟩ := found
    exact ⟨_, List.mem_map.mpr ⟨pairing, paired, rfl⟩, inside⟩

theorem derive_congr {before after : Chart} {span : Span} (same : SameInput before after)
    (shorter : ∀ other : Span, other.length < span.length → after.cell other = before.cell other) :
    after.derive span = before.derive span := by
  have samePairings : ∀ pairing,
      pairing ∈ after.pairings span ↔ pairing ∈ before.pairings span := by
    intro pairing
    rw [mem_pairings, mem_pairings]
    constructor
    · intro paired
      obtain ⟨positive, below, left, right⟩ := paired
      rw [shorter _ below] at left
      rw [shorter _ (Nat.sub_lt_of_pos_le positive (Nat.le_of_lt below))] at right
      exact ⟨positive, below, left, right⟩
    · intro paired
      obtain ⟨positive, below, left, right⟩ := paired
      rw [← shorter _ below] at left
      rw [← shorter _ (Nat.sub_lt_of_pos_le positive (Nat.le_of_lt below))] at right
      exact ⟨positive, below, left, right⟩
  apply NonterminalSet.ext
  intro nonterminal
  rw [mem_derive, mem_derive, same.grammar]
  exact exists_congr fun pairing => and_congr_left fun _ => samePairings pairing

/-- What the cell of a span should hold, given the rest of the chart. -/
def derived (chart : Chart) (span : Span) : NonterminalSet :=
  if span.length = 1 then chart.deriveLeaf span.start else chart.derive span

theorem deriveLeaf_congr {before after : Chart} (same : SameInput before after)
    (position : Nat) : after.deriveLeaf position = before.deriveLeaf position := by
  rw [deriveLeaf, deriveLeaf, terminal?, terminal?, same.terminals, same.grammar]

theorem derived_congr {before after : Chart} {span : Span} (same : SameInput before after)
    (shorter : ∀ other : Span, other.length < span.length → after.cell other = before.cell other) :
    after.derived span = before.derived span := by
  rw [derived, derived, deriveLeaf_congr same, derive_congr same shorter]

/-- All cells hold what they should. -/
def Finished (chart : Chart) : Prop :=
  ∀ span : Span, span.Within chart.size → chart.cell span = chart.derived span

/-! ## Tier by tier -/

/-- The cells of spans up to a length hold what they should. -/
structure FilledTo (chart : Chart) (length : Nat) : Prop where
  room : chart.HasRoom
  recurrence : ∀ span : Span, span.Within chart.size → span.length ≤ length →
    chart.cell span = chart.derived span

/-- Storing a tier fixes the cells of its length and leaves every other cell alone. -/
theorem cell_storeTier {chart : Chart} {length : Nat} (value : Span → NonterminalSet)
    (room : chart.HasRoom) (positive : 0 < length) (span : Span) :
    (chart.storeAll ((chart.tier length).map fun span => (span, value span))).cell span =
      if span ∈ chart.tier length then value span else chart.cell span := by
  by_cases within : span.Within chart.size
  · exact cell_storeAll room (fun _ member => ((mem_tier_iff_within positive).mp member).2) within
  · have absent : span ∉ chart.tier length :=
      fun member => within ((mem_tier_iff_within positive).mp member).2
    have same := sameInput_storeAll chart
      ((chart.tier length).map fun span => (span, value span))
    rw [if_neg absent, cell_of_not_within within, cell_of_not_within (same.size ▸ within)]

theorem sameInput_fillTier (chart : Chart) (length : Nat) :
    SameInput chart (chart.fillTier length) :=
  sameInput_storeAll chart _

theorem FilledTo.fillLeaves {chart : Chart} (room : chart.HasRoom) :
    chart.fillLeaves.FilledTo 1 := by
  have same : SameInput chart chart.fillLeaves := sameInput_storeAll chart _
  refine ⟨room.of_sameInput same, ?_⟩
  intro span within short
  have single : span.length = 1 := Nat.le_antisymm short within.positive
  have member : span ∈ chart.tier 1 :=
    (mem_tier_iff_within Nat.one_pos).mpr ⟨single, same.size ▸ within⟩
  rw [derived, if_pos single, deriveLeaf_congr same, Chart.fillLeaves,
    cell_storeTier (fun span => chart.deriveLeaf span.start) room Nat.one_pos,
    if_pos member]

theorem FilledTo.fillTier {chart : Chart} {length : Nat} (filled : chart.FilledTo length)
    (positive : 0 < length) : (chart.fillTier (length + 1)).FilledTo (length + 1) := by
  have same := sameInput_fillTier chart (length + 1)
  have stored : ∀ span, (chart.fillTier (length + 1)).cell span =
      if span ∈ chart.tier (length + 1) then chart.derive span else chart.cell span :=
    cell_storeTier chart.derive filled.room (Nat.succ_pos length)
  have kept : ∀ span : Span, span.length ≤ length →
      (chart.fillTier (length + 1)).cell span = chart.cell span := by
    intro span short
    rw [stored, if_neg fun member => ?_]
    have long := (mem_tier.mp member).1
    omega
  refine ⟨filled.room.of_sameInput same, ?_⟩
  intro span within short
  have unchanged : (chart.fillTier (length + 1)).derived span = chart.derived span :=
    derived_congr same fun other shorter => kept other (by omega)
  rw [unchanged]
  by_cases new : span.length = length + 1
  · have member : span ∈ chart.tier (length + 1) :=
      (mem_tier_iff_within (Nat.succ_pos length)).mpr ⟨new, same.size ▸ within⟩
    rw [stored, if_pos member, derived, if_neg (by omega)]
  · have old : span.length ≤ length := by omega
    rw [kept span old]
    exact filled.recurrence span (same.size ▸ within) old

theorem FilledTo.fillTiers {chart : Chart} {length : Nat} (filled : chart.FilledTo length)
    (positive : 0 < length) (count : Nat) :
    ((List.range' (length + 1) count).foldl Chart.fillTier chart).FilledTo (length + count) := by
  induction count generalizing chart length with
  | zero => exact filled
  | succ count induction =>
      have next := induction (filled.fillTier positive) (Nat.succ_pos length)
      rw [Nat.add_assoc length 1 count, Nat.add_comm 1 count] at next
      exact next

theorem sameInput_fillTiers (chart : Chart) (lengths : List Nat) :
    SameInput chart (lengths.foldl fillTier chart) := by
  induction lengths generalizing chart with
  | nil => exact .refl chart
  | cons length rest induction =>
      exact (sameInput_fillTier chart length).trans (induction _)

theorem sameInput_fill (grammar : Grammar) (symbols : Array String) (separator : String) :
    SameInput (blank grammar symbols separator) (fill grammar symbols separator) :=
  (sameInput_storeAll _ _).trans (sameInput_fillTiers _ _)

theorem filledTo_fill (grammar : Grammar) (symbols : Array String) (separator : String) :
    (fill grammar symbols separator).FilledTo (1 + (symbols.size - 1)) :=
  (FilledTo.fillLeaves (hasRoom_blank grammar symbols separator)).fillTiers Nat.one_pos
    (symbols.size - 1)

section Fill

variable {grammar : Grammar} {symbols : Array String} {separator : String}

@[simp] theorem grammar_fill : (fill grammar symbols separator).grammar = grammar :=
  (sameInput_fill grammar symbols separator).grammar

@[simp] theorem symbols_fill : (fill grammar symbols separator).symbols = symbols :=
  (sameInput_fill grammar symbols separator).symbols

@[simp] theorem size_fill : (fill grammar symbols separator).size = symbols.size :=
  (sameInput_fill grammar symbols separator).size

@[simp] theorem terminals_fill :
    (fill grammar symbols separator).terminals = symbols.map grammar.terminal? :=
  (sameInput_fill grammar symbols separator).terminals

/-- Every cell of a filled chart holds what its rule derives from the chart. -/
theorem finished_fill : (fill grammar symbols separator).Finished := by
  intro span within
  apply (filledTo_fill grammar symbols separator).recurrence span within
  have short := within.length_le
  rw [size_fill] at short
  omega

theorem cell_fill {span : Span} (within : span.Within symbols.size) :
    (fill grammar symbols separator).cell span =
      (fill grammar symbols separator).derived span :=
  finished_fill span (size_fill ▸ within)

end Fill

end Chart

end ChartParsing
