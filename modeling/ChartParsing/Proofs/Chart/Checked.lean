import ChartParsing.Chart.Printer
import ChartParsing.Proofs.Usefulness.Removal

/-!
# Charts with all accesses checked

Filling and reading a chart takes differences of numbers, and reads and writes arrays at
computed places.  Here each of these steps is checked, and a computation in which one of
them fails has no result.  Since a chart has a slot for every span of its input, all have
the results that they have without the checks.  Whatever is written about a chart has a
text, because members of cells are left-hand sides of rules and have names.
-/

namespace ChartParsing

theorem mapM_eq_some_map {α β : Type} {read : α → Option β} {result : α → β} {values : List α}
    (all : ∀ value ∈ values, read value = some (result value)) :
    values.mapM read = some (values.map result) :=
  mapM_eq_some_iff.mpr (List.forall₂_map_right_iff.mpr (List.forall₂_same.mpr all))

namespace Checked

/-! ## Differences, writes and slices -/

/-- The difference of two numbers, if it is not negative. -/
def difference? (larger smaller : Nat) : Option Nat :=
  if smaller ≤ larger then some (larger - smaller) else none

/-- An array after a write in its bounds. -/
def put? {α : Type} (values : Array α) (place : Nat) (value : α) : Option (Array α) :=
  if place < values.size then some (values.setIfInBounds place value) else none

/-- The values from one place of an array to another one, which is not in front of it. -/
def slice? {α : Type} (values : Array α) (start stop : Nat) : Option (Array α) :=
  if start ≤ stop ∧ stop ≤ values.size then some (values.extract start stop) else none

theorem difference?_eq {larger smaller : Nat} (le : smaller ≤ larger) :
    difference? larger smaller = some (larger - smaller) :=
  if_pos le

theorem put?_eq {α : Type} {values : Array α} {place : Nat} (inside : place < values.size)
    (value : α) : put? values place value = some (values.setIfInBounds place value) :=
  if_pos inside

/-! ## Reading cells and symbols -/

def cell? (chart : Chart) (span : Span) : Option NonterminalSet :=
  if span.length = 0 ∨ chart.size < span.stop then
    some .empty
  else
    chart.cells[Chart.slot chart.size span]?

def substring? (chart : Chart) (span : Span) : Option String := do
  let stop := min span.stop chart.size
  let symbols ← slice? chart.symbols (min span.start stop) stop
  return chart.separator.intercalate symbols.toList

def accepts? (chart : Chart) (start : Nonterminal) : Option Bool :=
  if chart.isEmpty then
    some false
  else do
    let set ← cell? chart chart.span
    return set.contains start

def spans? (chart : Chart) : Option (List Span) := do
  let rows ← (List.range chart.size).mapM fun start => do
    let rest ← difference? chart.size start
    return (List.range' 1 rest).map (Span.mk start)
  return rows.flatten

def entryAt? (chart : Chart) (span : Span) : Option CellEntry := do
  let set ← cell? chart span
  let text ← substring? chart span
  return ⟨span, text, set.toList⟩

def dump? (chart : Chart) : Option (List CellEntry) := do
  let spans ← spans? chart
  let entries ← spans.mapM (entryAt? chart)
  return entries.filter fun entry => !entry.members.isEmpty

variable {chart : Chart}

theorem cell?_eq (room : chart.HasRoom) (span : Span) :
    cell? chart span = some (chart.cell span) := by
  unfold cell? Chart.cell
  split
  · rfl
  · next apart =>
      obtain ⟨nonempty, inside⟩ := not_or.mp apart
      have within : span.Within chart.size :=
        ⟨Nat.pos_of_ne_zero nonempty, Nat.not_lt.mp inside⟩
      rw [Array.getD_eq_getD_getElem?, Array.getElem?_eq_getElem (room.slot_lt within),
        Option.getD_some]

theorem substring?_eq (chart : Chart) (span : Span) :
    substring? chart span = some (chart.substring span) := by
  have bounds : min span.start (min span.stop chart.size) ≤ min span.stop chart.size ∧
      min span.stop chart.size ≤ chart.symbols.size := ⟨Nat.min_le_right .., Nat.min_le_right ..⟩
  have same : chart.symbols.extract (min span.start (min span.stop chart.size))
      (min span.stop chart.size) = chart.symbols.extract span.start (min span.stop chart.size) := by
    rcases Nat.le_total span.start (min span.stop chart.size) with before | behind
    · rw [Nat.min_eq_left before]
    · rw [Nat.min_eq_right behind, Array.extract_eq_empty_of_le, Array.extract_eq_empty_of_le]
      all_goals omega
  rw [substring?, slice?, if_pos bounds, same]
  rfl

theorem accepts?_eq (room : chart.HasRoom) (start : Nonterminal) :
    accepts? chart start = some (chart.accepts start) := by
  rw [accepts?, Chart.accepts, cell?_eq room]
  cases chart.isEmpty with
  | true => rfl
  | false => rfl

theorem spans?_eq (chart : Chart) : spans? chart = some chart.spans := by
  have rows : (List.range chart.size).mapM (fun start => do
      let rest ← difference? chart.size start
      return (List.range' 1 rest).map (Span.mk start)) =
      some ((List.range chart.size).map fun start =>
        (List.range' 1 (chart.size - start)).map (Span.mk start)) := by
    apply mapM_eq_some_map
    intro start below
    rw [difference?_eq (Nat.le_of_lt (List.mem_range.mp below))]
    rfl
  rw [spans?, rows, Chart.spans, List.flatMap_def]
  rfl

theorem entryAt?_eq (room : chart.HasRoom) (span : Span) :
    entryAt? chart span = some (chart.entry span) := by
  rw [entryAt?, cell?_eq room, substring?_eq]
  rfl

theorem dump?_eq (room : chart.HasRoom) : dump? chart = some chart.dump := by
  have entries : chart.spans.mapM (entryAt? chart) = some (chart.spans.map chart.entry) :=
    mapM_eq_some_map fun span _ => entryAt?_eq room span
  rw [dump?, spans?_eq, Option.bind_eq_bind, Option.bind_some, entries, Chart.dump]
  exact congrArg some List.filter_map

/-! ## Filling -/

/-- The pairings over one cut of a span, which must not be behind its end. -/
def pairingsAt? (chart : Chart) (span : Span) (offset : Nat) : Option (List Pairing) := do
  let rest ← difference? span.length offset
  let lefts ← cell? chart ⟨span.start, offset⟩
  let rights ← cell? chart ⟨span.start + offset, rest⟩
  return lefts.toList.flatMap fun left => rights.toList.map fun right => ⟨offset, left, right⟩

def pairings? (chart : Chart) (span : Span) : Option (List Pairing) := do
  let parts ← (List.range' 1 (span.length - 1)).mapM (pairingsAt? chart span)
  return parts.flatten

def derive? (chart : Chart) (span : Span) : Option NonterminalSet := do
  let pairings ← pairings? chart span
  return .unions (pairings.map fun pairing =>
    chart.grammar.lhsForPair pairing.left pairing.right)

def deriveLeaf? (chart : Chart) (position : Nat) : Option NonterminalSet := do
  match ← chart.terminals[position]? with
  | some letter => return chart.grammar.lhsForTerminal letter
  | none => return .empty

def store? (chart : Chart) (span : Span) (set : NonterminalSet) : Option Chart := do
  let cells ← put? chart.cells (Chart.slot chart.size span) set
  return { chart with cells := cells }

def storeAll? (chart : Chart) (sets : List (Span × NonterminalSet)) : Option Chart :=
  sets.foldlM (fun chart entry => store? chart entry.1 entry.2) chart

def fillLeaves? (chart : Chart) : Option Chart := do
  let sets ← (List.range chart.size).mapM fun start => do
    let set ← deriveLeaf? chart start
    return (⟨start, 1⟩, set)
  storeAll? chart sets

/-- The spans of a length, which must not be greater than that of the input. -/
def tier? (chart : Chart) (length : Nat) : Option (List Span) := do
  let last ← difference? chart.size length
  return (List.range (last + 1)).map fun start => ⟨start, length⟩

def fillTier? (chart : Chart) (length : Nat) : Option Chart := do
  let spans ← tier? chart length
  let sets ← spans.mapM fun span => do
    let set ← derive? chart span
    return (span, set)
  storeAll? chart sets

def fill? (grammar : Grammar) (symbols : Array String) (separator : String) : Option Chart := do
  let chart ← fillLeaves? (.blank grammar symbols separator)
  (List.range' 2 (symbols.size - 1)).foldlM fillTier? chart

theorem pairings?_eq (room : chart.HasRoom) (span : Span) :
    pairings? chart span = some (chart.pairings span) := by
  have parts : (List.range' 1 (span.length - 1)).mapM (pairingsAt? chart span) =
      some ((List.range' 1 (span.length - 1)).map (chart.pairingsAt span)) := by
    apply mapM_eq_some_map
    intro offset inside
    have shorter : offset ≤ span.length := by
      have bounds := List.mem_range'_1.mp inside
      omega
    rw [pairingsAt?, difference?_eq shorter]
    simp only [cell?_eq room, Option.bind_eq_bind, Option.bind_some]
    rfl
  rw [pairings?, parts, Chart.pairings, List.flatMap_def]
  rfl

theorem derive?_eq (room : chart.HasRoom) (span : Span) :
    derive? chart span = some (chart.derive span) := by
  rw [derive?, pairings?_eq room]
  rfl

theorem deriveLeaf?_eq {position : Nat} (inside : position < chart.terminals.size) :
    deriveLeaf? chart position = some (chart.deriveLeaf position) := by
  rw [deriveLeaf?, Chart.deriveLeaf, Chart.terminal?, Array.getElem?_eq_getElem inside]
  cases chart.terminals[position] with
  | none => rfl
  | some letter => rfl

theorem store?_eq (room : chart.HasRoom) {span : Span} (within : span.Within chart.size)
    (set : NonterminalSet) : store? chart span set = some (chart.store span set) := by
  rw [store?, put?_eq (room.slot_lt within)]
  rfl

theorem storeAll?_eq {sets : List (Span × NonterminalSet)} (room : chart.HasRoom)
    (within : ∀ entry ∈ sets, entry.1.Within chart.size) :
    storeAll? chart sets = some (chart.storeAll sets) := by
  induction sets generalizing chart with
  | nil => rfl
  | cons entry rest induction =>
      obtain ⟨here, later⟩ := List.forall_mem_cons.mp within
      have same := Chart.sameInput_store chart entry.1 entry.2
      rw [storeAll?, List.foldlM_cons, store?_eq room here]
      apply induction (room.of_sameInput same)
      rw [same.size]
      exact later

theorem storeTier?_eq (room : chart.HasRoom) {length : Nat} (positive : 0 < length)
    (value : Span → NonterminalSet) :
    storeAll? chart ((chart.tier length).map fun span => (span, value span)) =
      some (chart.storeAll ((chart.tier length).map fun span => (span, value span))) := by
  apply storeAll?_eq room
  intro entry member
  obtain ⟨span, inTier, rfl⟩ := List.mem_map.mp member
  exact ((Chart.mem_tier_iff_within positive).mp inTier).2

theorem fillLeaves?_eq (room : chart.HasRoom) (terminals : chart.terminals.size = chart.size) :
    fillLeaves? chart = some chart.fillLeaves := by
  have sets : (List.range chart.size).mapM (fun start => do
      let set ← deriveLeaf? chart start
      return ((⟨start, 1⟩ : Span), set)) =
      some ((chart.tier 1).map fun span => (span, chart.deriveLeaf span.start)) := by
    rw [Chart.tier, List.map_map, Nat.add_sub_cancel]
    apply mapM_eq_some_map
    intro start below
    rw [deriveLeaf?_eq (terminals ▸ List.mem_range.mp below)]
    rfl
  rw [fillLeaves?, sets]
  exact storeTier?_eq room Nat.one_pos fun span => chart.deriveLeaf span.start

theorem tier?_eq {length : Nat} (short : length ≤ chart.size) :
    tier? chart length = some (chart.tier length) := by
  rw [tier?, difference?_eq short, Chart.tier, Nat.sub_add_comm short]
  rfl

theorem fillTier?_eq (room : chart.HasRoom) {length : Nat} (positive : 0 < length)
    (short : length ≤ chart.size) : fillTier? chart length = some (chart.fillTier length) := by
  have sets : (chart.tier length).mapM (fun span => do
      let set ← derive? chart span
      return (span, set)) =
      some ((chart.tier length).map fun span => (span, chart.derive span)) := by
    apply mapM_eq_some_map
    intro span _
    rw [derive?_eq room]
    rfl
  rw [fillTier?, tier?_eq short, Option.bind_eq_bind, Option.bind_some, sets]
  exact storeTier?_eq room positive chart.derive

theorem fillTiers?_eq {lengths : List Nat} (room : chart.HasRoom)
    (bounds : ∀ length ∈ lengths, 0 < length ∧ length ≤ chart.size) :
    lengths.foldlM fillTier? chart = some (lengths.foldl Chart.fillTier chart) := by
  induction lengths generalizing chart with
  | nil => rfl
  | cons length rest induction =>
      obtain ⟨⟨positive, short⟩, later⟩ := List.forall_mem_cons.mp bounds
      have same := Chart.sameInput_fillTier chart length
      rw [List.foldlM_cons, fillTier?_eq room positive short]
      apply induction (room.of_sameInput same)
      rw [same.size]
      exact later

/-- Filling a chart succeeds with all its accesses checked. -/
theorem fill?_eq (grammar : Grammar) (symbols : Array String) (separator : String) :
    fill? grammar symbols separator = some (.fill grammar symbols separator) := by
  have room := Chart.hasRoom_blank grammar symbols separator
  have terminals : (Chart.blank grammar symbols separator).terminals.size = symbols.size :=
    Array.size_map
  have same : Chart.SameInput (.blank grammar symbols separator)
      (Chart.blank grammar symbols separator).fillLeaves := Chart.sameInput_storeAll _ _
  rw [fill?, fillLeaves?_eq room terminals]
  apply fillTiers?_eq (room.of_sameInput same)
  intro length member
  have bounds := List.mem_range'_1.mp member
  have size : (Chart.blank grammar symbols separator).fillLeaves.size = symbols.size := same.size
  omega

end Checked

/-! ## What is written -/

namespace Chart

theorem hasRoom_fill (grammar : Grammar) (symbols : Array String) (separator : String) :
    (fill grammar symbols separator).HasRoom :=
  (filledTo_fill grammar symbols separator).room

theorem exists_name_of_mem_cell {grammar : Grammar} {symbols : Array String} {separator : String}
    (formed : grammar.WellFormed) {span : Span} {nonterminal : Nonterminal}
    (member : nonterminal ∈ (fill grammar symbols separator).cell span) :
    ∃ name, grammar.nonterminalName? nonterminal = some name :=
  Numbering.exists_get? ((productive_of_mem_cell formed member).named formed)

section Fill

variable {grammar : Grammar} (formed : grammar.WellFormed) (symbols : Array String)
  (separator : String)

include formed

theorem exists_names_of_cell (span : Span) :
    ∃ names, ((fill grammar symbols separator).cell span).toList.mapM grammar.nonterminalName? =
      some names :=
  exists_mapM_eq_some fun _ member => exists_name_of_mem_cell formed member

theorem exists_setText? (span : Span) :
    ∃ text, grammar.setText? ((fill grammar symbols separator).cell span) = some text := by
  obtain ⟨names, read⟩ := exists_names_of_cell formed symbols separator span
  rw [Grammar.setText?, read]
  exact ⟨_, rfl⟩

theorem exists_text? : ∃ text, (fill grammar symbols separator).text? = some text := by
  obtain ⟨lines, written⟩ : ∃ lines, (fill grammar symbols separator).dump.mapM
      (fill grammar symbols separator).entryText? = some lines := by
    apply exists_mapM_eq_some
    intro entry member
    obtain ⟨span, _, rfl⟩ := List.mem_map.mp member
    obtain ⟨names, read⟩ := exists_names_of_cell formed symbols separator span
    rw [entryText?, grammar_fill, Chart.entry, read]
    exact ⟨_, rfl⟩
  rw [text?, written]
  exact ⟨_, rfl⟩

theorem exists_cellRecords (spans : List Span) :
    ∃ records, spans.mapM (fill grammar symbols separator).cellRecord? = some records := by
  apply exists_mapM_eq_some
  intro span _
  obtain ⟨text, written⟩ := exists_setText? formed symbols separator span
  rw [cellRecord?, grammar_fill, written]
  exact ⟨_, rfl⟩

theorem exists_log? : ∃ records, (fill grammar symbols separator).log? = some records := by
  obtain ⟨records, reported⟩ := exists_cellRecords formed symbols separator
    (((List.range' 2 ((fill grammar symbols separator).size - 1)).flatMap
      (fill grammar symbols separator).tier).filter fun span =>
        !((fill grammar symbols separator).cell span).isEmpty)
  rw [log?, reported]
  exact ⟨_, rfl⟩

end Fill

end Chart

end ChartParsing
