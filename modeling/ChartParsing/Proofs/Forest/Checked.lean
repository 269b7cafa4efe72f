import ChartParsing.Forest.Printer
import ChartParsing.Proofs.Chart.Checked
import ChartParsing.Proofs.Forest.Counting

/-!
# Forests with all accesses checked

Extracting a forest and counting its trees look nodes up by their identifiers.  Here each of
these look-ups is checked as well.  Between expansions every identifier has an item and a
place among the kinds, and the derivations of a finished forest mention nodes of the forest,
so the checks change nothing.  In particular, a pending identifier is always known, and a
single position with a node always has a terminal.
-/

namespace ChartParsing

namespace Checked

/-! ## Extraction -/

def pairingsOf? (chart : Chart) (item : Item) : Option (List Pairing) := do
  let pairings ← pairings? chart item.span
  return pairings.filter fun pairing =>
    (chart.grammar.lhsForPair pairing.left pairing.right).contains item.nonterminal

def settle? (state : Extraction) (id : Nat) (kind : NodeKind) : Option Extraction := do
  let kinds ← put? state.kinds id kind
  return { state with
    kinds := kinds
    expanded := id :: state.expanded }

/-- Expand a node, which must be known, and over a single position must have a terminal.
Items are mentioned over the cuts of the pairings, which are checked with these. -/
def expand? (chart : Chart) (id : Nat) (state : Extraction) : Option Extraction := do
  let item ← state.items.get? id
  if item.span.length = 1 then
    let terminal ← chart.terminal? item.span.start
    settle? state id (.leaf terminal)
  else
    let pairings ← pairingsOf? chart item
    let (derivations, state) := Extraction.mentionAll item.span pairings state
    settle? state id (.branch derivations)

def run? (chart : Chart) : Nat → Extraction → Option Extraction
  | _, ⟨items, kinds, [], expanded⟩ => some ⟨items, kinds, [], expanded⟩
  | 0, ⟨_, _, _ :: _, _⟩ => none
  | steps + 1, ⟨items, kinds, id :: pending, expanded⟩ => do
      let state ← expand? chart id ⟨items, kinds, pending, expanded⟩
      run? chart steps state

/-- The forest of a nonterminal, or the answer that there is none. -/
def extract? (chart : Chart) (start : Nonterminal) : Option (Option Forest) := do
  if ← accepts? chart start then
    let state ← run? chart (chart.memberCount chart.spans) (.begin chart start)
    return some state.toForest
  else
    return none

variable {chart : Chart} {start : Nonterminal}

theorem pairingsOf?_eq (room : chart.HasRoom) (item : Item) :
    pairingsOf? chart item = some (chart.pairingsOf item) := by
  rw [pairingsOf?, pairings?_eq room]
  rfl

theorem settle?_eq {state : Extraction} {id : Nat} (inside : id < state.kinds.size)
    (kind : NodeKind) : settle? state id kind = some (state.settle id kind) := by
  rw [settle?, put?_eq inside]
  rfl

theorem expand?_eq (room : chart.HasRoom) {id : Nat} {state : Extraction}
    (sound : state.Sound chart [id]) :
    expand? chart id state = Extraction.expand? chart id state := by
  have inside : id < state.items.size :=
    List.mem_range.mp (sound.identifiers.mem_iff.mp List.mem_cons_self)
  obtain ⟨item, found⟩ := Numbering.exists_get? inside
  rw [expand?, Extraction.expand?, found, Option.bind_eq_bind, Option.bind_some,
    Option.bind_eq_bind, Option.bind_some]
  by_cases single : item.span.length = 1
  · have there : id < state.kinds.size := sound.kindsSize ▸ inside
    rw [if_pos single, if_pos single]
    simp only [settle?_eq there]
    rfl
  · obtain ⟨laterSound, keeps, _⟩ := Extraction.mentionAll_spec item.span sound
      fun pairing paired => (Chart.mem_pairingsOf.mp paired).1
    have there := Numbering.get?_lt_size (keeps.items found)
    rw [← laterSound.kindsSize] at there
    rw [if_neg single, if_neg single, pairingsOf?_eq room, Option.bind_eq_bind, Option.bind_some]
    exact settle?_eq there _

theorem run?_eq (finished : chart.Finished) (room : chart.HasRoom) (steps : Nat)
    {state : Extraction} (sound : state.Sound chart []) :
    run? chart steps state = Extraction.run? chart steps state := by
  induction steps generalizing state with
  | zero => rcases state with ⟨items, kinds, _ | ⟨id, pending⟩, expanded⟩ <;> rfl
  | succ steps induction =>
      rcases state with ⟨items, kinds, pending, expanded⟩
      cases pending with
      | nil => rfl
      | cons id pending =>
          have busy : Extraction.Sound chart [id] ⟨items, kinds, pending, expanded⟩ :=
            { sound with identifiers := sound.identifiers }
          obtain ⟨after, stepped, afterSound, _⟩ := Extraction.expand?_spec finished busy
          rw [run?, Extraction.run?, expand?_eq room busy, stepped]
          exact induction afterSound

/-- Extraction ends with all its accesses checked, and finds the forest or finds that
there is none. -/
theorem extract?_eq (finished : chart.Finished) (room : chart.HasRoom) (start : Nonterminal) :
    extract? chart start = some (Forest.extract? chart start) := by
  rw [extract?, accepts?_eq room]
  cases accepted : chart.accepts start with
  | false =>
      rw [Forest.extract?_of_not_accepts accepted]
      rfl
  | true =>
      have begun := Extraction.sound_begin (Chart.accepts_iff.mp accepted)
      obtain ⟨final, ran, _⟩ := Extraction.exists_run_begin finished accepted
      have checked := (run?_eq finished room (chart.memberCount chart.spans) begun).trans ran
      rw [Forest.extract?_of_run? accepted ran]
      simp [checked]

/-! ## Counting

Whether a forest is ambiguous is read off its kinds, one after the other, without looking any of
them up. -/

/-- A count with the pairs of trees of one more derivation, the children of
which have counts. -/
def countDerivation? (counts : Array Nat) (count : Nat) (derivation : Derivation) : Option Nat := do
  let left ← counts[derivation.left]?
  let right ← counts[derivation.right]?
  return Forest.cap (count + Forest.cap (left * right))

def countKind? (counts : Array Nat) : NodeKind → Option Nat
  | .leaf _ => some 1
  | .branch derivations => derivations.foldlM (countDerivation? counts) 0

def countNode? (forest : Forest) (counts : Array Nat) (id : Nat) : Option (Array Nat) := do
  let kind ← forest.kinds[id]?
  let count ← countKind? counts kind
  put? counts id count

def treeCount? (forest : Forest) : Option Nat := do
  let counts ← forest.byLength.foldlM (countNode? forest) (Array.replicate forest.size 0)
  return counts.getD forest.root 0

variable {forest : Forest}

theorem countDerivation?_eq {counts : Array Nat} {derivation : Derivation}
    (left : derivation.left < counts.size) (right : derivation.right < counts.size)
    (count : Nat) :
    countDerivation? counts count derivation =
      some (Forest.cap (count + Forest.cap
        (counts.getD derivation.left 0 * counts.getD derivation.right 0))) := by
  simp [countDerivation?, Array.getD_eq_getD_getElem?, left, right]

theorem countDerivations?_eq {counts : Array Nat} {items : Numbering Item} {span : Span}
    (size : counts.size = items.size) {pairings : List Pairing} {derivations : List Derivation}
    (denoted : List.Forall₂ (Derivation.Denotes items span) pairings derivations) (count : Nat) :
    derivations.foldlM (countDerivation? counts) count =
      some (derivations.foldl (fun count derivation => Forest.cap (count + Forest.cap
        (counts.getD derivation.left 0 * counts.getD derivation.right 0))) count) := by
  induction denoted generalizing count with
  | nil => rfl
  | cons denotes _ induction =>
      have left := size ▸ Numbering.get?_lt_size denotes.left
      have right := size ▸ Numbering.get?_lt_size denotes.right
      rw [List.foldlM_cons, countDerivation?_eq left right]
      exact induction _

theorem countKind?_eq {counts : Array Nat} {items : Numbering Item} {item : Item} {kind : NodeKind}
    (size : counts.size = items.size) (explains : kind.Explains chart items item) :
    countKind? counts kind = some (Forest.countKind counts kind) := by
  cases explains with
  | leaf _ _ => rfl
  | branch _ denoted => exact countDerivations?_eq size denoted 0

theorem countNode?_eq (explained : forest.Explained chart start) {counts : Array Nat}
    (size : counts.size = forest.items.size) {id : Nat} (inside : id < forest.items.size) :
    countNode? forest counts id = some (forest.countNode counts id) ∧
      (forest.countNode counts id).size = forest.items.size := by
  obtain ⟨item, found⟩ := Numbering.exists_get? inside
  obtain ⟨kind, settled, explains⟩ := explained.kinds found
  have counted := countKind?_eq size explains
  rw [countNode?, Forest.countNode, settled, Option.bind_eq_bind, Option.bind_some, counted,
    Option.bind_eq_bind, Option.bind_some]
  exact ⟨put?_eq (size ▸ inside) _, Array.size_setIfInBounds.trans size⟩

theorem countNodes?_eq (explained : forest.Explained chart start) {ids : List Nat}
    (inside : ∀ id ∈ ids, id < forest.items.size) {counts : Array Nat}
    (size : counts.size = forest.items.size) :
    ids.foldlM (countNode? forest) counts = some (ids.foldl forest.countNode counts) := by
  induction ids generalizing counts with
  | nil => rfl
  | cons id rest induction =>
      obtain ⟨here, later⟩ := List.forall_mem_cons.mp inside
      obtain ⟨counted, kept⟩ := countNode?_eq explained size here
      rw [List.foldlM_cons, counted]
      exact induction later kept

theorem treeCount?_eq (explained : forest.Explained chart start) :
    treeCount? forest = some forest.treeCount := by
  have inside : ∀ id ∈ forest.byLength, id < forest.items.size := by
    intro id member
    obtain ⟨length, _, numbered⟩ := List.mem_flatMap.mp member
    obtain ⟨item, found, _⟩ := Forest.mem_nodesOfLength.mp numbered
    exact Numbering.get?_lt_size found
  have size : (Array.replicate forest.size 0).size = forest.items.size := Array.size_replicate
  rw [treeCount?, countNodes?_eq explained inside size]
  rfl

end Checked

/-! ## What is reported -/

namespace Forest

variable {grammar : Grammar} {symbols : Array String} {separator : String} {start : Nonterminal}
  {forest : Forest}

theorem lt_size_of_mem_order {chart : Chart} (finished : chart.Finished)
    (extracted : extract? chart start = some forest) {id : Nat} (member : id ∈ forest.order) :
    id < forest.items.size := by
  obtain ⟨accepted, final, ran, rfl⟩ := extract?_eq_some_iff.mp extracted
  obtain ⟨other, otherRan, sound⟩ := Extraction.exists_run_begin finished accepted
  cases ran.symm.trans otherRan
  apply List.mem_range.mp
  apply sound.identifiers.mem_iff.mp
  exact List.mem_append_right _ (List.mem_reverse.mp member)

theorem exists_nodeRecords? (formed : grammar.WellFormed)
    (explained : forest.Explained (.fill grammar symbols separator) start) {id : Nat}
    (inside : id < forest.items.size) :
    ∃ records, forest.nodeRecords? grammar id = some records := by
  obtain ⟨item, found⟩ := Numbering.exists_get? inside
  obtain ⟨kind, node, _⟩ := explained.node? found
  obtain ⟨name, named⟩ := Chart.exists_name_of_mem_cell formed (explained.members found)
  rw [nodeRecords?, node, Option.bind_eq_bind, Option.bind_some]
  cases kind with
  | leaf letter => exact ⟨_, rfl⟩
  | branch derivations => exact ⟨_, by simp only [named]; rfl⟩

theorem exists_log? (formed : grammar.WellFormed)
    (extracted : extract? (.fill grammar symbols separator) start = some forest) :
    ∃ records, forest.log? grammar = some records := by
  have explained := explained_of_extract? Chart.finished_fill extracted
  obtain ⟨kind, root, _⟩ := explained.node? explained.root
  obtain ⟨name, named⟩ := Chart.exists_name_of_mem_cell formed (explained.members explained.root)
  obtain ⟨nodes, reported⟩ : ∃ nodes, forest.order.mapM (forest.nodeRecords? grammar) =
      some nodes := by
    apply exists_mapM_eq_some
    intro id member
    exact exists_nodeRecords? formed explained
      (lt_size_of_mem_order Chart.finished_fill extracted member)
  simp only [log?, reported, root, named, Option.bind_eq_bind, Option.bind_some]
  exact ⟨_, rfl⟩

end Forest

namespace Checked

/-- Under every grammar that some calls build, every input has a chart if all accesses
are checked, and it is the one that is filled without checks.  The same holds of every
cell and every part of the text that can be asked for, of the dump, of acceptance, of
the forest of every nonterminal, and of the number of its trees.  Whatever is reported
or written about them has a text. -/
theorem no_check_fails {grammar : Grammar} (reachable : grammar.Reachable)
    (symbols : Array String) (separator : String) :
    ∃ chart, fill? grammar symbols separator = some chart ∧
      chart = .fill grammar symbols separator ∧
      (∃ records, chart.log? = some records) ∧
      (∀ span, cell? chart span = some (chart.cell span) ∧
        substring? chart span = some (chart.substring span) ∧
        ∃ text, grammar.setText? (chart.cell span) = some text) ∧
      dump? chart = some chart.dump ∧
      (∃ text, chart.text? = some text) ∧
      ∀ start, accepts? chart start = some (chart.accepts start) ∧
        extract? chart start = some (Forest.extract? chart start) ∧
        ∀ forest, Forest.extract? chart start = some forest →
          (∃ records, forest.log? grammar = some records) ∧
            treeCount? forest = some forest.treeCount := by
  have formed := reachable.wellFormed
  have room := Chart.hasRoom_fill grammar symbols separator
  refine ⟨_, fill?_eq grammar symbols separator, rfl, Chart.exists_log? formed symbols separator,
    ?_, dump?_eq room, Chart.exists_text? formed symbols separator, ?_⟩
  · intro span
    exact ⟨cell?_eq room span, substring?_eq _ span,
      Chart.exists_setText? formed symbols separator span⟩
  · intro start
    refine ⟨accepts?_eq room start, extract?_eq Chart.finished_fill room start, ?_⟩
    intro forest extracted
    have explained := Forest.explained_of_extract? Chart.finished_fill extracted
    exact ⟨Forest.exists_log? formed extracted, treeCount?_eq explained⟩

/-- The sample grammar has a rule that mentions a nonterminal without a name.  The
requests reach past the end of the input and ask for such a nonterminal. -/
theorem no_check_fails_sample :
    Construction.sample.Reachable ∧
      ∃ chart, fill? Construction.sample #["a", "a", "a"] " " = some chart ∧
        cell? chart ⟨2, 5⟩ = some .empty ∧ substring? chart ⟨2, 5⟩ = some "a" ∧
        extract? chart ⟨7⟩ = some none ∧
        ∃ forest, extract? chart ⟨0⟩ = some (some forest) ∧ treeCount? forest = some 2 := by
  have reachable := Construction.reachable_sample
  obtain ⟨chart, filled, rfl, _, reads, _, _, starts⟩ :=
    no_check_fails reachable #["a", "a", "a"] " "
  have counted : (Forest.extract? (.fill Construction.sample #["a", "a", "a"] " ") ⟨0⟩).map
      Forest.treeCount = some 2 := by decide +kernel
  obtain ⟨forest, extracted, two⟩ := Option.map_eq_some_iff.mp counted
  obtain ⟨_, found, counts⟩ := starts ⟨0⟩
  obtain ⟨_, unnamed, _⟩ := starts ⟨7⟩
  refine ⟨reachable, _, filled, ?_, ?_, ?_, forest, ?_, ?_⟩
  · rw [(reads ⟨2, 5⟩).1]
    decide +kernel
  · rw [(reads ⟨2, 5⟩).2.1]
    decide +kernel
  · rw [unnamed]
    decide +kernel
  · rw [found, extracted]
  · rw [(counts forest extracted).2, two]

end Checked

end ChartParsing
