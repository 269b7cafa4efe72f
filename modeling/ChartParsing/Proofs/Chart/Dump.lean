import ChartParsing.Proofs.Chart.Checked
import ChartParsing.Proofs.Chart.Locality
import ChartParsing.Proofs.Chart.Word

/-!
# What a dump tells of a chart

A dump goes through the spans of the input row by row and leaves out the empty cells.  So it
lists every cell that holds something, once and in order, and what it does not list is empty.
The slots tell the same: filling stores sets for spans of the input only, and different spans
have different slots, so as many slots hold something as the dump has entries.
-/

namespace ChartParsing

namespace Span

/-- A span stands before another one, by start and then by length. -/
def Before (left right : Span) : Prop :=
  left.start < right.start ∨ (left.start = right.start ∧ left.length < right.length)

end Span

namespace Chart

variable {chart : Chart}

/-! ## Rows -/

/-- Only the slots of spans of the input hold anything. -/
def Confined (chart : Chart) : Prop :=
  ∀ place, chart.cells.getD place .empty ≠ .empty →
    ∃ span : Span, span.Within chart.size ∧ slot chart.size span = place

theorem Confined.store (confined : chart.Confined) {span : Span}
    (within : span.Within chart.size) (set : NonterminalSet) :
    (chart.store span set).Confined := by
  intro place holds
  by_cases hit : slot chart.size span = place
  · exact ⟨span, within, hit⟩
  · apply confined
    simpa [Chart.store, Array.getElem?_setIfInBounds, hit] using holds

theorem Confined.storeAll {sets : List (Span × NonterminalSet)} (confined : chart.Confined)
    (within : ∀ entry ∈ sets, entry.1.Within chart.size) :
    (chart.storeAll sets).Confined := by
  induction sets generalizing chart with
  | nil => exact confined
  | cons entry rest induction =>
      obtain ⟨here, later⟩ := List.forall_mem_cons.mp within
      apply induction (confined.store here entry.2)
      rw [(sameInput_store chart entry.1 entry.2).size]
      exact later

theorem Confined.storeTier (confined : chart.Confined) {length : Nat} (positive : 0 < length)
    (value : Span → NonterminalSet) :
    (chart.storeAll ((chart.tier length).map fun span => (span, value span))).Confined := by
  apply confined.storeAll
  intro entry listed
  obtain ⟨span, inTier, rfl⟩ := List.mem_map.mp listed
  exact ((mem_tier_iff_within positive).mp inTier).2

theorem Confined.fillTiers {lengths : List Nat} (confined : chart.Confined)
    (positive : ∀ length ∈ lengths, 0 < length) : (lengths.foldl fillTier chart).Confined := by
  induction lengths generalizing chart with
  | nil => exact confined
  | cons length rest induction =>
      obtain ⟨here, later⟩ := List.forall_mem_cons.mp positive
      exact induction (confined.storeTier here chart.derive) later

end Chart

end ChartParsing
