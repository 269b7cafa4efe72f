import Mathlib.Data.List.Basic
import ChartParsing.Proofs.Chart.Membership

/-!
# Charts of a part of an input

What a cell holds depends on the symbols of its span and on nothing around them.  So the
chart of a part of an input is found again within the chart of the whole: each of its
cells, each of its terminals, and for a text also the part itself, as the substring there.
-/

namespace ChartParsing

namespace Span

/-- The same number of positions, so many further on. -/
def shift (offset : Nat) (span : Span) : Span :=
  ⟨offset + span.start, span.length⟩

@[simp] theorem shift_start (offset : Nat) (span : Span) :
    (span.shift offset).start = offset + span.start :=
  rfl

@[simp] theorem shift_length (offset : Nat) (span : Span) :
    (span.shift offset).length = span.length :=
  rfl

theorem shift_injective (offset : Nat) : Function.Injective (shift offset) := by
  intro first second same
  cases first
  cases second
  simpa [shift] using same

variable {part span : Span} {size : Nat}

theorem shift_cut_left (offset place : Nat) (span : Span) :
    ((span.shift offset).cut place).1 = (span.cut place).1.shift offset :=
  rfl

theorem shift_cut_right (offset place : Nat) (span : Span) :
    ((span.shift offset).cut place).2 = (span.cut place).2.shift offset := by
  simp only [cut, shift, Nat.add_assoc]

theorem Within.shift (within : span.Within part.length) (inside : part.stop ≤ size) :
    (span.shift part.start).Within size := by
  obtain ⟨positive, short⟩ := within
  simp only [stop] at short inside
  exact ⟨positive, by simp only [stop, shift_start, shift_length]; omega⟩

theorem slice_slice {α : Type} (short : span.stop ≤ part.length) (values : List α) :
    span.slice (part.slice values) = (span.shift part.start).slice values := by
  simp only [stop] at short
  rw [slice, slice, slice, List.drop_take, List.drop_drop, List.take_take, shift_start,
    shift_length, Nat.min_eq_left (by omega)]

theorem toList_extract {α : Type} (values : Array α) (part : Span) :
    (values.extract part.start part.stop).toList = part.slice values.toList := by
  rw [Array.toList_extract, List.extract_eq_take_drop, slice, stop, Nat.add_sub_cancel_left]

theorem size_extract {α : Type} {values : Array α} (inside : part.stop ≤ values.size) :
    (values.extract part.start part.stop).size = part.length := by
  rw [Array.size_extract, Nat.min_eq_left inside, stop, Nat.add_sub_cancel_left]

end Span

namespace Chart

variable {grammar : Grammar} {symbols : Array String} {separator : String} {part span : Span}

/-- A cell of the chart of a part is the cell of the same symbols in the chart
of the whole. -/
theorem cell_extract (separator : String) (formed : grammar.WellFormed)
    (inside : part.stop ≤ symbols.size) (short : span.stop ≤ part.length) :
    (fill grammar (symbols.extract part.start part.stop) separator).cell span =
      (fill grammar symbols separator).cell (span.shift part.start) := by
  by_cases empty : span.length = 0
  · have nowhere : ∀ size, ¬span.Within size := fun size within =>
      Nat.ne_of_gt within.positive empty
    have nowhereShifted : ∀ size, ¬(span.shift part.start).Within size := fun size within =>
      Nat.ne_of_gt within.positive empty
    rw [cell_of_not_within (nowhere _), cell_of_not_within (nowhereShifted _)]
  · have within : span.Within part.length := ⟨Nat.pos_of_ne_zero empty, short⟩
    have partWithin : span.Within (symbols.extract part.start part.stop).size :=
      Span.size_extract inside ▸ within
    apply NonterminalSet.ext
    intro nonterminal
    rw [mem_cell_iff_exists_tree separator formed partWithin,
      mem_cell_iff_exists_tree separator formed (within.shift inside), Span.toList_extract,
      Span.slice_slice short]

theorem terminal?_extract {position : Nat} (inside : part.stop ≤ symbols.size)
    (short : position < part.length) :
    (fill grammar (symbols.extract part.start part.stop) separator).terminal? position =
      (fill grammar symbols separator).terminal? (part.start + position) := by
  have partInside : position < (symbols.extract part.start part.stop).size :=
    Span.size_extract inside ▸ short
  have wholeInside : part.start + position < symbols.size := by
    simp only [Span.stop] at inside
    omega
  rw [terminal?_fill partInside, terminal?_fill wholeInside, Array.getElem_extract]

/-- The pairings of a part are those of the same symbols in the whole, in
the same order. -/
theorem pairings_extract (separator : String) (formed : grammar.WellFormed)
    (inside : part.stop ≤ symbols.size) (short : span.stop ≤ part.length) :
    (fill grammar (symbols.extract part.start part.stop) separator).pairings span =
      (fill grammar symbols separator).pairings (span.shift part.start) := by
  apply List.flatMap_congr
  intro offset among
  have cutShort : offset ≤ span.length := by
    have bounds := List.mem_range'_1.mp among
    omega
  have leftShort : (span.cut offset).1.stop ≤ part.length := by
    simp only [Span.stop, Span.cut] at short ⊢
    omega
  have rightShort : (span.cut offset).2.stop ≤ part.length := by
    rw [Span.stop_cut_right cutShort]
    exact short
  rw [pairingsAt, pairingsAt, Span.shift_cut_left, Span.shift_cut_right,
    cell_extract separator formed inside leftShort,
    cell_extract separator formed inside rightShort]

theorem separator_fill : (fill grammar symbols separator).separator = separator :=
  (sameInput_fill grammar symbols separator).separator

theorem intercalate_singletons (letters : List Char) :
    "".intercalate (letters.map String.singleton) = String.ofList letters := by
  apply String.toList_injective
  rw [String.toList_intercalate, List.map_map, String.toList_ofList (l := letters)]
  induction letters with
  | nil => rfl
  | cons letter rest induction =>
      cases rest with
      | nil => simp
      | cons next later =>
          rw [List.map_cons, List.map_cons, List.intercalate_cons_cons, ← List.map_cons, induction]
          simp

/-- The text of a span of a text, read on its own, has the chart of that part. -/
theorem ofText_substring (grammar : Grammar) (text : String)
    (inside : part.stop ≤ text.toList.length) :
    ofText grammar ((ofText grammar text).substring part) =
      fill grammar
        ((text.toList.map String.singleton).toArray.extract part.start part.stop) "" := by
  have same : (ofText grammar text).substring part = String.ofList (part.slice text.toList) := by
    rw [ofText, substring, separator_fill, symbols_fill, size_fill, List.size_toArray,
      List.length_map, Nat.min_eq_left inside, Span.toList_extract, Span.slice, ← List.map_drop,
      ← List.map_take, intercalate_singletons, Span.slice]
  rw [same, ofText, String.toList_ofList]
  congr 1
  apply Array.toList_inj.mp
  rw [Span.toList_extract, Span.slice, Span.slice, List.map_take, List.map_drop]

end Chart

end ChartParsing
