/-!
# Spans

A span covers a number of consecutive positions of an input.  Cutting it at an
offset gives two spans that cover it together.
-/

namespace ChartParsing

/-- The positions from `start` on, `length` of them. -/
structure Span where
  start : Nat
  length : Nat
  deriving DecidableEq, Repr

namespace Span

def stop (span : Span) : Nat :=
  span.start + span.length

/-- The first `offset` positions and the remaining ones. -/
def cut (span : Span) (offset : Nat) : Span × Span :=
  (⟨span.start, offset⟩, ⟨span.start + offset, span.length - offset⟩)

/-- The cuts at every offset, those with an empty half included. -/
def cuts (span : Span) : List (Span × Span) :=
  (List.range (span.length + 1)).map span.cut

def text (span : Span) : String :=
  s!"{span.start}+{span.length}"

/-- Whether a span stands no later than another one, by start and then by length. -/
def le (left right : Span) : Bool :=
  left.start < right.start || (left.start == right.start && left.length ≤ right.length)

def sort (spans : List Span) : List Span :=
  spans.mergeSort le

theorem stop_cut_right {span : Span} {offset : Nat} (inside : offset ≤ span.length) :
    (span.cut offset).2.stop = span.stop := by
  simp only [cut, stop]
  omega

end Span

end ChartParsing
