import ChartParsing.Chart.Basic

/-!
# Charts asked in machine words

Whoever asks a chart for a cell, or for a part of its input, gives the start and the
length as words of 64 bits.  What they are compared with is computed from words too, and
a sum or a product that is too large for a word starts again at zero.
-/

namespace ChartParsing

/-- A start and a length as they are asked for. -/
structure WordSpan where
  start : UInt64
  length : UInt64
  deriving DecidableEq, Repr

namespace WordSpan

/-- The span of the numbers that the words stand for. -/
def toSpan (span : WordSpan) : Span :=
  ⟨span.start.toNat, span.length.toNat⟩

def stop (span : WordSpan) : UInt64 :=
  span.start + span.length

end WordSpan

namespace Chart

def wordSlot (size : UInt64) (span : WordSpan) : UInt64 :=
  span.start * (size + 1) + span.length

/-- The answer to a question for the cell of a span.  There is none if what was computed
is not the place of a slot. -/
def cellAt? (chart : Chart) (span : WordSpan) : Option NonterminalSet :=
  if span.length = 0 ∨ chart.size < span.stop.toNat then
    some .empty
  else
    chart.cells[(wordSlot (.ofNat chart.size) span).toNat]?

/-- The answer to a question for the text of a span. -/
def substringAt (chart : Chart) (span : WordSpan) : String :=
  chart.separator.intercalate
    (chart.symbols.extract span.start.toNat (min span.stop.toNat chart.size)).toList

end Chart

end ChartParsing
