import ChartParsing.Chart.Basic
import ChartParsing.Grammar.Printer
import ChartParsing.Log

/-!
# Charts in writing

A chart is written as its non-empty cells, one a line.  While it is filled, each
non-empty cell of two positions or more is reported, and at the end how many
cells hold something.
-/

namespace ChartParsing.Chart

/-- The line for a cell: its span, the text there in quotes, and its members. -/
def entryText? (chart : Chart) (entry : CellEntry) : Option String := do
  let names ← entry.members.mapM chart.grammar.nonterminalName?
  return s!"{entry.span.text} \"{entry.text}\": \x7b" ++ ", ".intercalate names ++ "\x7d"

/-- The non-empty cells, one a line. -/
def text? (chart : Chart) : Option String := do
  let lines ← chart.dump.mapM chart.entryText?
  return if lines.isEmpty then "<empty>" else "\n".intercalate lines

def occupied (chart : Chart) : Nat :=
  chart.cells.toList.countP fun set => !set.isEmpty

def cellRecord? (chart : Chart) (span : Span) : Option Log.Record := do
  let members ← chart.grammar.setText? (chart.cell span)
  return ⟨.trace, s!"cell {span.text}: {members}"⟩

/-- What is reported while the chart is filled. -/
def log? (chart : Chart) : Option (List Log.Record) := do
  let spans := (List.range' 2 (chart.size - 1)).flatMap chart.tier
  let cells ← (spans.filter fun span => !(chart.cell span).isEmpty).mapM chart.cellRecord?
  return cells ++
    [⟨.debug, s!"filled chart for {chart.size} symbols, {chart.occupied} non-empty cells"⟩]

end ChartParsing.Chart
