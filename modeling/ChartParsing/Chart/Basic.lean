import ChartParsing.Grammar.Basic
import ChartParsing.Span

/-!
# Charts

A chart records for every span of an input which nonterminals derive it.  The
cells stand in one array, row by row: a row for each start, and in it a slot for
each length from zero to that of the input.  The slots of length zero and those
that would reach past the end belong to no cell and stay empty.
-/

namespace ChartParsing

structure Chart where
  grammar : Grammar
  symbols : Array String
  /-- What stands between the symbols when they are joined into one text. -/
  separator : String
  /-- For each position the terminal there, if the grammar has it. -/
  terminals : Array (Option Terminal)
  /-- The sets of all slots. -/
  cells : Array NonterminalSet

structure CellEntry where
  span : Span
  text : String
  members : List Nonterminal
  deriving DecidableEq, Repr

namespace Chart

def size (chart : Chart) : Nat :=
  chart.symbols.size

def isEmpty (chart : Chart) : Bool :=
  chart.size == 0

/-- The slot of a start and a length, in rows for inputs of a given size. -/
def slot (size : Nat) (span : Span) : Nat :=
  span.start * (size + 1) + span.length

/-- The nonterminals that derive a span.  An empty span, or one that reaches past the
end of the input, is derived by none. -/
def cell (chart : Chart) (span : Span) : NonterminalSet :=
  if span.length = 0 ∨ chart.size < span.stop then
    .empty
  else
    chart.cells.getD (slot chart.size span) .empty

def span (chart : Chart) : Span :=
  ⟨0, chart.size⟩

def terminal? (chart : Chart) (position : Nat) : Option Terminal :=
  (chart.terminals[position]?).join

/-- The text of the symbols in a span, as far as it lies within the input. -/
def substring (chart : Chart) (span : Span) : String :=
  chart.separator.intercalate
    (chart.symbols.extract span.start (min span.stop chart.size)).toList

/-- Whether a nonterminal derives the whole input, which must not be empty. -/
def accepts (chart : Chart) (start : Nonterminal) : Bool :=
  !chart.isEmpty && (chart.cell chart.span).contains start

/-- The spans of the input with at least one position, by start and then by length. -/
def spans (chart : Chart) : List Span :=
  (List.range chart.size).flatMap fun start =>
    (List.range' 1 (chart.size - start)).map (Span.mk start)

def tier (chart : Chart) (length : Nat) : List Span :=
  (List.range (chart.size + 1 - length)).map fun start => ⟨start, length⟩

def entry (chart : Chart) (span : Span) : CellEntry :=
  ⟨span, chart.substring span, (chart.cell span).toList⟩

/-- The cells that are not empty, by start and then by length. -/
def dump (chart : Chart) : List CellEntry :=
  (chart.spans.filter fun span => !(chart.cell span).isEmpty).map chart.entry

/-- How many members the cells of some spans have in all. -/
def memberCount (chart : Chart) (spans : List Span) : Nat :=
  spans.foldr (fun span count => (chart.cell span).size + count) 0

/-- For each length from one on, how many members the cells of that length have in all. -/
def tierSizes (chart : Chart) : List Nat :=
  (List.range' 1 chart.size).map fun length => chart.memberCount (chart.tier length)

end Chart

end ChartParsing
