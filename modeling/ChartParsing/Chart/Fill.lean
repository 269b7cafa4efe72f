import ChartParsing.Chart.Basic

/-!
# Filling a chart

The cells of single positions come from the terminals there.  A longer span is
derived by whatever has a rule for a nonterminal of the first part followed by
one of the second part, for some cut into two parts.  Both parts are shorter, so
the cells are filled length by length.
-/

namespace ChartParsing

/-- A way to cover a span: the length of the first part, and a nonterminal
for each part. -/
structure Pairing where
  split : Nat
  left : Nonterminal
  right : Nonterminal
  deriving DecidableEq, Repr

namespace Chart

/-- The pairings over one cut of a span, by left and then by right nonterminal. -/
def pairingsAt (chart : Chart) (span : Span) (offset : Nat) : List Pairing :=
  let rights := (chart.cell (span.cut offset).2).toList
  (chart.cell (span.cut offset).1).toList.flatMap fun left =>
    rights.map fun right => ⟨offset, left, right⟩

/-- The ways to cover a span by two cells of the chart, by cut and
then by nonterminals. -/
def pairings (chart : Chart) (span : Span) : List Pairing :=
  (List.range' 1 (span.length - 1)).flatMap (chart.pairingsAt span)

/-- The nonterminals with a rule for some pairing over a span. -/
def derive (chart : Chart) (span : Span) : NonterminalSet :=
  .unions ((chart.pairings span).map fun pairing =>
    chart.grammar.lhsForPair pairing.left pairing.right)

def store (chart : Chart) (span : Span) (set : NonterminalSet) : Chart :=
  { chart with cells := chart.cells.setIfInBounds (slot chart.size span) set }

/-- Store sets that were all computed before the first of them is stored. -/
def storeAll (chart : Chart) (sets : List (Span × NonterminalSet)) : Chart :=
  sets.foldl (fun chart (span, set) => chart.store span set) chart

def blank (grammar : Grammar) (symbols : Array String) (separator : String) : Chart where
  grammar := grammar
  symbols := symbols
  separator := separator
  terminals := symbols.map grammar.terminal?
  cells := Array.replicate (symbols.size * (symbols.size + 1)) .empty

def deriveLeaf (chart : Chart) (position : Nat) : NonterminalSet :=
  match chart.terminal? position with
  | some terminal => chart.grammar.lhsForTerminal terminal
  | none => .empty

def fillLeaves (chart : Chart) : Chart :=
  chart.storeAll ((chart.tier 1).map fun span => (span, chart.deriveLeaf span.start))

def fillTier (chart : Chart) (length : Nat) : Chart :=
  chart.storeAll ((chart.tier length).map fun span => (span, chart.derive span))

def fill (grammar : Grammar) (symbols : Array String) (separator : String) : Chart :=
  (List.range' 2 (symbols.size - 1)).foldl fillTier (blank grammar symbols separator).fillLeaves

/-- The chart of a sequence of symbols, which are shown with spaces between them. -/
def ofTokens (grammar : Grammar) (tokens : List String) : Chart :=
  fill grammar tokens.toArray " "

/-- The chart of a text, in which every character is a symbol. -/
def ofText (grammar : Grammar) (text : String) : Chart :=
  fill grammar (text.toList.map String.singleton).toArray ""

end Chart

end ChartParsing
