import ChartParsing.Chart.Fill
import ChartParsing.Forest.Basic

/-!
# Extracting a forest from a chart

Starting from the root, nodes are expanded with a stack: the node mentioned last
is expanded next.  Expanding a node lists its derivations, and a child that is
mentioned for the first time gets the next identifier and joins the stack.  Each
node stands for a member of some cell, so there are no more expansions than
members of all cells together.
-/

namespace ChartParsing

/-- The pairings over a span that a nonterminal has a rule for. -/
def Chart.pairingsOf (chart : Chart) (item : Item) : List Pairing :=
  (chart.pairings item.span).filter fun pairing =>
    (chart.grammar.lhsForPair pairing.left pairing.right).contains item.nonterminal

/-- A forest under construction. -/
structure Extraction where
  items : Numbering Item
  /-- How each is derived; a branch without derivations until the node is expanded. -/
  kinds : Array NodeKind
  /-- The nodes not yet expanded, the one mentioned last in front. -/
  pending : List Nat
  /-- The nodes expanded, the latest in front. -/
  expanded : List Nat
  deriving DecidableEq, Repr

namespace Extraction

/-- Nothing is mentioned yet, and there is room for about so many items. -/
def empty (room : Nat) : Extraction :=
  ⟨.empty room, #[], [], []⟩

/-- The identifier of an item, which joins the stack if it is mentioned for
the first time. -/
def mention (state : Extraction) (item : Item) : Nat × Extraction :=
  match state.items.position? item with
  | some id => (id, state)
  | none =>
      let id := state.items.size
      (id, ⟨(state.items.insert item).2, state.kinds.push (.branch []), id :: state.pending,
        state.expanded⟩)

/-- The derivations that pairings over a span stand for, the left child mentioned before
the right one. -/
def mentionAll (span : Span) : List Pairing → Extraction → List Derivation × Extraction
  | [], state => ([], state)
  | pairing :: rest, state =>
      let halves := span.cut pairing.split
      let (left, state) := state.mention ⟨pairing.left, halves.1⟩
      let (right, state) := state.mention ⟨pairing.right, halves.2⟩
      let (later, state) := mentionAll span rest state
      (⟨pairing.split, left, right⟩ :: later, state)

def settle (state : Extraction) (id : Nat) (kind : NodeKind) : Extraction :=
  { state with
    kinds := state.kinds.setIfInBounds id kind
    expanded := id :: state.expanded }

/-- Expand a node.  There is no result for an unknown node, or for a single position
without a terminal. -/
def expand? (chart : Chart) (id : Nat) (state : Extraction) : Option Extraction := do
  let item ← state.items.get? id
  if item.span.length = 1 then
    let terminal ← chart.terminal? item.span.start
    return state.settle id (.leaf terminal)
  else
    let (derivations, state) := mentionAll item.span (chart.pairingsOf item) state
    return state.settle id (.branch derivations)

/-- Expand at most so many nodes, until none is pending. -/
def run? (chart : Chart) : Nat → Extraction → Option Extraction
  | _, ⟨items, kinds, [], expanded⟩ => some ⟨items, kinds, [], expanded⟩
  | 0, ⟨_, _, _ :: _, _⟩ => none
  | steps + 1, ⟨items, kinds, id :: pending, expanded⟩ => do
      let state ← expand? chart id ⟨items, kinds, pending, expanded⟩
      run? chart steps state

def toForest (state : Extraction) : Forest :=
  ⟨state.items, state.kinds, state.expanded.reverse⟩

end Extraction

/-- The forest of a nonterminal over the whole input, if the nonterminal derives it. -/
def Forest.extract? (chart : Chart) (start : Nonterminal) : Option Forest := do
  guard (chart.accepts start)
  let begun := ((Extraction.empty chart.cells.size).mention ⟨start, chart.span⟩).2
  let state ← Extraction.run? chart (chart.memberCount chart.spans) begun
  return state.toForest

end ChartParsing
