import ChartParsing.Forest.Basic
import ChartParsing.Grammar.Printer
import ChartParsing.Log

/-!
# Reports on a forest

While a forest is extracted, each branch reports its number of derivations when
it is expanded, and at the end the number of nodes is reported.
-/

namespace ChartParsing.Forest

def nodeRecords? (grammar : Grammar) (forest : Forest) (id : Nat) :
    Option (List Log.Record) := do
  let node ← forest.node? id
  match node.kind with
  | .leaf _ => return []
  | .branch derivations =>
      let name ← grammar.nonterminalName? node.item.nonterminal
      return [⟨.trace,
        s!"{name} over {node.item.span.text} has {derivations.length} derivations"⟩]

/-- What is reported while a forest is extracted. -/
def log? (grammar : Grammar) (forest : Forest) : Option (List Log.Record) := do
  let nodes ← forest.order.mapM (forest.nodeRecords? grammar)
  let root ← forest.node? forest.root
  let name ← grammar.nonterminalName? root.item.nonterminal
  return nodes.flatten ++ [⟨.debug, s!"forest of {name} has {forest.size} nodes"⟩]

end ChartParsing.Forest
