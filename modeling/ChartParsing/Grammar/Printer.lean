import ChartParsing.Grammar.Basic

/-!
# Grammars in writing

Symbols, rules and sets are written with the names of a grammar.  There is no
text exactly when something to be written has no name.
-/

namespace ChartParsing.Grammar

/-- A symbol by name, a terminal between single quotes. -/
def symbolText? (grammar : Grammar) : Symbol → Option String
  | .terminal letter => do
      let name ← grammar.terminalName? letter
      return s!"'{name}'"
  | .nonterminal nonterminal => grammar.nonterminalName? nonterminal

/-- A rule as its left-hand side, an arrow and the symbols of its right-hand side. -/
def ruleText? (grammar : Grammar) (rule : Rule) : Option String := do
  let lhs ← grammar.nonterminalName? rule.lhs
  let symbols ← rule.symbols.mapM grammar.symbolText?
  return " ".intercalate (lhs :: "->" :: symbols)

/-- A set as the names of its members between braces, in increasing order. -/
def setText? (grammar : Grammar) (set : NonterminalSet) : Option String := do
  let names ← set.toList.mapM grammar.nonterminalName?
  return "\x7b" ++ ", ".intercalate names ++ "\x7d"

end ChartParsing.Grammar
