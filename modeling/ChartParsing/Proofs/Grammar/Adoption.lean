import ChartParsing.Proofs.Grammar.Renaming

/-!
# Taking over another grammar

The names of one grammar are added to another one, and then its rules, each with the symbols that
have the same names there.  Numbers of the one grammar mean nothing in the other one, but what a
rule says by name is kept.
-/

namespace ChartParsing

namespace Numbering

variable {α : Type} [DecidableEq α] [Bucketed α] {first second : Numbering α}

theorem get?_counterpart (included : first.toList ⊆ second.toList) {number : Nat} {value : α}
    (found : first.get? number = some value) :
    second.get? (first.counterpart second number) = some value := by
  have member : value ∈ first.toList := by
    rw [get?_eq_getElem?] at found
    exact List.mem_of_getElem? found
  cases position : second.position? value with
  | none => exact absurd (included member) (position?_eq_none_iff.mp position)
  | some other =>
      rw [counterpart, found, Option.bind_some, position, Option.getD_some]
      exact get?_of_position? position

theorem get?_of_isPrefix (kept : first.toList <+: second.toList) {number : Nat} {value : α}
    (found : first.get? number = some value) : second.get? number = some value := by
  obtain ⟨rest, same⟩ := kept
  rw [get?_eq_getElem?] at found ⊢
  obtain ⟨inside, _⟩ := List.getElem?_eq_some_iff.mp found
  rw [← same, List.getElem?_append_left inside, found]

end Numbering

/-- The symbol of the same name in another grammar, if it has one there. -/
def Symbol.counterpart (first second : Grammar) : Symbol → Symbol
  | .terminal letter => .terminal (first.letterCounterpart second letter)
  | .nonterminal named => .nonterminal (first.counterpart second named)

def RightHandSide.counterpart (first second : Grammar) : RightHandSide → RightHandSide
  | .terminal letter => .terminal (first.letterCounterpart second letter)
  | .pair left right => .pair (first.counterpart second left) (first.counterpart second right)

/-- The rule with the symbols of the same names in another grammar. -/
def Rule.counterpart (first second : Grammar) (rule : Rule) : Rule :=
  ⟨first.counterpart second rule.lhs, rule.rhs.counterpart first second⟩

theorem RightHandSide.symbols_counterpart (first second : Grammar) (rhs : RightHandSide) :
    (rhs.counterpart first second).symbols = rhs.symbols.map (Symbol.counterpart first second) := by
  cases rhs <;> rfl

namespace Grammar

/-- The grammar with the names of another one. -/
def adoptNames (grammar other : Grammar) : Grammar :=
  other.terminals.toList.foldl (fun before name => (before.addTerminal name).2)
    (other.nonterminals.toList.foldl (fun before name => (before.addNonterminal name).2) grammar)

/-- The grammar with a rule of another one. -/
def adoptRule (other grammar : Grammar) (rule : Rule) : Except RuleError Grammar :=
  (grammar.addRule (rule.counterpart other grammar)).map Prod.snd

/-- The grammar with the names of another one, and then with its rules. -/
def adopt (grammar other : Grammar) : Except RuleError Grammar :=
  other.rules.toList.foldlM other.adoptRule (grammar.adoptNames other)

/-- The names of a grammar are names of another one. -/
structure NamesIn (first second : Grammar) : Prop where
  nonterminals : first.nonterminals.toList ⊆ second.nonterminals.toList
  terminals : first.terminals.toList ⊆ second.terminals.toList

variable {first second : Grammar}

theorem NamesIn.namedSymbol? (included : first.NamesIn second) {symbol : Symbol}
    {named : NamedSymbol} (read : first.namedSymbol? symbol = some named) :
    second.namedSymbol? (symbol.counterpart first second) = some named := by
  cases named with
  | nonterminal name =>
      obtain ⟨nonterminal, rfl, found⟩ := namedSymbol?_nonterminal_iff.mp read
      exact namedSymbol?_nonterminal_iff.mpr
        ⟨_, rfl, Numbering.get?_counterpart included.nonterminals found⟩
  | terminal name =>
      obtain ⟨letter, rfl, found⟩ := namedSymbol?_terminal_iff.mp read
      exact namedSymbol?_terminal_iff.mpr
        ⟨_, rfl, Numbering.get?_counterpart included.terminals found⟩

theorem NamesIn.namedRule? (included : first.NamesIn second) {rule : Rule} {named : NamedRule}
    (read : first.namedRule? rule = some named) :
    second.namedRule? (rule.counterpart first second) = some named := by
  obtain ⟨lhsNamed, spelled⟩ := namedRule?_eq_some_iff.mp read
  refine namedRule?_eq_some_iff.mpr
    ⟨Numbering.get?_counterpart included.nonterminals lhsNamed, ?_⟩
  rw [Rule.symbols, Rule.counterpart, RightHandSide.symbols_counterpart]
  exact List.forall₂_map_left_iff.mpr (spelled.imp fun _ _ found => included.namedSymbol? found)

theorem keepsNames_of_isPrefix
    (nonterminals : first.nonterminals.toList <+: second.nonterminals.toList)
    (terminals : first.terminals.toList <+: second.terminals.toList) : first.KeepsNames second :=
  ⟨Numbering.get?_of_isPrefix nonterminals, Numbering.get?_of_isPrefix terminals⟩

theorem addProduction_symbols (grammar : Grammar) (rule : Rule) :
    grammar.addProduction rule.lhs rule.symbols = grammar.addRule rule := by
  rw [addProduction, Rule.symbols, RightHandSide.ofSymbols_symbols]

end Grammar

end ChartParsing
