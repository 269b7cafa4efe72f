/-!
# Symbols

Nonterminals and terminals are known by number, in two separate namespaces.  A
symbol is one or the other; terminals come before nonterminals, and symbols of
one kind are ordered by number.
-/

namespace ChartParsing

/-- A nonterminal, known by its number. -/
structure Nonterminal where
  index : Nat
  deriving DecidableEq, Repr

/-- A terminal, known by its number. -/
structure Terminal where
  index : Nat
  deriving DecidableEq, Repr

inductive Symbol where
  | terminal (terminal : Terminal)
  | nonterminal (nonterminal : Nonterminal)
  deriving DecidableEq, Repr

/-- Whether a symbol stands no later than another one. -/
def Symbol.le : Symbol → Symbol → Bool
  | .terminal left, .terminal right => left.index ≤ right.index
  | .terminal _, .nonterminal _ => true
  | .nonterminal _, .terminal _ => false
  | .nonterminal left, .nonterminal right => left.index ≤ right.index

def Symbol.sort (symbols : List Symbol) : List Symbol :=
  symbols.mergeSort Symbol.le

end ChartParsing
