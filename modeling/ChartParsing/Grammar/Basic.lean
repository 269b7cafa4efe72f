import ChartParsing.LookupTable
import ChartParsing.Numbering
import ChartParsing.Rule

/-!
# Grammars

A grammar numbers the names of its nonterminals, the names of its terminals and
its rules, each in order of arrival.  Beside the rules it keeps what parsing and
analysis ask for: the rules of each nonterminal, and for each right-hand side
the nonterminals that have a rule for it.
-/

namespace ChartParsing

/-- A grammar in normal form. -/
structure Grammar where
  nonterminals : Numbering String
  terminals : Numbering String
  rules : Numbering Rule
  /-- For each nonterminal, the numbers of its rules. -/
  ruleLists : List (List Nat)
  /-- For each terminal, the nonterminals that have a rule for it. -/
  byTerminal : LookupTable Terminal
  /-- For each pair of nonterminals, the nonterminals that have a rule for it. -/
  byPair : LookupTable (Nonterminal × Nonterminal)
  deriving DecidableEq, Repr

namespace Grammar

def empty : Grammar :=
  ⟨.empty 63, .empty 63, .empty 63, [], .empty, .empty⟩

/-! ## Looking things up -/

def nonterminalBound (grammar : Grammar) : Nat :=
  grammar.nonterminals.size

def terminalBound (grammar : Grammar) : Nat :=
  grammar.terminals.size

def nonterminal? (grammar : Grammar) (name : String) : Option Nonterminal :=
  (grammar.nonterminals.position? name).map Nonterminal.mk

def terminal? (grammar : Grammar) (name : String) : Option Terminal :=
  (grammar.terminals.position? name).map Terminal.mk

def nonterminalName? (grammar : Grammar) (nonterminal : Nonterminal) : Option String :=
  grammar.nonterminals.get? nonterminal.index

def terminalName? (grammar : Grammar) (terminal : Terminal) : Option String :=
  grammar.terminals.get? terminal.index

def rule? (grammar : Grammar) (number : Nat) : Option Rule :=
  grammar.rules.get? number

/-- The numbers of the rules of a nonterminal, unless it has no name. -/
def ruleNumbers? (grammar : Grammar) (nonterminal : Nonterminal) : Option (List Nat) :=
  grammar.ruleLists[nonterminal.index]?

def rulesFor? (grammar : Grammar) (nonterminal : Nonterminal) : Option (List Rule) := do
  let numbers ← grammar.ruleNumbers? nonterminal
  numbers.mapM grammar.rule?

/-- The nonterminals that derive a terminal in one step. -/
def lhsForTerminal (grammar : Grammar) (terminal : Terminal) : NonterminalSet :=
  grammar.byTerminal.lookup terminal

/-- The nonterminals that derive a pair of nonterminals in one step. -/
def lhsForPair (grammar : Grammar) (left right : Nonterminal) : NonterminalSet :=
  grammar.byPair.lookup (left, right)

/-! ## Adding names -/

/-- The nonterminal of a name, new if the name is, and the grammar that has it. -/
def addNonterminal (grammar : Grammar) (name : String) : Nonterminal × Grammar :=
  match grammar.nonterminal? name with
  | some nonterminal => (nonterminal, grammar)
  | none =>
      (⟨grammar.nonterminalBound⟩,
        { grammar with
          nonterminals := (grammar.nonterminals.insert name).2
          ruleLists := grammar.ruleLists ++ [[]] })

/-- The terminal of a name, new if the name is, and the grammar that has it. -/
def addTerminal (grammar : Grammar) (name : String) : Terminal × Grammar :=
  let (index, terminals) := grammar.terminals.insert name
  (⟨index⟩, { grammar with terminals := terminals })

/-! ## Adding rules -/

/-- The grammar after a rule that it does not have yet. -/
def enter (grammar : Grammar) (rule : Rule) : Grammar :=
  { grammar with
    rules := (grammar.rules.insert rule).2
    ruleLists := grammar.ruleLists.modify rule.lhs.index (· ++ [grammar.rules.size])
    byTerminal :=
      match rule.rhs with
      | .terminal letter => grammar.byTerminal.add letter rule.lhs
      | .pair _ _ => grammar.byTerminal
    byPair :=
      match rule.rhs with
      | .terminal _ => grammar.byPair
      | .pair left right => grammar.byPair.add (left, right) rule.lhs }

/-- The number of a rule, new if the rule is, and the grammar that has it.  The left-hand
side must have a name; the symbols of the right-hand side may get theirs later. -/
def addRule (grammar : Grammar) (rule : Rule) : Except RuleError (Nat × Grammar) :=
  match grammar.rules.position? rule with
  | some number => .ok (number, grammar)
  | none =>
      if rule.lhs.index < grammar.ruleLists.length then
        .ok (grammar.rules.size, grammar.enter rule)
      else
        .error (.unnamed rule.lhs)

/-- The name of a nonterminal that an error mentions. -/
def nameFor (grammar : Grammar) (nonterminal : Nonterminal) : Except RuleError String :=
  match grammar.nonterminalName? nonterminal with
  | some name => .ok name
  | none => .error (.unnamed nonterminal)

/-- The error for a right-hand side that does not fit, with nonterminals by name. -/
def misfitError (grammar : Grammar) (lhs : Nonterminal) (misfit : Misfit) : RuleError :=
  match grammar.nameFor lhs with
  | .error unnamed => unnamed
  | .ok name =>
      match misfit with
      | .empty => .emptyRule name
      | .unit nonterminal =>
          match grammar.nameFor nonterminal with
          | .error unnamed => unnamed
          | .ok other => .unitRule name other
      | .terminalInPair => .terminalInPair name
      | .tooMany count => .tooManySymbols name count

/-- Add the rule that replaces a nonterminal by a sequence of symbols, if the sequence
fits the normal form. -/
def addProduction (grammar : Grammar) (lhs : Nonterminal) (symbols : List Symbol) :
    Except RuleError (Nat × Grammar) :=
  match RightHandSide.ofSymbols symbols with
  | .ok rhs => grammar.addRule ⟨lhs, rhs⟩
  | .error misfit => .error (grammar.misfitError lhs misfit)

end Grammar

end ChartParsing
