import ChartParsing.Grammar.Basic

/-!
# Useful nonterminals

A nonterminal is productive if it derives some sequence of terminals, and
reachable if it occurs in something that the start symbol derives.  What
is not both contributes to no accepted input.  Both sets are found by marking:
productive nonterminals in rounds, reachable ones with a stack.
-/

namespace ChartParsing

/-- What an analysis of a grammar from a start symbol finds. -/
structure Usefulness where
  /-- The nonterminals that derive some sequence of terminals. -/
  productive : NonterminalSet
  /-- The nonterminals that occur in something the start symbol derives. -/
  reachable : NonterminalSet
  bound : Nat
  deriving DecidableEq, Repr

namespace Usefulness

def isProductive (found : Usefulness) (nonterminal : Nonterminal) : Bool :=
  found.productive.contains nonterminal

def isReachable (found : Usefulness) (nonterminal : Nonterminal) : Bool :=
  found.reachable.contains nonterminal

def useless (found : Usefulness) : List Nonterminal :=
  ((List.range found.bound).map Nonterminal.mk).filter fun nonterminal =>
    !found.isProductive nonterminal || !found.isReachable nonterminal

/-! ## Productive nonterminals -/

/-- For each nonterminal, the left-hand sides of the rules that mention it. -/
abbrev Dependents := List NonterminalSet

/-- Note that the rules of `lhs` mention a nonterminal, unless it is out of range. -/
def noteMention (lhs : Nonterminal) (table : Dependents) (mentioned : Nonterminal) :
    Option Dependents :=
  if mentioned.index < table.length then
    some (table.modify mentioned.index (·.insert lhs))
  else
    none

def noteRule (table : Dependents) (rule : Rule) : Option Dependents :=
  rule.nonterminals.foldlM (noteMention rule.lhs) table

/-- The dependents of every nonterminal, unless a rule mentions one without a name. -/
def dependents? (grammar : Grammar) : Option Dependents :=
  grammar.rules.toList.foldlM noteRule
    (List.replicate grammar.nonterminalBound NonterminalSet.empty)

def leftHandSides (grammar : Grammar) : NonterminalSet :=
  .unions (grammar.rules.toList.map fun rule => NonterminalSet.empty.insert rule.lhs)

/-- The nonterminals marked so far, and those to look at in the next round. -/
structure Marking where
  productive : NonterminalSet
  next : NonterminalSet
  deriving DecidableEq, Repr

/-- Whether all nonterminals of some rule of a nonterminal are marked. -/
def hasMarkedRule (grammar : Grammar) (marked : NonterminalSet) (nonterminal : Nonterminal) :
    Bool :=
  ((grammar.rulesFor? nonterminal).getD []).any fun rule =>
    rule.nonterminals.all marked.contains

/-- Look at one nonterminal: mark it if a rule allows, and then look at its dependents in
the next round. -/
def examine (grammar : Grammar) (table : Dependents) (marking : Marking)
    (current : Nonterminal) : Marking :=
  if marking.productive.contains current then
    marking
  else if hasMarkedRule grammar marking.productive current then
    ⟨marking.productive.insert current,
      marking.next.union ((table[current.index]?).getD .empty)⟩
  else
    marking

def markRound (grammar : Grammar) (table : Dependents) (marked update : NonterminalSet) :
    Marking :=
  update.toList.foldl (examine grammar table) ⟨marked, .empty⟩

/-- At most so many rounds, until there is nothing left to look at. -/
def markRounds (grammar : Grammar) (table : Dependents) :
    Nat → NonterminalSet → NonterminalSet → NonterminalSet
  | 0, marked, _ => marked
  | rounds + 1, marked, update =>
      if update.isEmpty then
        marked
      else
        let after := markRound grammar table marked update
        markRounds grammar table rounds after.productive after.next

/-- The productive nonterminals, unless a rule mentions a nonterminal without a name.
Every round but the last marks a nonterminal, which bounds their number. -/
def productive? (grammar : Grammar) : Option NonterminalSet := do
  let table ← dependents? grammar
  return markRounds grammar table (grammar.nonterminalBound + 1) .empty (leftHandSides grammar)

/-! ## Reachable nonterminals -/

/-- The nonterminals reached so far, and those whose rules are still to be followed. -/
structure Search where
  reached : NonterminalSet
  pending : List Nonterminal
  deriving DecidableEq, Repr

/-- Reach a nonterminal; only one that is new is followed later. -/
def Search.visit (search : Search) (nonterminal : Nonterminal) : Search :=
  if search.reached.contains nonterminal then
    search
  else
    ⟨search.reached.insert nonterminal, nonterminal :: search.pending⟩

def Search.begin (start : Nonterminal) : Search :=
  ⟨NonterminalSet.empty.insert start, [start]⟩

/-- Follow at most so many pending nonterminals, the last reached first.  There is no
result if one of them has no name. -/
def Search.run (grammar : Grammar) : Nat → Search → Option NonterminalSet
  | _, ⟨reached, []⟩ => some reached
  | 0, ⟨_, _ :: _⟩ => none
  | steps + 1, ⟨reached, current :: pending⟩ => do
      let rules ← grammar.rulesFor? current
      Search.run grammar steps
        ((rules.flatMap Rule.nonterminals).foldl Search.visit ⟨reached, pending⟩)

/-- The nonterminals reachable from a start symbol, if that has a name.  Each is followed
once, which bounds the number of steps. -/
def reachable? (grammar : Grammar) (start : Nonterminal) : Option NonterminalSet :=
  if start.index < grammar.nonterminalBound then
    Search.run grammar grammar.nonterminalBound (Search.begin start)
  else
    none

/-- The useful nonterminals of a grammar, unless the start symbol or a nonterminal in a
rule has no name. -/
def analyse? (grammar : Grammar) (start : Nonterminal) : Option Usefulness := do
  let productive ← productive? grammar
  let reachable ← reachable? grammar start
  return ⟨productive, reachable, grammar.nonterminalBound⟩

end Usefulness

end ChartParsing
