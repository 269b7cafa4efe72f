import Mathlib.Data.List.Sort
import ChartParsing.Proofs.Grammar.Naming

/-!
# A grammar is determined by its lists

Calls that find a name or a rule present change nothing, and every other call is
remembered in one of three lists: the names of nonterminals, the names of terminals and the
rules.  Indices and tables are filled in the order of these lists, whatever other calls
come in between.  So two constructions with the same lists have built the same grammar.
-/

namespace ChartParsing

namespace Numbering

variable {α : Type} [DecidableEq α] [Bucketed α]

/-- The numbering of some values in their order. -/
def ofList (room : Nat) (values : List α) : Numbering α :=
  values.foldl (fun numbering value => (numbering.insert value).2) (.empty room)

theorem ofList_concat (room : Nat) (values : List α) (value : α) :
    ofList room (values ++ [value]) = ((ofList room values).insert value).2 := by
  rw [ofList, List.foldl_append]
  rfl

/-- A numbering is that of its values. -/
def Listed (room : Nat) (numbering : Numbering α) : Prop :=
  numbering = ofList room numbering.toList

theorem Listed.append {room : Nat} {numbering : Numbering α} (listed : numbering.Listed room)
    {value : α} (fresh : numbering.position? value = none) :
    (numbering.append value fresh).Listed room := by
  rw [Listed, toList_append, ofList_concat, ← listed, insert_of_position?_eq_none fresh]

theorem Listed.eq {room : Nat} {first second : Numbering α} (listed : first.Listed room)
    (otherListed : second.Listed room) (same : first.toList = second.toList) : first = second := by
  rw [listed, otherListed, same]

end Numbering

namespace Grammar

/-- The table of the rules for terminals, entered in their order. -/
def terminalTable (rules : List Rule) : LookupTable Terminal :=
  rules.foldl (fun table rule =>
    match rule.rhs with
    | .terminal letter => table.add letter rule.lhs
    | .pair _ _ => table) .empty

/-- The table of the rules for pairs, entered in their order. -/
def pairTable (rules : List Rule) : LookupTable (Nonterminal × Nonterminal) :=
  rules.foldl (fun table rule =>
    match rule.rhs with
    | .terminal _ => table
    | .pair left right => table.add (left, right) rule.lhs) .empty

/-- Indices and tables are filled in the order of the lists. -/
structure Tabulated (grammar : Grammar) : Prop where
  nonterminals : grammar.nonterminals.Listed 63
  terminals : grammar.terminals.Listed 63
  rules : grammar.rules.Listed 63
  byTerminal : grammar.byTerminal = terminalTable grammar.rules.toList
  byPair : grammar.byPair = pairTable grammar.rules.toList

theorem tabulated_empty : empty.Tabulated :=
  ⟨rfl, rfl, rfl, rfl, rfl⟩

theorem Tabulated.enter {grammar : Grammar} (tabulated : grammar.Tabulated) {rule : Rule}
    (fresh : grammar.rules.position? rule = none) : (grammar.enter rule).Tabulated where
  nonterminals := tabulated.nonterminals
  terminals := tabulated.terminals
  rules := by
    rw [rules_enter fresh]
    exact tabulated.rules.append fresh
  byTerminal := by
    rw [rules_enter fresh, Numbering.toList_append, terminalTable, List.foldl_append,
      ← terminalTable, ← tabulated.byTerminal]
    rfl
  byPair := by
    rw [rules_enter fresh, Numbering.toList_append, pairTable, List.foldl_append,
      ← pairTable, ← tabulated.byPair]
    rfl

theorem Change.tabulated {before after : Grammar} (change : before.Change after)
    (tabulated : before.Tabulated) : after.Tabulated := by
  cases change with
  | nothing => exact tabulated
  | nonterminal fresh =>
      exact { tabulated with nonterminals := tabulated.nonterminals.append fresh }
  | terminal fresh => exact { tabulated with terminals := tabulated.terminals.append fresh }
  | rule fresh _ => exact tabulated.enter fresh

theorem Reachable.tabulated {grammar : Grammar} (reachable : grammar.Reachable) :
    grammar.Tabulated := by
  obtain ⟨calls, built⟩ := reachable
  exact Construction.performAll?_keeps (fun change => change.tabulated) tabulated_empty built

theorem WellFormed.ruleLists_eq {first second : Grammar} (formed : first.WellFormed)
    (otherFormed : second.WellFormed) (nonterminals : first.nonterminals = second.nonterminals)
    (rules : first.rules = second.rules) : first.ruleLists = second.ruleLists := by
  apply List.ext_getElem
  · rw [formed.listed, otherFormed.listed, nonterminalBound, nonterminalBound, nonterminals]
  · intro index inside otherInside
    have found : first.ruleNumbers? ⟨index⟩ = some first.ruleLists[index] :=
      List.getElem?_eq_getElem inside
    have otherFound : second.ruleNumbers? ⟨index⟩ = some second.ruleLists[index] :=
      List.getElem?_eq_getElem otherInside
    apply (formed.listsIncrease _ _ found).eq_of_mem_iff (otherFormed.listsIncrease _ _ otherFound)
    intro number
    rw [formed.memList _ _ found, otherFormed.memList _ _ otherFound, rule?, rule?, rules]

/-- Calls that lead to the same names and rules in the same order build
the same grammar. -/
theorem eq_of_toList {first second : Grammar} (reachable : first.Reachable)
    (otherReachable : second.Reachable)
    (nonterminals : first.nonterminals.toList = second.nonterminals.toList)
    (terminals : first.terminals.toList = second.terminals.toList)
    (rules : first.rules.toList = second.rules.toList) : first = second := by
  have tabulated := reachable.tabulated
  have otherTabulated := otherReachable.tabulated
  have sameNonterminals := tabulated.nonterminals.eq otherTabulated.nonterminals nonterminals
  have sameTerminals := tabulated.terminals.eq otherTabulated.terminals terminals
  have sameRules := tabulated.rules.eq otherTabulated.rules rules
  have sameLists :=
    reachable.wellFormed.ruleLists_eq otherReachable.wellFormed sameNonterminals sameRules
  have byTerminal : first.byTerminal = second.byTerminal := by
    rw [tabulated.byTerminal, otherTabulated.byTerminal, rules]
  have byPair : first.byPair = second.byPair := by
    rw [tabulated.byPair, otherTabulated.byPair, rules]
  cases first
  cases second
  cases sameNonterminals
  cases sameTerminals
  cases sameRules
  cases sameLists
  cases byTerminal
  cases byPair
  rfl

end Grammar

end ChartParsing
