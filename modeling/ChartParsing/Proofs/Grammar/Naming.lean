import Mathlib.Data.List.Forall2
import Mathlib.Data.List.Induction
import ChartParsing.Proofs.Grammar.Representation

/-!
# Rules by name

Numbers depend on the order in which a grammar was built; names do not.  A rule
whose symbols all have names is read by these names, and no two rules of a
grammar are read alike.  What is read stays the same while the grammar grows.
-/

namespace ChartParsing

inductive NamedSymbol where
  | nonterminal (name : String)
  | terminal (name : String)
  deriving DecidableEq, Repr

structure NamedRule where
  lhs : String
  symbols : List NamedSymbol
  deriving DecidableEq, Repr

/-- The right-hand side is one terminal or two nonterminals. -/
def NamedRule.InNormalForm (rule : NamedRule) : Prop :=
  (∃ name, rule.symbols = [.terminal name]) ∨
    ∃ left right, rule.symbols = [.nonterminal left, .nonterminal right]

/-- The reason for which a rule is refused, by the shape of its right-hand side. -/
inductive NamedRule.Refused : NamedRule → RuleError → Prop where
  | empty (lhs : String) : Refused ⟨lhs, []⟩ (.emptyRule lhs)
  | unit (lhs rhs : String) : Refused ⟨lhs, [.nonterminal rhs]⟩ (.unitRule lhs rhs)
  | terminalInPair (lhs name : String) {first second : NamedSymbol} :
      .terminal name ∈ [first, second] → Refused ⟨lhs, [first, second]⟩ (.terminalInPair lhs)
  | tooMany (lhs : String) {symbols : List NamedSymbol} :
      2 < symbols.length → Refused ⟨lhs, symbols⟩ (.tooManySymbols lhs symbols.length)

theorem NamedRule.Refused.not_inNormalForm {rule : NamedRule} {cause : RuleError}
    (refused : rule.Refused cause) : ¬rule.InNormalForm := by
  intro normal
  cases refused with
  | empty lhs => simp [InNormalForm] at normal
  | unit lhs rhs => simp [InNormalForm] at normal
  | terminalInPair lhs name member =>
      rcases normal with ⟨other, single⟩ | ⟨left, right, pair⟩
      · cases single
      · cases pair
        simp at member
  | tooMany lhs long =>
      rcases normal with ⟨name, single⟩ | ⟨left, right, pair⟩
      · cases single
        simp at long
      · cases pair
        simp at long

/-! ## Lists without repetitions -/

theorem eraseDups_concat {α : Type} [DecidableEq α] (values : List α) (value : α) :
    (values ++ [value]).eraseDups =
      if value ∈ values then values.eraseDups else values.eraseDups ++ [value] := by
  rw [List.eraseDups_append]
  by_cases member : value ∈ values
  · simp [List.removeAll, member]
  · simp [List.removeAll, member, List.eraseDups_cons]

theorem eraseDups_filter {α : Type} [DecidableEq α] (keep : α → Bool) (values : List α) :
    (values.filter keep).eraseDups = values.eraseDups.filter keep := by
  induction values using List.reverseRecOn with
  | nil => rfl
  | append_singleton values value induction =>
      by_cases kept : keep value = true
      · by_cases member : value ∈ values
        · simp [eraseDups_concat, kept, member, induction]
        · simp [eraseDups_concat, kept, member, induction]
      · by_cases member : value ∈ values
        · simp [eraseDups_concat, kept, member, induction]
        · simp [eraseDups_concat, kept, member, induction]

theorem eraseDups_eraseDups {α : Type} [DecidableEq α] (values : List α) :
    values.eraseDups.eraseDups = values.eraseDups := by
  induction values using List.reverseRecOn with
  | nil => rfl
  | append_singleton values value induction =>
      rw [eraseDups_concat]
      split
      · exact induction
      · next absent =>
          rw [eraseDups_concat, if_neg (mt List.mem_eraseDups.mp absent), induction]

theorem eraseDups_append {α : Type} [DecidableEq α] (first second : List α) :
    (first ++ second).eraseDups =
      first.eraseDups ++ second.eraseDups.filter (· ∉ first.eraseDups) := by
  have fresh : second.removeAll first = second.filter (· ∉ first.eraseDups) := by
    simp [List.removeAll]
  rw [List.eraseDups_append, fresh, eraseDups_filter]

theorem eraseDups_append_eraseDups {α : Type} [DecidableEq α] (first second : List α) :
    (first ++ second.eraseDups).eraseDups = (first ++ second).eraseDups := by
  rw [eraseDups_append, eraseDups_append, eraseDups_eraseDups]

theorem mapM_eq_some_iff {α β : Type} {read : α → Option β} {values : List α} {results : List β} :
    values.mapM read = some results ↔
      List.Forall₂ (fun value result => read value = some result) values results := by
  induction values generalizing results with
  | nil => simp [eq_comm]
  | cons value rest induction =>
      rw [List.mapM_cons, List.forall₂_cons_left_iff]
      simp only [Option.bind_eq_bind, Option.bind_eq_some_iff, Option.pure_def,
        Option.some.injEq, induction]
      constructor
      · intro ⟨result, found, results, later, same⟩
        exact ⟨result, results, found, later, same.symm⟩
      · intro ⟨result, results, found, later, same⟩
        exact ⟨result, found, results, later, same.symm⟩

theorem exists_of_mem_left {α β : Type} {related : α → β → Prop} {left : List α} {right : List β}
    (all : List.Forall₂ related left right) {value : α} (member : value ∈ left) :
    ∃ other ∈ right, related value other := by
  induction all with
  | nil => cases member
  | cons here _ induction =>
      cases member with
      | head => exact ⟨_, List.mem_cons_self, here⟩
      | tail _ later =>
          obtain ⟨other, found, holds⟩ := induction later
          exact ⟨other, List.mem_cons_of_mem _ found, holds⟩

namespace Numbering

variable {α : Type} [DecidableEq α] [Bucketed α]

theorem toList_insert (numbering : Numbering α) (value : α) :
    (numbering.insert value).2.toList =
      if value ∈ numbering.toList then numbering.toList else numbering.toList ++ [value] := by
  cases found : numbering.position? value with
  | none =>
      have absent := position?_eq_none_iff.mp found
      rw [insert_of_position?_eq_none found, toList_append, if_neg absent]
  | some number =>
      have present : value ∈ numbering.toList := by
        have named := get?_of_position? found
        rw [get?_eq_getElem?] at named
        exact List.mem_of_getElem? named
      rw [insert_of_position? found, if_pos present]

/-- Values that are read alike only if they are equal keep the order in which what is read
first occurs. -/
theorem forall₂_insert {β : Type} [DecidableEq β] {read : α → Option β}
    (injective : ∀ {first second : α} {result : β},
      read first = some result → read second = some result → first = second)
    {numbering : Numbering α} {results : List β}
    (all : List.Forall₂ (fun value result => read value = some result) numbering.toList
      results.eraseDups) {value : α} {result : β} (found : read value = some result) :
    List.Forall₂ (fun value result => read value = some result)
      (numbering.insert value).2.toList (results ++ [result]).eraseDups := by
  have agree : value ∈ numbering.toList ↔ result ∈ results := by
    constructor
    · intro member
      obtain ⟨other, inResults, same⟩ := exists_of_mem_left all member
      cases found.symm.trans same
      exact List.mem_eraseDups.mp inResults
    · intro member
      obtain ⟨other, inValues, same⟩ :=
        exists_of_mem_left all.flip (List.mem_eraseDups.mpr member)
      cases injective found same
      exact inValues
  rw [toList_insert, eraseDups_concat]
  by_cases member : value ∈ numbering.toList
  · rw [if_pos member, if_pos (agree.mp member)]
    exact all
  · rw [if_neg member, if_neg fun inResults => member (agree.mpr inResults)]
    exact List.rel_append all (.cons found .nil)

theorem toList_insert_eraseDups {numbering : Numbering α} {values : List α}
    (listed : numbering.toList = values.eraseDups) (value : α) :
    (numbering.insert value).2.toList = (values ++ [value]).eraseDups := by
  rw [toList_insert, eraseDups_concat, listed]
  simp only [List.mem_eraseDups]

end Numbering

namespace Grammar

/-! ## Reading symbols and rules by name -/

/-- A symbol by its name, if it has one. -/
def namedSymbol? (grammar : Grammar) : Symbol → Option NamedSymbol
  | .nonterminal nonterminal => (grammar.nonterminalName? nonterminal).map .nonterminal
  | .terminal letter => (grammar.terminalName? letter).map .terminal

/-- A rule by the names of its symbols, if all of them have one. -/
def namedRule? (grammar : Grammar) (rule : Rule) : Option NamedRule := do
  let lhs ← grammar.nonterminalName? rule.lhs
  let symbols ← rule.symbols.mapM grammar.namedSymbol?
  return ⟨lhs, symbols⟩

/-- Symbols and their names, one after the other. -/
def Spells (grammar : Grammar) (symbols : List Symbol) (names : List NamedSymbol) : Prop :=
  List.Forall₂ (fun symbol name => grammar.namedSymbol? symbol = some name) symbols names

theorem Spells.concat {grammar : Grammar} {symbols : List Symbol} {names : List NamedSymbol}
    (spelled : grammar.Spells symbols names) {symbol : Symbol} {name : NamedSymbol}
    (found : grammar.namedSymbol? symbol = some name) :
    grammar.Spells (symbols ++ [symbol]) (names ++ [name]) :=
  List.rel_append spelled (.cons found .nil)

theorem namedSymbol?_nonterminal_iff {grammar : Grammar} {symbol : Symbol} {name : String} :
    grammar.namedSymbol? symbol = some (.nonterminal name) ↔
      ∃ nonterminal, symbol = .nonterminal nonterminal ∧
        grammar.nonterminalName? nonterminal = some name := by
  cases symbol with
  | nonterminal nonterminal => simp [namedSymbol?]
  | terminal letter => simp [namedSymbol?]

theorem namedSymbol?_terminal_iff {grammar : Grammar} {symbol : Symbol} {name : String} :
    grammar.namedSymbol? symbol = some (.terminal name) ↔
      ∃ letter, symbol = .terminal letter ∧ grammar.terminalName? letter = some name := by
  cases symbol with
  | nonterminal nonterminal => simp [namedSymbol?]
  | terminal letter => simp [namedSymbol?]

theorem namedRule?_eq_some_iff {grammar : Grammar} {rule : Rule} {named : NamedRule} :
    grammar.namedRule? rule = some named ↔
      grammar.nonterminalName? rule.lhs = some named.lhs ∧
        grammar.Spells rule.symbols named.symbols := by
  simp only [namedRule?, Option.bind_eq_bind, Option.bind_eq_some_iff, Option.pure_def,
    Option.some.injEq, mapM_eq_some_iff]
  constructor
  · intro ⟨lhs, found, symbols, spelled, same⟩
    cases same
    exact ⟨found, spelled⟩
  · intro ⟨found, spelled⟩
    exact ⟨named.lhs, found, named.symbols, spelled, rfl⟩

namespace WellFormed

variable {grammar : Grammar}

theorem nonterminalName?_injective (formed : grammar.WellFormed) {first second : Nonterminal}
    {name : String} (firstNamed : grammar.nonterminalName? first = some name)
    (secondNamed : grammar.nonterminalName? second = some name) : first = second := by
  rw [← nonterminal?_eq_some_iff formed] at firstNamed secondNamed
  exact Option.some.inj (firstNamed.symm.trans secondNamed)

theorem terminalName?_injective (formed : grammar.WellFormed) {first second : Terminal}
    {name : String} (firstNamed : grammar.terminalName? first = some name)
    (secondNamed : grammar.terminalName? second = some name) : first = second := by
  rw [← terminal?_eq_some_iff formed] at firstNamed secondNamed
  exact Option.some.inj (firstNamed.symm.trans secondNamed)

theorem namedSymbol?_injective (formed : grammar.WellFormed) {first second : Symbol}
    {named : NamedSymbol} (firstNamed : grammar.namedSymbol? first = some named)
    (secondNamed : grammar.namedSymbol? second = some named) : first = second := by
  cases named with
  | nonterminal name =>
      obtain ⟨left, rfl, leftNamed⟩ := namedSymbol?_nonterminal_iff.mp firstNamed
      obtain ⟨right, rfl, rightNamed⟩ := namedSymbol?_nonterminal_iff.mp secondNamed
      exact congrArg Symbol.nonterminal (formed.nonterminalName?_injective leftNamed rightNamed)
  | terminal name =>
      obtain ⟨left, rfl, leftNamed⟩ := namedSymbol?_terminal_iff.mp firstNamed
      obtain ⟨right, rfl, rightNamed⟩ := namedSymbol?_terminal_iff.mp secondNamed
      exact congrArg Symbol.terminal (formed.terminalName?_injective leftNamed rightNamed)

theorem spells_injective (formed : grammar.WellFormed) {first second : List Symbol}
    {names : List NamedSymbol} (firstSpelled : grammar.Spells first names)
    (secondSpelled : grammar.Spells second names) : first = second := by
  apply List.left_unique_forall₂' _ firstSpelled secondSpelled
  intro left right named leftNamed rightNamed
  exact formed.namedSymbol?_injective leftNamed rightNamed

theorem namedRule?_injective (formed : grammar.WellFormed) {first second : Rule}
    {named : NamedRule} (firstNamed : grammar.namedRule? first = some named)
    (secondNamed : grammar.namedRule? second = some named) : first = second := by
  obtain ⟨firstLhs, firstSpelled⟩ := namedRule?_eq_some_iff.mp firstNamed
  obtain ⟨secondLhs, secondSpelled⟩ := namedRule?_eq_some_iff.mp secondNamed
  have lhs := formed.nonterminalName?_injective firstLhs secondLhs
  have symbols := formed.spells_injective firstSpelled secondSpelled
  rcases first with ⟨firstLhs, firstRhs⟩
  rcases second with ⟨secondLhs, secondRhs⟩
  cases lhs
  have rhs : RightHandSide.ofSymbols firstRhs.symbols =
      RightHandSide.ofSymbols secondRhs.symbols := congrArg _ symbols
  rw [RightHandSide.ofSymbols_symbols, RightHandSide.ofSymbols_symbols] at rhs
  cases rhs
  rfl

theorem namedRules_injective (formed : grammar.WellFormed) {first second : List Rule}
    {named : List NamedRule}
    (firstRead : List.Forall₂ (fun rule named => grammar.namedRule? rule = some named) first named)
    (secondRead :
      List.Forall₂ (fun rule named => grammar.namedRule? rule = some named) second named) :
    first = second := by
  apply List.left_unique_forall₂' _ firstRead secondRead
  intro left right named leftRead rightRead
  exact formed.namedRule?_injective leftRead rightRead

end WellFormed

/-! ## Names while a grammar grows -/

/-- Numbers that have a name keep it. -/
structure KeepsNames (before after : Grammar) : Prop where
  nonterminals : ∀ {nonterminal : Nonterminal} {name : String},
    before.nonterminalName? nonterminal = some name →
    after.nonterminalName? nonterminal = some name
  terminals : ∀ {letter : Terminal} {name : String},
    before.terminalName? letter = some name → after.terminalName? letter = some name

theorem Change.keepsNames {before after : Grammar} (change : before.Change after) :
    KeepsNames before after := by
  have keeps : ∀ {numbering : Numbering String} {added : String}
      (fresh : numbering.position? added = none) {number : Nat} {name : String},
      numbering.get? number = some name →
      (numbering.append added fresh).get? number = some name := by
    intro numbering added fresh number name found
    rw [Numbering.get?_append, if_neg (Nat.ne_of_lt (Numbering.get?_lt_size found))]
    exact found
  cases change with
  | nothing => exact ⟨fun found => found, fun found => found⟩
  | nonterminal fresh => exact ⟨keeps fresh, fun found => found⟩
  | terminal fresh => exact ⟨fun found => found, keeps fresh⟩
  | rule fresh named => exact ⟨fun found => found, fun found => found⟩

namespace KeepsNames

variable {before after : Grammar}

theorem namedSymbol? (keeps : KeepsNames before after) {symbol : Symbol} {named : NamedSymbol}
    (found : before.namedSymbol? symbol = some named) :
    after.namedSymbol? symbol = some named := by
  cases named with
  | nonterminal name =>
      obtain ⟨nonterminal, rfl, known⟩ := namedSymbol?_nonterminal_iff.mp found
      exact namedSymbol?_nonterminal_iff.mpr ⟨nonterminal, rfl, keeps.nonterminals known⟩
  | terminal name =>
      obtain ⟨letter, rfl, known⟩ := namedSymbol?_terminal_iff.mp found
      exact namedSymbol?_terminal_iff.mpr ⟨letter, rfl, keeps.terminals known⟩

theorem spells (keeps : KeepsNames before after) {symbols : List Symbol}
    {names : List NamedSymbol} (spelled : before.Spells symbols names) :
    after.Spells symbols names :=
  spelled.imp fun _ _ found => keeps.namedSymbol? found

theorem namedRule? (keeps : KeepsNames before after) {rule : Rule} {named : NamedRule}
    (found : before.namedRule? rule = some named) : after.namedRule? rule = some named := by
  obtain ⟨lhs, spelled⟩ := namedRule?_eq_some_iff.mp found
  exact namedRule?_eq_some_iff.mpr ⟨keeps.nonterminals lhs, keeps.spells spelled⟩

end KeepsNames

/-! ## What the calls give -/

theorem nonterminals_addNonterminal (grammar : Grammar) (name : String) :
    (grammar.addNonterminal name).2.nonterminals = (grammar.nonterminals.insert name).2 := by
  cases found : grammar.nonterminals.position? name with
  | none => simp [addNonterminal, nonterminal?, found]
  | some number =>
      simp [addNonterminal, nonterminal?, found, Numbering.insert_of_position? found]

theorem index_addNonterminal (grammar : Grammar) (name : String) :
    (grammar.addNonterminal name).1.index = (grammar.nonterminals.insert name).1 := by
  cases found : grammar.nonterminals.position? name with
  | none =>
      simp [addNonterminal, nonterminal?, found, nonterminalBound,
        Numbering.insert_of_position?_eq_none found]
  | some number =>
      simp [addNonterminal, nonterminal?, found, Numbering.insert_of_position? found]

theorem name_addNonterminal (grammar : Grammar) (name : String) :
    (grammar.addNonterminal name).2.nonterminalName? (grammar.addNonterminal name).1 =
      some name := by
  rw [nonterminalName?, nonterminals_addNonterminal, index_addNonterminal]
  exact Numbering.get?_insert grammar.nonterminals name

theorem name_addTerminal (grammar : Grammar) (name : String) :
    (grammar.addTerminal name).2.terminalName? (grammar.addTerminal name).1 = some name :=
  Numbering.get?_insert grammar.terminals name

theorem rules_addRule {grammar after : Grammar} {rule : Rule} {number : Nat}
    (success : grammar.addRule rule = .ok (number, after)) :
    after.rules = (grammar.rules.insert rule).2 := by
  rcases addRule_cases success with ⟨found, rfl⟩ | ⟨fresh, _, _, rfl⟩
  · rw [Numbering.insert_of_position? found]
  · rfl

theorem Spells.inNormalForm_iff {grammar : Grammar} {symbols : List Symbol} {lhs : String}
    {names : List NamedSymbol} (spelled : grammar.Spells symbols names) :
    NamedRule.InNormalForm ⟨lhs, names⟩ ↔ ∃ rhs, symbols = RightHandSide.symbols rhs := by
  constructor
  · intro normal
    rcases normal with ⟨name, same⟩ | ⟨left, right, same⟩
    · cases same
      obtain ⟨symbol, rest, found, none, rfl⟩ := List.forall₂_cons_right_iff.mp spelled
      obtain ⟨letter, rfl, _⟩ := namedSymbol?_terminal_iff.mp found
      cases none
      exact ⟨.terminal letter, rfl⟩
    · cases same
      obtain ⟨first, rest, found, later, rfl⟩ := List.forall₂_cons_right_iff.mp spelled
      obtain ⟨second, rest, secondFound, none, rfl⟩ := List.forall₂_cons_right_iff.mp later
      obtain ⟨left, rfl, _⟩ := namedSymbol?_nonterminal_iff.mp found
      obtain ⟨right, rfl, _⟩ := namedSymbol?_nonterminal_iff.mp secondFound
      cases none
      exact ⟨.pair left right, rfl⟩
  · intro fits
    obtain ⟨rhs, rfl⟩ := fits
    cases rhs with
    | terminal letter =>
        obtain ⟨named, rest, found, none, rfl⟩ := List.forall₂_cons_left_iff.mp spelled
        obtain ⟨name, _, rfl⟩ := Option.map_eq_some_iff.mp found
        cases none
        exact .inl ⟨name, rfl⟩
    | pair left right =>
        obtain ⟨first, rest, found, later, rfl⟩ := List.forall₂_cons_left_iff.mp spelled
        obtain ⟨second, rest, secondFound, none, rfl⟩ := List.forall₂_cons_left_iff.mp later
        obtain ⟨leftName, _, rfl⟩ := Option.map_eq_some_iff.mp found
        obtain ⟨rightName, _, rfl⟩ := Option.map_eq_some_iff.mp secondFound
        cases none
        exact .inr ⟨leftName, rightName, rfl⟩

theorem Spells.refused {grammar : Grammar} {symbols : List Symbol} {names : List NamedSymbol}
    (spelled : grammar.Spells symbols names) {lhs : Nonterminal} {name : String}
    (lhsNamed : grammar.nonterminalName? lhs = some name) {misfit : Misfit}
    (unfit : RightHandSide.ofSymbols symbols = .error misfit) :
    NamedRule.Refused ⟨name, names⟩ (grammar.misfitError lhs misfit) := by
  have called : grammar.nameFor lhs = .ok name := by rw [nameFor, lhsNamed]
  match symbols, spelled with
  | [], .nil =>
      cases unfit
      simpa [misfitError, called] using NamedRule.Refused.empty name
  | [.terminal letter], _ => cases unfit
  | [.nonterminal nonterminal], .cons found .nil =>
      cases unfit
      obtain ⟨other, otherNamed, rfl⟩ := Option.map_eq_some_iff.mp found
      have otherCalled : grammar.nameFor nonterminal = .ok other := by rw [nameFor, otherNamed]
      simpa [misfitError, called, otherCalled] using NamedRule.Refused.unit name other
  | [.nonterminal left, .nonterminal right], _ => cases unfit
  | [.terminal letter, second], .cons found (.cons _ .nil) =>
      cases unfit
      obtain ⟨other, _, rfl⟩ := Option.map_eq_some_iff.mp found
      simpa [misfitError, called] using
        NamedRule.Refused.terminalInPair name other List.mem_cons_self
  | [.nonterminal first, .terminal letter], .cons _ (.cons found .nil) =>
      cases unfit
      obtain ⟨other, _, rfl⟩ := Option.map_eq_some_iff.mp found
      simpa [misfitError, called] using
        NamedRule.Refused.terminalInPair name other (List.mem_cons_of_mem _ List.mem_cons_self)
  | first :: second :: third :: rest, spelled =>
      simp only [RightHandSide.ofSymbols, Except.error.injEq] at unfit
      have long : 2 < names.length := by
        rw [← spelled.length_eq]
        simp
      rw [← unfit, spelled.length_eq]
      simpa [misfitError, called] using NamedRule.Refused.tooMany name long

theorem exists_addRule {grammar : Grammar} (rule : Rule)
    (named : rule.lhs.index < grammar.ruleLists.length) :
    ∃ number after, grammar.addRule rule = .ok (number, after) := by
  unfold addRule
  cases grammar.rules.position? rule with
  | some number => exact ⟨number, grammar, rfl⟩
  | none => exact ⟨grammar.rules.size, grammar.enter rule, if_pos named⟩

theorem exists_addProduction_iff {grammar : Grammar} (formed : grammar.WellFormed)
    {lhs : Nonterminal} {name : String} (lhsNamed : grammar.nonterminalName? lhs = some name)
    {symbols : List Symbol} {names : List NamedSymbol} (spelled : grammar.Spells symbols names) :
    (∃ number after, grammar.addProduction lhs symbols = .ok (number, after)) ↔
      NamedRule.InNormalForm ⟨name, names⟩ := by
  rw [spelled.inNormalForm_iff]
  constructor
  · intro success
    obtain ⟨number, after, added⟩ := success
    obtain ⟨rhs, same, _⟩ := addProduction_cases added
    exact ⟨rhs, same⟩
  · intro fits
    obtain ⟨rhs, rfl⟩ := fits
    have named : lhs.index < grammar.ruleLists.length := by
      rw [formed.listed]
      exact Numbering.get?_lt_size lhsNamed
    obtain ⟨number, after, added⟩ := exists_addRule ⟨lhs, rhs⟩ named
    refine ⟨number, after, ?_⟩
    rw [addProduction, RightHandSide.ofSymbols_symbols]
    exact added

/-- A rule that is refused although its symbols have names is refused for its shape. -/
theorem refused_of_addProduction {grammar : Grammar} (formed : grammar.WellFormed)
    {lhs : Nonterminal} {name : String} (lhsNamed : grammar.nonterminalName? lhs = some name)
    {symbols : List Symbol} {names : List NamedSymbol} (spelled : grammar.Spells symbols names)
    {cause : RuleError} (failed : grammar.addProduction lhs symbols = .error cause) :
    NamedRule.Refused ⟨name, names⟩ cause := by
  unfold addProduction at failed
  cases fit : RightHandSide.ofSymbols symbols with
  | ok rhs =>
      have named : lhs.index < grammar.ruleLists.length := by
        rw [formed.listed]
        exact Numbering.get?_lt_size lhsNamed
      obtain ⟨number, after, added⟩ := exists_addRule ⟨lhs, rhs⟩ named
      rw [fit] at failed
      cases failed.symm.trans added
  | error misfit =>
      rw [fit] at failed
      cases failed
      exact spelled.refused lhsNamed fit

end Grammar

end ChartParsing
