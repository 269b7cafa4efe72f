import ChartParsing.Grammar.Basic

/-!
# Constructing grammars

A grammar is built from the empty one by calls that add names and rules.  A rule
that does not fit the normal form is refused and changes nothing.  A call that
needs a name that does not exist has no outcome, so no construction goes past
it; right-hand sides of accepted rules may well mention nonterminals and
terminals that are named later or never.
-/

namespace ChartParsing

/-- A call that adds to a grammar.  A production is a rule by its symbols, which
may not fit. -/
inductive Construction where
  | nonterminal (name : String)
  | terminal (name : String)
  | terminalRule (lhs : Nonterminal) (letter : Terminal)
  | pairRule (lhs left right : Nonterminal)
  | production (lhs : Nonterminal) (symbols : List Symbol)
  deriving DecidableEq, Repr

namespace Construction

inductive Answer where
  | nonterminal (nonterminal : Nonterminal)
  | terminal (terminal : Terminal)
  | rule (number : Nat)
  | refused (cause : RuleError)
  deriving DecidableEq, Repr

def ruleOutcome? (grammar : Grammar) :
    Except RuleError (Nat × Grammar) → Option (Answer × Grammar)
  | .ok (number, after) => some (.rule number, after)
  | .error (.unnamed _) => none
  | .error cause => some (.refused cause, grammar)

/-- The answer to a call and the grammar after it. -/
def perform? (grammar : Grammar) : Construction → Option (Answer × Grammar)
  | .nonterminal name =>
      let (given, after) := grammar.addNonterminal name
      some (.nonterminal given, after)
  | .terminal name =>
      let (given, after) := grammar.addTerminal name
      some (.terminal given, after)
  | .terminalRule lhs letter => ruleOutcome? grammar (grammar.addRule ⟨lhs, .terminal letter⟩)
  | .pairRule lhs left right => ruleOutcome? grammar (grammar.addRule ⟨lhs, .pair left right⟩)
  | .production lhs symbols => ruleOutcome? grammar (grammar.addProduction lhs symbols)

def performAll? (grammar : Grammar) : List Construction → Option Grammar
  | [] => some grammar
  | call :: rest =>
      match perform? grammar call with
      | some (_, after) => performAll? after rest
      | none => none

end Construction

namespace Grammar

/-- Some sequence of calls builds the grammar. -/
def Reachable (grammar : Grammar) : Prop :=
  ∃ calls, Construction.performAll? .empty calls = some grammar

/-- What a call can do to a grammar: nothing, or enter one name or rule that is new. -/
inductive Change (before : Grammar) : Grammar → Prop where
  | nothing : Change before before
  | nonterminal {name : String} (fresh : before.nonterminals.position? name = none) :
      Change before
        { before with
          nonterminals := before.nonterminals.append name fresh
          ruleLists := before.ruleLists ++ [[]] }
  | terminal {name : String} (fresh : before.terminals.position? name = none) :
      Change before { before with terminals := before.terminals.append name fresh }
  | rule {rule : Rule} (fresh : before.rules.position? rule = none)
      (named : rule.lhs.index < before.ruleLists.length) :
      Change before (before.enter rule)

theorem change_addNonterminal (grammar : Grammar) (name : String) :
    grammar.Change (grammar.addNonterminal name).2 := by
  cases found : grammar.nonterminals.position? name with
  | none =>
      have added : (grammar.addNonterminal name).2 =
          { grammar with
            nonterminals := grammar.nonterminals.append name found
            ruleLists := grammar.ruleLists ++ [[]] } := by
        simp [addNonterminal, nonterminal?, found,
          Numbering.insert_of_position?_eq_none found]
      rw [added]
      exact .nonterminal found
  | some number =>
      have kept : (grammar.addNonterminal name).2 = grammar := by
        simp [addNonterminal, nonterminal?, found]
      rw [kept]
      exact .nothing

theorem others_addNonterminal (grammar : Grammar) (name : String) :
    (grammar.addNonterminal name).2.terminals = grammar.terminals ∧
      (grammar.addNonterminal name).2.rules = grammar.rules := by
  unfold addNonterminal
  split <;> exact ⟨rfl, rfl⟩

theorem change_addTerminal (grammar : Grammar) (name : String) :
    grammar.Change (grammar.addTerminal name).2 := by
  cases found : grammar.terminals.position? name with
  | none =>
      have added : (grammar.addTerminal name).2 =
          { grammar with terminals := grammar.terminals.append name found } := by
        simp [addTerminal, Numbering.insert_of_position?_eq_none found]
      rw [added]
      exact .terminal found
  | some number =>
      have kept : (grammar.addTerminal name).2 = grammar := by
        simp [addTerminal, Numbering.insert_of_position? found]
      rw [kept]
      exact .nothing

theorem addRule_cases {grammar after : Grammar} {rule : Rule} {number : Nat}
    (success : grammar.addRule rule = .ok (number, after)) :
    (grammar.rules.position? rule = some number ∧ after = grammar) ∨
      (grammar.rules.position? rule = none ∧ rule.lhs.index < grammar.ruleLists.length ∧
        number = grammar.rules.size ∧ after = grammar.enter rule) := by
  unfold addRule at success
  cases found : grammar.rules.position? rule with
  | some known =>
      simp only [found, Except.ok.injEq, Prod.mk.injEq] at success
      exact .inl ⟨congrArg some success.1, success.2.symm⟩
  | none =>
      by_cases named : rule.lhs.index < grammar.ruleLists.length
      · simp only [found, if_pos named, Except.ok.injEq, Prod.mk.injEq] at success
        exact .inr ⟨rfl, named, success.1.symm, success.2.symm⟩
      · simp [found, named] at success

theorem addProduction_cases {grammar after : Grammar} {lhs : Nonterminal}
    {symbols : List Symbol} {number : Nat}
    (success : grammar.addProduction lhs symbols = .ok (number, after)) :
    ∃ rhs, symbols = RightHandSide.symbols rhs ∧
      grammar.addRule ⟨lhs, rhs⟩ = .ok (number, after) := by
  unfold addProduction at success
  cases fit : RightHandSide.ofSymbols symbols with
  | ok rhs =>
      rw [fit] at success
      exact ⟨rhs, RightHandSide.ofSymbols_eq_ok_iff.mp fit, success⟩
  | error misfit => simp [fit] at success

theorem change_addRule {grammar after : Grammar} {rule : Rule} {number : Nat}
    (success : grammar.addRule rule = .ok (number, after)) : grammar.Change after := by
  rcases addRule_cases success with ⟨_, rfl⟩ | ⟨fresh, named, _, rfl⟩
  · exact .nothing
  · exact .rule fresh named

end Grammar

namespace Construction

theorem ruleOutcome?_cases {grammar after : Grammar} {answer : Answer}
    {added : Except RuleError (Nat × Grammar)}
    (outcome : ruleOutcome? grammar added = some (answer, after)) :
    (∃ number, answer = .rule number ∧ added = .ok (number, after)) ∨
      (∃ cause, answer = .refused cause ∧ after = grammar) := by
  unfold ruleOutcome? at outcome
  split at outcome
  · next number accepted =>
      cases outcome
      exact .inl ⟨number, rfl, rfl⟩
  · cases outcome
  · next cause _ =>
      cases outcome
      exact .inr ⟨cause, rfl, rfl⟩

/-- Beside a new name, a call can only add one rule or be refused. -/
theorem perform?_cases {grammar after : Grammar} {call : Construction} {answer : Answer}
    (performed : perform? grammar call = some (answer, after)) :
    (∃ name, call = .nonterminal name ∧ after = (grammar.addNonterminal name).2) ∨
      (∃ name, call = .terminal name ∧ after = (grammar.addTerminal name).2) ∨
      (∃ number rule, answer = .rule number ∧ grammar.addRule rule = .ok (number, after)) ∨
      (∃ cause, answer = .refused cause ∧ after = grammar) := by
  cases call with
  | nonterminal name =>
      cases performed
      exact .inl ⟨name, rfl, rfl⟩
  | terminal name =>
      cases performed
      exact .inr (.inl ⟨name, rfl, rfl⟩)
  | terminalRule lhs letter =>
      rcases ruleOutcome?_cases performed with ⟨number, same, added⟩ | refused
      · exact .inr (.inr (.inl ⟨number, _, same, added⟩))
      · exact .inr (.inr (.inr refused))
  | pairRule lhs left right =>
      rcases ruleOutcome?_cases performed with ⟨number, same, added⟩ | refused
      · exact .inr (.inr (.inl ⟨number, _, same, added⟩))
      · exact .inr (.inr (.inr refused))
  | production lhs symbols =>
      rcases ruleOutcome?_cases performed with ⟨number, same, added⟩ | refused
      · obtain ⟨rhs, _, entered⟩ := Grammar.addProduction_cases added
        exact .inr (.inr (.inl ⟨number, _, same, entered⟩))
      · exact .inr (.inr (.inr refused))

theorem change_of_perform? {grammar after : Grammar} {call : Construction} {answer : Answer}
    (performed : perform? grammar call = some (answer, after)) : grammar.Change after := by
  rcases perform?_cases performed with
    ⟨name, _, rfl⟩ | ⟨name, _, rfl⟩ | ⟨number, rule, _, added⟩ | ⟨cause, _, rfl⟩
  · exact grammar.change_addNonterminal name
  · exact grammar.change_addTerminal name
  · exact Grammar.change_addRule added
  · exact .nothing

/-- What every change keeps is kept by a whole construction. -/
theorem performAll?_keeps {motive : Grammar → Prop}
    (keeps : ∀ {before after : Grammar}, before.Change after → motive before → motive after)
    {before after : Grammar} {calls : List Construction} (start : motive before)
    (performed : performAll? before calls = some after) : motive after := by
  induction calls generalizing before with
  | nil =>
      cases performed
      exact start
  | cons call rest induction =>
      unfold performAll? at performed
      split at performed
      · next answer next step =>
          exact induction (keeps (change_of_perform? step) start) performed
      · cases performed

theorem performAll?_append (grammar : Grammar) (first second : List Construction) :
    performAll? grammar (first ++ second) =
      (performAll? grammar first).bind (performAll? · second) := by
  induction first generalizing grammar with
  | nil => rfl
  | cons call rest induction =>
      rw [List.cons_append, performAll?, performAll?]
      cases perform? grammar call with
      | none => rfl
      | some outcome => exact induction outcome.2

theorem reachable_empty : Grammar.empty.Reachable :=
  ⟨[], rfl⟩

theorem reachable_perform? {grammar after : Grammar} (reachable : grammar.Reachable)
    (call : Construction) {answer : Answer}
    (performed : perform? grammar call = some (answer, after)) : after.Reachable := by
  obtain ⟨calls, built⟩ := reachable
  refine ⟨calls ++ [call], ?_⟩
  rw [performAll?_append, built, Option.bind_some, performAll?, performed]
  rfl

end Construction

namespace Grammar

theorem Reachable.performAll? {before after : Grammar} (reachable : before.Reachable)
    {calls : List Construction} (performed : Construction.performAll? before calls = some after) :
    after.Reachable := by
  obtain ⟨earlier, built⟩ := reachable
  refine ⟨earlier ++ calls, ?_⟩
  rw [Construction.performAll?_append, built]
  exact performed

end Grammar

namespace Construction

/-- What calls build is reachable, and so is what is taken instead if they
have no outcome. -/
theorem reachable_performAll? (calls : List Construction) :
    ((performAll? .empty calls).getD .empty).Reachable := by
  cases performed : performAll? .empty calls with
  | none => exact reachable_empty
  | some grammar => exact ⟨calls, performed⟩

/-- Calls that build an ambiguous grammar.  One rule comes before its terminal, one
mentions a nonterminal without a name, one is refused and one repeats another. -/
def sampleCalls : List Construction :=
  [.nonterminal "S", .pairRule ⟨0⟩ ⟨0⟩ ⟨0⟩, .terminalRule ⟨0⟩ ⟨0⟩, .production ⟨0⟩ [],
    .terminal "a", .pairRule ⟨0⟩ ⟨0⟩ ⟨7⟩,
    .production ⟨0⟩ [.nonterminal ⟨0⟩, .nonterminal ⟨0⟩]]

/-- The grammar that the sample calls build. -/
def sample : Grammar :=
  (performAll? .empty sampleCalls).getD .empty

theorem reachable_sample : sample.Reachable :=
  reachable_performAll? sampleCalls

end Construction

end ChartParsing
