import ChartParsing.Proofs.Grammar.Adoption

/-!
# Numbers that stay

What a call asks for is a name or a rule; which kind of call asks for a rule makes no
difference.  The answer is a number, and from then on the grammar has the name or the rule under
this number, whatever is called later: numbers are places in lists that only grow at their ends.
A call for something that is there gives its number and changes nothing, and neither does a call
that is refused.
-/

namespace ChartParsing

namespace Construction

/-- What a call asks for: a name of one of the two kinds, or a rule. -/
inductive Entry where
  | nonterminal (name : String)
  | terminal (name : String)
  | rule (lhs : Nonterminal) (symbols : List Symbol)
  deriving DecidableEq, Repr

def entry : Construction → Entry
  | .nonterminal name => .nonterminal name
  | .terminal name => .terminal name
  | .terminalRule lhs letter => .rule lhs [.terminal letter]
  | .pairRule lhs left right => .rule lhs [.nonterminal left, .nonterminal right]
  | .production lhs symbols => .rule lhs symbols

/-- The call that can ask for anything of its kind. -/
def Entry.call : Entry → Construction
  | .nonterminal name => .nonterminal name
  | .terminal name => .terminal name
  | .rule lhs symbols => .production lhs symbols

theorem perform?_entry_call (grammar : Grammar) (call : Construction) :
    perform? grammar call.entry.call = perform? grammar call := by
  cases call <;> rfl

end Construction

open Construction (Answer Entry perform? performAll? perform?_entry_call)

namespace Grammar

/-- The grammar has an entry under the number that an answer gives. -/
inductive Denotes (grammar : Grammar) : Answer → Entry → Prop where
  | nonterminal {nonterminal : Nonterminal} {name : String} :
      grammar.nonterminalName? nonterminal = some name →
      Denotes grammar (.nonterminal nonterminal) (.nonterminal name)
  | terminal {letter : Terminal} {name : String} :
      grammar.terminalName? letter = some name →
      Denotes grammar (.terminal letter) (.terminal name)
  | rule {number : Nat} {rule : Rule} :
      grammar.rule? number = some rule →
      Denotes grammar (.rule number) (.rule rule.lhs rule.symbols)

/-- The number that follows those in use for entries of the same kind. -/
def nextFree (grammar : Grammar) : Entry → Answer
  | .nonterminal _ => .nonterminal ⟨grammar.nonterminalBound⟩
  | .terminal _ => .terminal ⟨grammar.terminalBound⟩
  | .rule _ _ => .rule grammar.rules.size

variable {grammar before after : Grammar} {answer : Answer} {entry : Entry}

/-! ## What is denoted stays denoted -/

theorem Change.rule? (change : before.Change after) {number : Nat} {rule : Rule}
    (numbered : before.rule? number = some rule) : after.rule? number = some rule := by
  cases change with
  | nothing | nonterminal | terminal => exact numbered
  | rule fresh named =>
      have earlier := Nat.ne_of_lt (rule?_lt_size numbered)
      rw [rule?_enter fresh, if_neg earlier, numbered]

theorem Denotes.change (denotes : before.Denotes answer entry) (change : before.Change after) :
    after.Denotes answer entry := by
  cases denotes with
  | nonterminal named => exact .nonterminal (change.keepsNames.nonterminals named)
  | terminal named => exact .terminal (change.keepsNames.terminals named)
  | rule numbered => exact .rule (change.rule? numbered)

/-- Numbers keep what they denote, whatever is called. -/
theorem Denotes.performAll? (denotes : before.Denotes answer entry)
    {calls : List Construction} (performed : Construction.performAll? before calls = some after) :
    after.Denotes answer entry :=
  Construction.performAll?_keeps
    (fun change (denoted : Denotes _ answer entry) => denoted.change change) denotes performed

theorem not_denotes_nextFree (grammar : Grammar) (entry other : Entry) :
    ¬grammar.Denotes (grammar.nextFree entry) other := by
  intro denotes
  cases entry with
  | nonterminal name =>
      cases denotes with
      | nonterminal named => exact Nat.lt_irrefl _ (Numbering.get?_lt_size named)
  | terminal name =>
      cases denotes with
      | terminal named => exact Nat.lt_irrefl _ (Numbering.get?_lt_size named)
  | rule lhs symbols =>
      cases denotes with
      | rule numbered => exact Nat.lt_irrefl _ (rule?_lt_size numbered)

/-! ## Asking once and asking again -/

theorem Denotes.perform? (formed : grammar.WellFormed) (denotes : grammar.Denotes answer entry) :
    perform? grammar entry.call = some (answer, grammar) := by
  cases denotes with
  | @nonterminal nonterminal name named =>
      have found := (nonterminal?_eq_some_iff formed).mpr named
      simp [Entry.call, Construction.perform?, addNonterminal, found]
  | @terminal letter name named =>
      have found := (Numbering.position?_eq_some_iff formed.terminalsDistinct).mpr named
      simp [Entry.call, Construction.perform?, addTerminal, Numbering.insert_of_position? found]
  | @rule number rule numbered =>
      have found := (Numbering.position?_eq_some_iff formed.rulesDistinct).mpr numbered
      simp [Entry.call, Construction.perform?, addProduction_symbols, addRule, found,
        Construction.ruleOutcome?]

theorem addNonterminal_cases (grammar : Grammar) (name : String) :
    grammar.Denotes (.nonterminal (grammar.addNonterminal name).1) (.nonterminal name) ∨
      (grammar.addNonterminal name).1 = ⟨grammar.nonterminalBound⟩ := by
  cases found : grammar.nonterminals.position? name with
  | none =>
      right
      simp [addNonterminal, nonterminal?, found]
  | some number =>
      left
      apply Denotes.nonterminal
      simpa [addNonterminal, nonterminal?, found, nonterminalName?] using
        Numbering.get?_of_position? found

theorem addTerminal_cases (grammar : Grammar) (name : String) :
    grammar.Denotes (.terminal (grammar.addTerminal name).1) (.terminal name) ∨
      (grammar.addTerminal name).1 = ⟨grammar.terminalBound⟩ := by
  cases found : grammar.terminals.position? name with
  | none =>
      right
      simp [addTerminal, Numbering.insert_of_position?_eq_none found, terminalBound]
  | some number =>
      left
      apply Denotes.terminal
      simpa [addTerminal, Numbering.insert_of_position? found, terminalName?] using
        Numbering.get?_of_position? found

theorem refused_of_ruleOutcome? {lhs : Nonterminal} {symbols : List Symbol} {cause : RuleError}
    (performed : Construction.ruleOutcome? grammar (grammar.addProduction lhs symbols) =
      some (.refused cause, after)) :
    ∀ rhs, symbols ≠ RightHandSide.symbols rhs := by
  intro rhs same
  have typed : grammar.addProduction lhs symbols = grammar.addRule ⟨lhs, rhs⟩ := by
    rw [same]
    exact grammar.addProduction_symbols ⟨lhs, rhs⟩
  rw [typed, addRule] at performed
  split at performed
  · cases performed
  · split at performed <;> cases performed

/-- What is asked for is denoted by the answer from then on; the answer is the number
that it had, or the next free one. -/
theorem answer_of_perform? (performed : perform? grammar entry.call = some (answer, after)) :
    (∃ cause lhs symbols, answer = .refused cause ∧ after = grammar ∧
        entry = .rule lhs symbols ∧ ∀ rhs, symbols ≠ RightHandSide.symbols rhs) ∨
      (grammar.Denotes answer entry ∨ answer = grammar.nextFree entry) ∧
        after.Denotes answer entry := by
  cases entry with
  | nonterminal name =>
      cases performed
      right
      constructor
      · rcases grammar.addNonterminal_cases name with known | free
        · exact .inl known
        · exact .inr (congrArg Answer.nonterminal free)
      · exact .nonterminal (grammar.name_addNonterminal name)
  | terminal name =>
      cases performed
      right
      constructor
      · rcases grammar.addTerminal_cases name with known | free
        · exact .inl known
        · exact .inr (congrArg Answer.terminal free)
      · exact .terminal (grammar.name_addTerminal name)
  | rule lhs symbols =>
      rcases Construction.ruleOutcome?_cases performed with
        ⟨number, rfl, added⟩ | ⟨cause, rfl, rfl⟩
      · right
        obtain ⟨rhs, rfl, entered⟩ := addProduction_cases added
        rcases addRule_cases entered with ⟨found, rfl⟩ | ⟨fresh, _, rfl, rfl⟩
        · have known : after.Denotes (.rule number) (.rule lhs rhs.symbols) :=
            .rule (Numbering.get?_of_position? found)
          exact ⟨.inl known, known⟩
        · have numbered :
              (grammar.enter ⟨lhs, rhs⟩).rule? grammar.rules.size = some ⟨lhs, rhs⟩ := by
            rw [rule?_enter fresh, if_pos rfl]
          exact ⟨.inr rfl, .rule numbered⟩
      · exact .inl ⟨cause, lhs, symbols, rfl, rfl, rfl, refused_of_ruleOutcome? performed⟩

/-- Asking again gives the same number and changes nothing, whatever was
called in between. -/
theorem Denotes.perform?_again (reachable : before.Reachable)
    (denotes : before.Denotes answer entry) {calls : List Construction}
    (performed : Construction.performAll? before calls = some after) {again : Construction}
    (same : again.entry = entry) : Construction.perform? after again = some (answer, after) := by
  have denoted : after.Denotes answer again.entry := by
    rw [same]
    exact denotes.performAll? performed
  rw [← perform?_entry_call]
  exact denoted.perform? (reachable.performAll? performed).wellFormed

/-! ## What is refused -/

/-- A rule whose symbols have names is refused exactly if it is not in normal form, for
the reason that its shape gives, and then nothing changes. -/
theorem production_of_names (formed : grammar.WellFormed) {lhs : Nonterminal}
    {symbols : List Symbol} {named : NamedRule}
    (lhsNamed : grammar.nonterminalName? lhs = some named.lhs)
    (spelled : grammar.Spells symbols named.symbols) :
    (named.InNormalForm ∧ ∃ number after,
        perform? grammar (.production lhs symbols) = some (.rule number, after)) ∨
      (¬named.InNormalForm ∧ ∃ cause, named.Refused cause ∧
        perform? grammar (.production lhs symbols) = some (.refused cause, grammar)) := by
  obtain ⟨name, names⟩ := named
  have fits := exists_addProduction_iff formed lhsNamed spelled
  cases added : grammar.addProduction lhs symbols with
  | ok outcome =>
      left
      refine ⟨fits.mp ⟨outcome.1, outcome.2, added⟩, outcome.1, outcome.2, ?_⟩
      simp [Construction.perform?, added, Construction.ruleOutcome?]
  | error cause =>
      right
      have refused := refused_of_addProduction formed lhsNamed spelled added
      refine ⟨refused.not_inNormalForm, cause, refused, ?_⟩
      cases refused <;> simp [Construction.perform?, added, Construction.ruleOutcome?]

end Grammar

namespace Construction

/-- What is called in any state that calls can reach gets the number it has or the
next free one, and nothing else, unless it is a rule that does not fit.  This number
denotes it in all later states, and any call for it there gives the number and changes
nothing.  The calls for one rule do the same.  A rule whose symbols have names is
refused exactly if it is not in normal form, for the reason that its shape gives, and
then nothing changes. -/
theorem numbers_are_stable {grammar : Grammar} (reachable : grammar.Reachable) :
    (∀ call answer middle, perform? grammar call = some (answer, middle) →
      (∃ cause lhs symbols, answer = .refused cause ∧ middle = grammar ∧
        call.entry = .rule lhs symbols ∧ ∀ rhs, symbols ≠ RightHandSide.symbols rhs) ∨
      ((grammar.Denotes answer call.entry ∧ middle = grammar ∨
          answer = grammar.nextFree call.entry ∧
            (∀ known, ¬grammar.Denotes known call.entry) ∧
            ∀ other, ¬grammar.Denotes answer other) ∧
        ∀ calls after, performAll? middle calls = some after →
          after.Denotes answer call.entry ∧
            ∀ again : Construction, again.entry = call.entry →
              perform? after again = some (answer, after))) ∧
    (∀ first second : Construction, first.entry = second.entry →
      perform? grammar first = perform? grammar second) ∧
    ∀ lhs symbols (named : NamedRule), grammar.nonterminalName? lhs = some named.lhs →
      grammar.Spells symbols named.symbols →
      (named.InNormalForm ∧ ∃ number after,
          perform? grammar (.production lhs symbols) = some (.rule number, after)) ∨
        (¬named.InNormalForm ∧ ∃ cause, named.Refused cause ∧
          perform? grammar (.production lhs symbols) = some (.refused cause, grammar)) := by
  have formed := reachable.wellFormed
  refine ⟨?_, ?_, ?_⟩
  · intro call answer middle performed
    have middleReachable := reachable_perform? reachable call performed
    rw [← perform?_entry_call] at performed
    rcases Grammar.answer_of_perform? performed with refused | ⟨origin, denotes⟩
    · exact .inl refused
    · right
      constructor
      · by_cases present : ∃ known, grammar.Denotes known call.entry
        · obtain ⟨known, denoted⟩ := present
          have unchanged := denoted.perform? formed
          rw [performed] at unchanged
          cases unchanged
          exact .inl ⟨denoted, rfl⟩
        · right
          have absent : ∀ known, ¬grammar.Denotes known call.entry := not_exists.mp present
          have free : answer = grammar.nextFree call.entry :=
            origin.resolve_left (absent answer)
          refine ⟨free, absent, ?_⟩
          rw [free]
          exact grammar.not_denotes_nextFree call.entry
      · intro calls after later
        exact ⟨denotes.performAll? later,
          fun again same => denotes.perform?_again middleReachable later same⟩
  · intro first second same
    rw [← perform?_entry_call, same, perform?_entry_call]
  · intro lhs symbols named lhsNamed spelled
    exact Grammar.production_of_names formed lhsNamed spelled

/-- A rule that is new gets the number 3 and keeps it while a name and a rule are added
and a call is refused; the other entry point finds it again. -/
theorem numbers_are_stable_sample :
    ∃ middle after,
      perform? sample (.terminalRule ⟨0⟩ ⟨4⟩) = some (.rule 3, middle) ∧
      performAll? middle [.nonterminal "T", .production ⟨0⟩ [], .pairRule ⟨1⟩ ⟨0⟩ ⟨0⟩] =
        some after ∧
      after.Denotes (.rule 3) (.rule ⟨0⟩ [.terminal ⟨4⟩]) ∧
      perform? after (.production ⟨0⟩ [.terminal ⟨4⟩]) = some (.rule 3, after) ∧
      ∃ cause, NamedRule.Refused ⟨"S", [.nonterminal "S"]⟩ cause ∧
        perform? sample (.production ⟨0⟩ [.nonterminal ⟨0⟩]) = some (.refused cause, sample) := by
  obtain ⟨stable, _, shaped⟩ := numbers_are_stable reachable_sample
  let calls : List Construction := [.nonterminal "T", .production ⟨0⟩ [], .pairRule ⟨1⟩ ⟨0⟩ ⟨0⟩]
  refine ⟨_, _, rfl, rfl, ?_⟩
  rcases stable (.terminalRule ⟨0⟩ ⟨4⟩) _ _ rfl with ⟨_, _, _, refused, _⟩ | ⟨_, later⟩
  · cases refused
  · obtain ⟨denotes, again⟩ := later calls _ rfl
    refine ⟨denotes, again (.production ⟨0⟩ [.terminal ⟨4⟩]) rfl, ?_⟩
    rcases shaped ⟨0⟩ [.nonterminal ⟨0⟩] ⟨"S", [.nonterminal "S"]⟩ rfl (.cons rfl .nil) with
      ⟨normal, _⟩ | ⟨_, refused⟩
    · cases (NamedRule.Refused.unit "S" "S").not_inNormalForm normal
    · exact refused

end Construction

end ChartParsing
