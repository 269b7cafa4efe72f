import ChartParsing.Proofs.Grammar.Construction

/-!
# The representation of a grammar

A grammar keeps its rules three times over: numbered in order of arrival, listed
for each nonterminal, and tabulated by right-hand side.  It keeps each name
twice, as a value and as a key.  Whatever calls built it, the parts agree.
-/

namespace ChartParsing

namespace Grammar

/-- Every part of a grammar says the same as its numbered names and rules. -/
structure WellFormed (grammar : Grammar) : Prop where
  nonterminalsDistinct : grammar.nonterminals.Distinct
  terminalsDistinct : grammar.terminals.Distinct
  rulesDistinct : grammar.rules.Distinct
  listed : grammar.ruleLists.length = grammar.nonterminalBound
  lhsNamed : ∀ rule ∈ grammar.rules.toList, rule.lhs.index < grammar.nonterminalBound
  listsIncrease : ∀ nonterminal numbers, grammar.ruleNumbers? nonterminal = some numbers →
    numbers.Pairwise (· < ·)
  memList : ∀ nonterminal numbers, grammar.ruleNumbers? nonterminal = some numbers →
    ∀ number, number ∈ numbers ↔
      ∃ rule, grammar.rule? number = some rule ∧ rule.lhs = nonterminal
  memTerminal : ∀ letter nonterminal, nonterminal ∈ grammar.lhsForTerminal letter ↔
    ⟨nonterminal, .terminal letter⟩ ∈ grammar.rules.toList
  memPair : ∀ left right nonterminal, nonterminal ∈ grammar.lhsForPair left right ↔
    ⟨nonterminal, .pair left right⟩ ∈ grammar.rules.toList

theorem wellFormed_empty : empty.WellFormed where
  nonterminalsDistinct := Numbering.distinct_empty _
  terminalsDistinct := Numbering.distinct_empty _
  rulesDistinct := Numbering.distinct_empty _
  listed := rfl
  lhsNamed rule member := absurd member List.not_mem_nil
  listsIncrease nonterminal numbers found := by cases found
  memList nonterminal numbers found := by cases found
  memTerminal letter nonterminal := by
    have absent := NonterminalSet.not_mem_empty nonterminal
    simp [lhsForTerminal, empty, LookupTable.lookup_empty, absent, Numbering.empty,
      Numbering.toList]
  memPair left right nonterminal := by
    have absent := NonterminalSet.not_mem_empty nonterminal
    simp [lhsForPair, empty, LookupTable.lookup_empty, absent, Numbering.empty,
      Numbering.toList]

/-! ## Entering a rule -/

section Enter

variable {grammar : Grammar} {rule : Rule}

theorem rules_enter (fresh : grammar.rules.position? rule = none) :
    (grammar.enter rule).rules = grammar.rules.append rule fresh := by
  rw [enter, Numbering.insert_of_position?_eq_none fresh]

theorem mem_rules_enter (fresh : grammar.rules.position? rule = none) {other : Rule} :
    other ∈ (grammar.enter rule).rules.toList ↔ other ∈ grammar.rules.toList ∨ other = rule := by
  rw [rules_enter fresh, Numbering.toList_append fresh, List.mem_append, List.mem_singleton]

theorem rule?_enter (fresh : grammar.rules.position? rule = none) (number : Nat) :
    (grammar.enter rule).rule? number =
      if number = grammar.rules.size then some rule else grammar.rule? number := by
  rw [rule?, rules_enter fresh, Numbering.get?_append fresh, rule?]

theorem ruleNumbers?_enter (nonterminal : Nonterminal) :
    (grammar.enter rule).ruleNumbers? nonterminal =
      if rule.lhs = nonterminal then
        (grammar.ruleNumbers? nonterminal).map (· ++ [grammar.rules.size])
      else
        grammar.ruleNumbers? nonterminal := by
  rw [ruleNumbers?, enter, List.getElem?_modify, ruleNumbers?]
  by_cases same : rule.lhs = nonterminal
  · simp [same]
  · have apart : rule.lhs.index ≠ nonterminal.index := by
      intro equal
      apply same
      cases nonterminal
      exact congrArg Nonterminal.mk equal
    simp [same, apart]

theorem mem_lhsForTerminal_enter {letter : Terminal} {nonterminal : Nonterminal} :
    nonterminal ∈ (grammar.enter rule).lhsForTerminal letter ↔
      nonterminal ∈ grammar.lhsForTerminal letter ∨ ⟨nonterminal, .terminal letter⟩ = rule := by
  rcases rule with ⟨lhs, rhs⟩
  cases rhs with
  | terminal other =>
      rw [lhsForTerminal, enter, LookupTable.lookup_add]
      by_cases same : letter = other
      · simp [same, NonterminalSet.mem_insert, lhsForTerminal]
      · simp [same, lhsForTerminal]
  | pair left right => simp [enter, lhsForTerminal]

theorem mem_lhsForPair_enter {left right nonterminal : Nonterminal} :
    nonterminal ∈ (grammar.enter rule).lhsForPair left right ↔
      nonterminal ∈ grammar.lhsForPair left right ∨ ⟨nonterminal, .pair left right⟩ = rule := by
  rcases rule with ⟨lhs, rhs⟩
  cases rhs with
  | terminal letter => simp [enter, lhsForPair]
  | pair first second =>
      rw [lhsForPair, enter, LookupTable.lookup_add]
      by_cases same : left = first ∧ right = second
      · simp [same.1, same.2, NonterminalSet.mem_insert, lhsForPair]
      · have apart : (left, right) ≠ (first, second) := by simpa using same
        rw [if_neg apart]
        constructor
        · exact .inl
        · intro either
          rcases either with old | new
          · exact old
          · cases new
            exact absurd ⟨rfl, rfl⟩ same

end Enter

/-! ## Every change keeps the representation -/

theorem rule?_lt_size {grammar : Grammar} {number : Nat} {rule : Rule}
    (found : grammar.rule? number = some rule) : number < grammar.rules.size := by
  rw [rule?, Numbering.get?_eq_getElem?] at found
  obtain ⟨inside, _⟩ := List.getElem?_eq_some_iff.mp found
  rwa [Numbering.length_toList] at inside

theorem mem_rules_of_rule? {grammar : Grammar} {number : Nat} {rule : Rule}
    (found : grammar.rule? number = some rule) : rule ∈ grammar.rules.toList := by
  rw [rule?, Numbering.get?_eq_getElem?] at found
  exact List.mem_of_getElem? found

namespace WellFormed

variable {grammar : Grammar}

theorem addName (formed : grammar.WellFormed) {name : String}
    (fresh : grammar.nonterminals.position? name = none) :
    WellFormed
      { grammar with
        nonterminals := grammar.nonterminals.append name fresh
        ruleLists := grammar.ruleLists ++ [[]] } where
  nonterminalsDistinct := Numbering.distinct_append fresh formed.nonterminalsDistinct
  terminalsDistinct := formed.terminalsDistinct
  rulesDistinct := formed.rulesDistinct
  listed := by
    have listed := formed.listed
    rw [nonterminalBound] at listed ⊢
    simp [Numbering.size_append, listed]
  lhsNamed rule member := by
    have named := formed.lhsNamed rule member
    rw [nonterminalBound] at named ⊢
    simp only [Numbering.size_append]
    exact Nat.lt_succ_of_lt named
  listsIncrease nonterminal numbers found := by
    rw [ruleNumbers?, List.getElem?_append] at found
    split at found
    · exact formed.listsIncrease nonterminal numbers found
    · rcases List.mem_singleton.mp (List.mem_of_getElem? found) with rfl
      exact .nil
  memList nonterminal numbers found number := by
    rw [ruleNumbers?, List.getElem?_append] at found
    split at found
    · exact formed.memList nonterminal numbers found number
    · next outside =>
        rcases List.mem_singleton.mp (List.mem_of_getElem? found) with rfl
        constructor
        · exact fun member => absurd member List.not_mem_nil
        · intro entered
          obtain ⟨rule, numbered, rfl⟩ := entered
          have named := formed.lhsNamed rule (mem_rules_of_rule? numbered)
          exact absurd (formed.listed ▸ named) outside
  memTerminal := formed.memTerminal
  memPair := formed.memPair

theorem enterRule (formed : grammar.WellFormed) {rule : Rule}
    (fresh : grammar.rules.position? rule = none)
    (named : rule.lhs.index < grammar.ruleLists.length) :
    (grammar.enter rule).WellFormed where
  nonterminalsDistinct := formed.nonterminalsDistinct
  terminalsDistinct := formed.terminalsDistinct
  rulesDistinct := rules_enter fresh ▸ Numbering.distinct_append fresh formed.rulesDistinct
  listed := (List.length_modify ..).trans formed.listed
  lhsNamed other member := by
    rcases (mem_rules_enter fresh).mp member with old | new
    · exact formed.lhsNamed other old
    · rw [new]
      exact formed.listed ▸ named
  listsIncrease nonterminal numbers found := by
    rw [ruleNumbers?_enter] at found
    split at found
    · obtain ⟨before, present, rfl⟩ := Option.map_eq_some_iff.mp found
      refine List.pairwise_append.mpr
        ⟨formed.listsIncrease nonterminal before present, List.pairwise_singleton .., ?_⟩
      intro number member last single
      obtain ⟨other, numbered, _⟩ := (formed.memList nonterminal before present number).mp member
      rw [List.mem_singleton.mp single]
      exact rule?_lt_size numbered
    · exact formed.listsIncrease nonterminal numbers found
  memList nonterminal numbers found number := by
    rw [rule?_enter fresh]
    rw [ruleNumbers?_enter] at found
    have beyond : ∀ other, grammar.rule? grammar.rules.size ≠ some other :=
      fun other numbered => Nat.lt_irrefl _ (rule?_lt_size numbered)
    split at found
    · next same =>
        obtain ⟨before, present, rfl⟩ := Option.map_eq_some_iff.mp found
        have earlier := formed.memList nonterminal before present number
        rw [List.mem_append, List.mem_singleton, earlier]
        by_cases last : number = grammar.rules.size
        · simp [last, same]
        · simp [last]
    · next apart =>
        rw [formed.memList nonterminal numbers found number]
        by_cases last : number = grammar.rules.size
        · simp [last, apart, beyond]
        · simp [last]
  memTerminal letter nonterminal := by
    rw [mem_lhsForTerminal_enter, mem_rules_enter fresh, formed.memTerminal]
  memPair left right nonterminal := by
    rw [mem_lhsForPair_enter, mem_rules_enter fresh, formed.memPair]

theorem change (formed : grammar.WellFormed) {after : Grammar} (change : grammar.Change after) :
    after.WellFormed := by
  cases change with
  | nothing => exact formed
  | nonterminal fresh => exact formed.addName fresh
  | terminal fresh =>
      exact { formed with
        terminalsDistinct := Numbering.distinct_append fresh formed.terminalsDistinct }
  | rule fresh named => exact formed.enterRule fresh named

end WellFormed

theorem Reachable.wellFormed {grammar : Grammar} (reachable : grammar.Reachable) :
    grammar.WellFormed := by
  obtain ⟨calls, performed⟩ := reachable
  exact Construction.performAll?_keeps (fun change formed => formed.change change)
    wellFormed_empty performed

/-! ## What a construction leaves behind -/

theorem nonterminal?_eq_some_iff {grammar : Grammar} (formed : grammar.WellFormed)
    {name : String} {nonterminal : Nonterminal} :
    grammar.nonterminal? name = some nonterminal ↔
      grammar.nonterminalName? nonterminal = some name := by
  rw [nonterminalName?, ← Numbering.position?_eq_some_iff formed.nonterminalsDistinct,
    nonterminal?, Option.map_eq_some_iff]
  constructor
  · intro placed
    obtain ⟨number, found, rfl⟩ := placed
    exact found
  · intro found
    exact ⟨nonterminal.index, found, rfl⟩

theorem terminal?_eq_some_iff {grammar : Grammar} (formed : grammar.WellFormed)
    {name : String} {letter : Terminal} :
    grammar.terminal? name = some letter ↔ grammar.terminalName? letter = some name := by
  rw [terminalName?, ← Numbering.position?_eq_some_iff formed.terminalsDistinct,
    terminal?, Option.map_eq_some_iff]
  constructor
  · intro placed
    obtain ⟨number, found, rfl⟩ := placed
    exact found
  · intro found
    exact ⟨letter.index, found, rfl⟩

theorem exists_ruleNumbers? {grammar : Grammar} (formed : grammar.WellFormed)
    {nonterminal : Nonterminal} (named : nonterminal.index < grammar.nonterminalBound) :
    ∃ numbers, grammar.ruleNumbers? nonterminal = some numbers := by
  rw [← formed.listed] at named
  exact ⟨grammar.ruleLists[nonterminal.index], List.getElem?_eq_getElem named⟩

theorem names_addRule {grammar after : Grammar} {rule : Rule} {number : Nat}
    (success : grammar.addRule rule = .ok (number, after)) :
    after.nonterminals = grammar.nonterminals ∧ after.terminals = grammar.terminals := by
  rcases addRule_cases success with ⟨_, rfl⟩ | ⟨_, _, _, rfl⟩
  · exact ⟨rfl, rfl⟩
  · exact ⟨rfl, rfl⟩

theorem names_perform? {grammar after : Grammar} {call : Construction}
    {answer : Construction.Answer}
    (performed : Construction.perform? grammar call = some (answer, after)) :
    ((∀ name, call ≠ .nonterminal name) → after.nonterminals = grammar.nonterminals) ∧
      ((∀ name, call ≠ .terminal name) → after.terminals = grammar.terminals) := by
  rcases Construction.perform?_cases performed with
    ⟨name, rfl, rfl⟩ | ⟨name, rfl, rfl⟩ | ⟨number, rule, _, added⟩ | ⟨cause, _, rfl⟩
  · exact ⟨fun other => absurd rfl (other name), fun _ => (grammar.others_addNonterminal name).1⟩
  · exact ⟨fun _ => rfl, fun other => absurd rfl (other name)⟩
  · obtain ⟨nonterminals, terminals⟩ := names_addRule added
    exact ⟨fun _ => nonterminals, fun _ => terminals⟩
  · exact ⟨fun _ => rfl, fun _ => rfl⟩

/-- Whatever calls built a grammar: its rules are distinct and in normal form; the list
of each nonterminal and both tables give exactly the rules there are; and names and
numbers determine each other, nonterminals and terminals apart. -/
theorem parts_agree_of_reachable {grammar : Grammar} (reachable : grammar.Reachable) :
    grammar.rules.toList.Nodup ∧
      (∀ rule ∈ grammar.rules.toList,
        (∃ letter, rule.symbols = [.terminal letter]) ∨
          ∃ left right, rule.symbols = [.nonterminal left, .nonterminal right]) ∧
      (∀ rule ∈ grammar.rules.toList, rule.lhs.index < grammar.nonterminalBound) ∧
      (∀ nonterminal : Nonterminal, nonterminal.index < grammar.nonterminalBound →
        ∃ numbers, grammar.ruleNumbers? nonterminal = some numbers ∧
          numbers.Pairwise (· < ·) ∧
          ∀ number, number ∈ numbers ↔
            ∃ rule, grammar.rule? number = some rule ∧ rule.lhs = nonterminal) ∧
      (∀ letter nonterminal, nonterminal ∈ grammar.lhsForTerminal letter ↔
        ∃ rule ∈ grammar.rules.toList,
          rule.lhs = nonterminal ∧ rule.symbols = [.terminal letter]) ∧
      (∀ left right nonterminal, nonterminal ∈ grammar.lhsForPair left right ↔
        ∃ rule ∈ grammar.rules.toList, rule.lhs = nonterminal ∧
          rule.symbols = [.nonterminal left, .nonterminal right]) ∧
      (∀ name nonterminal, grammar.nonterminal? name = some nonterminal ↔
        grammar.nonterminalName? nonterminal = some name) ∧
      (∀ nonterminal, (grammar.nonterminalName? nonterminal).isSome ↔
        nonterminal.index < grammar.nonterminalBound) ∧
      (∀ name letter, grammar.terminal? name = some letter ↔
        grammar.terminalName? letter = some name) ∧
      (∀ letter, (grammar.terminalName? letter).isSome ↔
        letter.index < grammar.terminalBound) ∧
      (∀ call answer after, Construction.perform? grammar call = some (answer, after) →
        ((∀ name, call ≠ .nonterminal name) → after.nonterminals = grammar.nonterminals) ∧
          ((∀ name, call ≠ .terminal name) → after.terminals = grammar.terminals)) := by
  have formed := reachable.wellFormed
  refine ⟨formed.rulesDistinct, fun rule _ => rule.symbols_cases, formed.lhsNamed, ?_, ?_, ?_,
    fun _ _ => nonterminal?_eq_some_iff formed, fun _ => Numbering.isSome_get?_iff,
    fun _ _ => terminal?_eq_some_iff formed, fun _ => Numbering.isSome_get?_iff,
    fun _ _ _ => names_perform?⟩
  · intro nonterminal named
    obtain ⟨numbers, found⟩ := exists_ruleNumbers? formed named
    exact ⟨numbers, found, formed.listsIncrease nonterminal numbers found,
      formed.memList nonterminal numbers found⟩
  · intro letter nonterminal
    rw [formed.memTerminal]
    exact Rule.mem_iff_exists_symbols nonterminal (.terminal letter)
  · intro left right nonterminal
    rw [formed.memPair]
    exact Rule.mem_iff_exists_symbols nonterminal (.pair left right)

/-- The lists and the table of pairs of the sample, which has a dangling nonterminal. -/
theorem parts_agree_sample :
    Construction.sample.Reachable ∧
      Construction.sample.ruleNumbers? ⟨0⟩ = some [0, 1, 2] ∧
      Construction.sample.rules.toList.Nodup ∧
      ((⟨0⟩ : Nonterminal) ∈ Construction.sample.lhsForPair ⟨0⟩ ⟨7⟩ ↔
        ∃ rule ∈ Construction.sample.rules.toList, rule.lhs = ⟨0⟩ ∧
          rule.symbols = [.nonterminal ⟨0⟩, .nonterminal ⟨7⟩]) :=
  have parts := parts_agree_of_reachable Construction.reachable_sample
  ⟨Construction.reachable_sample, by decide +kernel, parts.1,
    parts.2.2.2.2.2.1 ⟨0⟩ ⟨7⟩ ⟨0⟩⟩

end Grammar

end ChartParsing
