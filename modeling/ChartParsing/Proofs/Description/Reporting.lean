import ChartParsing.Proofs.Description.Fault
import ChartParsing.Proofs.Usefulness.Basic

/-!
# What reading reports

While a text is read, each alternative is reported as the rule that it denotes.  The reader
keeps numbers of rules only, and it may stop at an error in the middle of a statement.  But
a number is kept when the grammar has the rule, and every rule has been read with names for
all of its symbols.  So there is a report on every text.
-/

namespace ChartParsing

namespace Grammar

variable {grammar : Grammar}

theorem exists_symbolText? {symbol : Symbol} {named : NamedSymbol}
    (read : grammar.namedSymbol? symbol = some named) :
    ∃ text, grammar.symbolText? symbol = some text := by
  cases symbol with
  | nonterminal nonterminal =>
      obtain ⟨name, found, _⟩ := Option.map_eq_some_iff.mp read
      exact ⟨name, found⟩
  | terminal letter =>
      obtain ⟨name, found, _⟩ := Option.map_eq_some_iff.mp read
      rw [symbolText?, found]
      exact ⟨_, rfl⟩

theorem exists_ruleText? {rule : Rule} {named : NamedRule}
    (read : grammar.namedRule? rule = some named) :
    ∃ text, grammar.ruleText? rule = some text := by
  obtain ⟨lhsNamed, spelled⟩ := namedRule?_eq_some_iff.mp read
  obtain ⟨texts, written⟩ : ∃ texts, rule.symbols.mapM grammar.symbolText? = some texts := by
    apply exists_mapM_eq_some
    intro symbol member
    obtain ⟨_, _, named⟩ := exists_of_mem_left spelled member
    exact exists_symbolText? named
  rw [ruleText?, lhsNamed, written]
  exact ⟨_, rfl⟩

theorem size_rules_le_insert (grammar : Grammar) (rule : Rule) :
    grammar.rules.size ≤ (grammar.rules.insert rule).2.size := by
  rw [← Numbering.length_toList, ← Numbering.length_toList, Numbering.toList_insert]
  split
  · exact Nat.le_refl _
  · exact List.length_append ▸ Nat.le_add_right ..

theorem lt_size_of_addProduction {after : Grammar} {lhs : Nonterminal} {symbols : List Symbol}
    {number : Nat} (success : grammar.addProduction lhs symbols = .ok (number, after)) :
    number < after.rules.size ∧ grammar.rules.size ≤ after.rules.size := by
  obtain ⟨rhs, _, added⟩ := addProduction_cases success
  refine ⟨?_, rules_addRule added ▸ grammar.size_rules_le_insert _⟩
  rcases addRule_cases added with ⟨found, rfl⟩ | ⟨fresh, _, rfl, rfl⟩
  · exact Numbering.get?_lt_size (Numbering.get?_of_position? found)
  · have size : (grammar.enter ⟨lhs, rhs⟩).rules.size = grammar.rules.size + 1 := by
      rw [rules_enter fresh, Numbering.size_append]
    omega

end Grammar

namespace Description

/-- The grammar has a rule for every number that is kept. -/
def Reader.Numbered (reader : Reader) : Prop :=
  ∀ number ∈ reader.accepted, number < reader.grammar.rules.size

theorem Reader.Numbered.close {reader next : Reader} (numbered : reader.Numbered)
    {lhs : Nonterminal} {symbols : List Symbol} {mode : Mode}
    (closed : reader.close lhs symbols mode = .ok next) : next.Numbered := by
  unfold Reader.close at closed
  split at closed
  · next number grammar added =>
      cases closed
      obtain ⟨new, kept⟩ := Grammar.lt_size_of_addProduction added
      intro other member
      rcases List.mem_append.mp member with old | last
      · exact Nat.lt_of_lt_of_le (numbered other old) kept
      · rw [List.mem_singleton.mp last]
        exact new
  · cases closed

theorem Reader.Numbered.step {reader next : Reader} (numbered : reader.Numbered)
    {lexeme : Lexeme} (stepped : reader.step lexeme = .ok next) : next.Numbered := by
  have adding : ∀ name, ∀ number ∈ reader.accepted,
      number < (reader.grammar.addNonterminal name).2.rules.size := by
    intro name
    rw [(reader.grammar.others_addNonterminal name).2]
    exact numbered
  unfold Reader.step at stepped
  split at stepped
  · cases stepped
    exact numbered
  · cases stepped
    exact numbered
  · cases stepped
    exact adding _
  · cases stepped
    exact numbered
  · cases stepped
    exact adding _
  · cases stepped
    exact numbered
  · cases stepped
    exact adding _
  · cases stepped
    exact numbered
  · exact numbered.close stepped
  · exact numbered.close stepped
  · cases stepped

theorem Reader.Numbered.run {reader : Reader} (numbered : reader.Numbered)
    (lexemes : List Lexeme) : (reader.run lexemes).1.Numbered := by
  induction lexemes generalizing reader with
  | nil => exact numbered
  | cons lexeme rest induction =>
      rw [Reader.run]
      split
      · next next stepped => exact induction (numbered.step stepped)
      · exact numbered

theorem reader_read (text : String) :
    (read text).reader = (Reader.empty.run (lexemes text)).1 := by
  unfold read
  split
  · next ran => rw [ran]
  · next ran => rw [ran]

theorem numbered_read (text : String) : (read text).reader.Numbered := by
  have numbered : Reader.empty.Numbered := fun _ absent => absurd absent List.not_mem_nil
  rw [reader_read]
  exact numbered.run (lexemes text)

/-- What has been read is represented, also if there is an error after it. -/
theorem exists_represents_read (text : String) :
    ∃ outline, Represents (read text).reader outline := by
  rw [reader_read]
  rcases ran : Reader.empty.run (lexemes text) with ⟨final, _ | error⟩
  · obtain ⟨outline, _, represents⟩ := represents_empty.run ran
    exact ⟨outline, represents⟩
  · obtain ⟨_, _, before, _, _, represents, _⟩ := represents_empty.run_error ran
    exact ⟨before, represents⟩

/-- There is a report on every text, whether it can be read or not. -/
theorem exists_log? (text : String) : ∃ records, (read text).reader.log? = some records := by
  obtain ⟨outline, represents⟩ := exists_represents_read text
  apply exists_mapM_eq_some
  intro number member
  obtain ⟨rule, found⟩ := Numbering.exists_get? (numbered_read text number member)
  have listed : rule ∈ (read text).reader.grammar.rules.toList :=
    Grammar.mem_rules_of_rule? found
  obtain ⟨_, _, named⟩ := exists_of_mem_left represents.records.rules listed
  obtain ⟨line, written⟩ := Grammar.exists_ruleText? named
  have entered : (read text).reader.grammar.rule? number = some rule := found
  rw [entered, Option.bind_eq_bind, Option.bind_some, written]
  exact ⟨_, rfl⟩

end Description

end ChartParsing
