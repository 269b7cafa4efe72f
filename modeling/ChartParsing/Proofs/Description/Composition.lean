import ChartParsing.Proofs.Description.Meaning
import ChartParsing.Proofs.Description.Seam
import ChartParsing.Proofs.Grammar.Adoption
import ChartParsing.Proofs.Grammar.Determined

/-!
# Descriptions one after another

The statements of two texts, one after the other, are those of a text.  Its grammar is that of the
first text after it has taken over the other grammar: what the first grammar has keeps its number,
and what is new by name comes behind it, in the order of the other grammar.
-/

namespace ChartParsing.Description

/-! ## What a grammar records when it takes over another one -/

/-- Tokens that use the names of a grammar, each of them once. -/
def nameTokens (grammar : Grammar) : List Token :=
  grammar.nonterminals.toList.map .identifier ++ grammar.terminals.toList.map .quoted

theorem identifiers_nameTokens (grammar : Grammar) :
    (nameTokens grammar).filterMap Token.identifier? = grammar.nonterminals.toList := by
  rw [nameTokens, List.filterMap_append, List.filterMap_map, List.filterMap_map]
  have all : ∀ names : List String, names.filterMap (Token.identifier? ∘ .identifier) = names :=
    fun _ => List.filterMap_some
  have none : ∀ names : List String, names.filterMap (Token.identifier? ∘ .quoted) = [] := by
    simp [Token.identifier?]
  rw [all, none, List.append_nil]

theorem quoted_nameTokens (grammar : Grammar) :
    (nameTokens grammar).filterMap Token.quoted? = grammar.terminals.toList := by
  rw [nameTokens, List.filterMap_append, List.filterMap_map, List.filterMap_map]
  have all : ∀ names : List String, names.filterMap (Token.quoted? ∘ .quoted) = names :=
    fun _ => List.filterMap_some
  have none : ∀ names : List String, names.filterMap (Token.quoted? ∘ .identifier) = [] := by
    simp [Token.quoted?]
  rw [all, none, List.nil_append]

namespace Records

variable {grammar other : Grammar} {known otherKnown : List Token}
  {denoted otherDenoted : List NamedRule}

theorem foldl {add : Grammar → String → Grammar} {token : String → Token}
    (adds : ∀ {grammar : Grammar} {known : List Token}, Records grammar known denoted →
      ∀ name, Records (add grammar name) (known ++ [token name]) denoted)
    (records : Records grammar known denoted) (names : List String) :
    Records (names.foldl add grammar) (known ++ names.map token) denoted := by
  induction names generalizing grammar known with
  | nil =>
      rw [List.map_nil, List.append_nil]
      exact records
  | cons name names induction =>
      rw [List.map_cons, List.append_cons]
      exact induction (adds records name)

theorem adoptNames (records : Records grammar known denoted) (other : Grammar) :
    Records (grammar.adoptNames other) (known ++ nameTokens other) denoted := by
  have identified := records.foldl (fun records => records.identifier) other.nonterminals.toList
  rw [nameTokens, ← List.append_assoc]
  exact identified.foldl (fun records => records.quoted) other.terminals.toList

theorem exists_adoptRule (records : Records grammar known denoted)
    (included : other.NamesIn grammar) {rule : Rule} {named : NamedRule}
    (read : other.namedRule? rule = some named) :
    ∃ after, other.adoptRule grammar rule = .ok after ∧
      Records after known (denoted ++ [named]) ∧ other.NamesIn after := by
  obtain ⟨lhsNamed, spelled⟩ := Grammar.namedRule?_eq_some_iff.mp (included.namedRule? read)
  have inside : (rule.counterpart other grammar).lhs.index < grammar.ruleLists.length := by
    rw [records.reachable.wellFormed.listed]
    exact Numbering.get?_lt_size lhsNamed
  obtain ⟨number, after, added⟩ := Grammar.exists_addRule _ inside
  obtain ⟨nonterminals, terminals⟩ := Grammar.names_addRule added
  refine ⟨after, ?_, ?_, ?_⟩
  · rw [Grammar.adoptRule, added]
    rfl
  · rw [← Grammar.addProduction_symbols] at added
    exact records.production lhsNamed spelled added
  · exact ⟨nonterminals ▸ included.nonterminals, terminals ▸ included.terminals⟩

theorem exists_adoptRules (records : Records grammar known denoted)
    (included : other.NamesIn grammar) {rules : List Rule} {named : List NamedRule}
    (read : List.Forall₂ (fun rule named => other.namedRule? rule = some named) rules named) :
    ∃ after, rules.foldlM other.adoptRule grammar = .ok after ∧
      Records after known (denoted ++ named) := by
  induction read generalizing grammar denoted with
  | nil => exact ⟨grammar, rfl, (List.append_nil denoted).symm ▸ records⟩
  | cons here _ induction =>
      obtain ⟨next, adopted, later, stillIncluded⟩ := records.exists_adoptRule included here
      obtain ⟨after, reached, final⟩ := induction later stillIncluded
      refine ⟨after, ?_, List.append_cons .. ▸ final⟩
      rw [List.foldlM_cons, adopted]
      exact reached

/-- A grammar is determined by the names and rules that it records. -/
theorem eq (records : Records grammar known denoted)
    (otherRecords : Records other otherKnown otherDenoted)
    (nonterminals : (known.filterMap Token.identifier?).eraseDups =
      (otherKnown.filterMap Token.identifier?).eraseDups)
    (terminals : (known.filterMap Token.quoted?).eraseDups =
      (otherKnown.filterMap Token.quoted?).eraseDups)
    (rules : denoted.eraseDups = otherDenoted.eraseDups) : grammar = other := by
  rw [← records.nonterminals, ← otherRecords.nonterminals] at nonterminals
  rw [← records.terminals, ← otherRecords.terminals] at terminals
  have keeps : grammar.KeepsNames other :=
    Grammar.keepsNames_of_isPrefix (nonterminals ▸ List.prefix_refl _)
      (terminals ▸ List.prefix_refl _)
  have read := records.rules.imp fun _ _ found => keeps.namedRule? found
  rw [rules] at read
  exact Grammar.eq_of_toList records.reachable otherRecords.reachable nonterminals terminals
    (otherRecords.reachable.wellFormed.namedRules_injective read otherRecords.rules)

theorem exists_adopt (records : Records grammar known denoted)
    (otherRecords : Records other otherKnown otherDenoted) :
    ∃ after, grammar.adopt other = .ok after ∧
      Records after (known ++ nameTokens other) (denoted ++ otherDenoted.eraseDups) := by
  have named := records.adoptNames other
  have included : other.NamesIn (grammar.adoptNames other) := by
    constructor
    · rw [named.nonterminals, List.filterMap_append, identifiers_nameTokens]
      exact fun name member => List.mem_eraseDups.mpr (List.mem_append_right _ member)
    · rw [named.terminals, List.filterMap_append, quoted_nameTokens]
      exact fun name member => List.mem_eraseDups.mpr (List.mem_append_right _ member)
  exact named.exists_adoptRules included otherRecords.rules

/-- A grammar that records more tokens and alternatives behind those of another one is
what that one becomes when it takes over what is recorded of the rest. -/
theorem adopt_eq {whole : Grammar} (records : Records grammar known denoted)
    (otherRecords : Records other otherKnown otherDenoted)
    (combined : Records whole (known ++ otherKnown) (denoted ++ otherDenoted)) :
    grammar.adopt other = .ok whole := by
  obtain ⟨after, adopted, later⟩ := records.exists_adopt otherRecords
  have same : after = whole := by
    apply later.eq combined
    · rw [List.filterMap_append, List.filterMap_append, identifiers_nameTokens,
        otherRecords.nonterminals, eraseDups_append_eraseDups]
    · rw [List.filterMap_append, List.filterMap_append, quoted_nameTokens,
        otherRecords.terminals, eraseDups_append_eraseDups]
    · exact eraseDups_append_eraseDups denoted otherDenoted
  rw [adopted, same]

section Parts

variable {whole : Grammar}

theorem nonterminals_append (records : Records grammar known denoted)
    (otherRecords : Records other otherKnown otherDenoted)
    (combined : Records whole (known ++ otherKnown) (denoted ++ otherDenoted)) :
    whole.nonterminals.toList = grammar.nonterminals.toList ++
      other.nonterminals.toList.filter (· ∉ grammar.nonterminals.toList) := by
  rw [combined.nonterminals, List.filterMap_append, eraseDups_append, records.nonterminals,
    otherRecords.nonterminals]

theorem terminals_append (records : Records grammar known denoted)
    (otherRecords : Records other otherKnown otherDenoted)
    (combined : Records whole (known ++ otherKnown) (denoted ++ otherDenoted)) :
    whole.terminals.toList = grammar.terminals.toList ++
      other.terminals.toList.filter (· ∉ grammar.terminals.toList) := by
  rw [combined.terminals, List.filterMap_append, eraseDups_append, records.terminals,
    otherRecords.terminals]

theorem rules_isPrefix (records : Records grammar known denoted)
    (keeps : grammar.KeepsNames whole)
    (combined : Records whole (known ++ otherKnown) (denoted ++ otherDenoted)) :
    grammar.rules.toList <+: whole.rules.toList := by
  have read := combined.rules
  rw [eraseDups_append] at read
  have early := List.forall₂_take_append _ _ _ read
  have same := combined.reachable.wellFormed.namedRules_injective
    (records.rules.imp fun _ _ found => keeps.namedRule? found) early
  rw [same]
  exact List.take_prefix _ _

end Parts

end Records

/-! ## Reading what is written after a text -/

theorem exists_parse {text : String} {statements : List Statement}
    (written : tokens text = statements.flatMap Statement.tokens)
    (normal : ∀ rule ∈ statements.flatMap Statement.denotes, rule.InNormalForm) :
    ∃ description, parse text = .ok description := by
  have outlined := Outline.run?_empty_iff.mpr written
  rw [← Outline.denotes_complete] at normal
  obtain ⟨final, ran, represents⟩ := represents_empty.exists_run outlined normal
  exact ⟨final.description, parse_eq_ok_iff.mpr
    ⟨final, ran, represents.missing?_eq_none_iff.mpr rfl, rfl⟩⟩

theorem exists_statements {text : String} {description : Description}
    (parsed : parse text = .ok description) :
    ∃ statements : List Statement, tokens text = statements.flatMap Statement.tokens ∧
      ∀ rule ∈ statements.flatMap Statement.denotes, rule.InNormalForm := by
  obtain ⟨_, statements, _, written, represents⟩ := exists_represents parsed
  refine ⟨statements, written, ?_⟩
  rw [← Outline.denotes_complete]
  exact represents.normal

theorem Statement.isUnterminated_of_mem {statement : Statement} {token : Token}
    (member : token ∈ statement.tokens) : token.isUnterminated = false := by
  have written : ∀ (symbols : List NamedSymbol) (token : Token),
      token ∈ symbols.map symbolToken → token.isUnterminated = false := by
    intro symbols token member
    obtain ⟨symbol, _, rfl⟩ := List.mem_map.mp member
    cases symbol <;> rfl
  cases statement with
  | empty =>
      rw [List.mem_singleton.mp member]
      rfl
  | start name =>
      simp only [tokens, List.mem_cons, List.not_mem_nil, or_false] at member
      rcases member with rfl | rfl | rfl <;> rfl
  | rules lhs earlier last =>
      simp only [tokens, alternativeTokens, List.cons_append, List.mem_cons, List.mem_append,
        List.mem_flatMap, List.not_mem_nil, or_false] at member
      rcases member with rfl | rfl | (⟨alternative, _, inside | rfl⟩ | inside) | rfl
      · rfl
      · rfl
      · exact written alternative token inside
      · rfl
      · exact written last token inside
      · rfl

theorem startName?_append (first second : List Statement) :
    startName? (first ++ second) =
      ((second.filterMap Statement.declares?).getLast? <|>
        startName? first <|> startName? second) := by
  simp only [startName?, List.filterMap_append, List.getLast?_append, List.head?_append]
  cases (second.filterMap Statement.declares?).getLast? <;>
    cases (first.filterMap Statement.declares?).getLast? <;>
    cases (first.filterMap Statement.lhs?).head? <;> rfl

theorem terminated_of_statements {text : String} {statements : List Statement}
    (written : tokens text = statements.flatMap Statement.tokens) :
    ∀ lexeme ∈ lexemes text, lexeme.token.isUnterminated = false := by
  intro lexeme member
  have listed : lexeme.token ∈ tokens text := List.mem_map_of_mem member
  rw [written] at listed
  obtain ⟨statement, _, inside⟩ := List.mem_flatMap.mp listed
  exact Statement.isUnterminated_of_mem inside

theorem tokens_newline {first second : String} (closed : ¬EndsInBlockComment first)
    (terminated : ∀ lexeme ∈ lexemes first, lexeme.token.isUnterminated = false) :
    tokens (first ++ "\n" ++ second) = tokens first ++ tokens second := by
  rw [tokens, lexemes_newline closed terminated, List.map_append, List.map_map]
  rfl

/-! ## Composition -/

/-- A description goes on with another one if its grammar takes over the other grammar.
What it has keeps its number.  Behind come the names and rules of the other one that are
new, in the order of their numbers there; rules are compared by the names in them. -/
structure ContinuedBy (description other whole : Description) : Prop where
  adopted : description.grammar.adopt other.grammar = .ok whole.grammar
  nonterminals : whole.grammar.nonterminals.toList = description.grammar.nonterminals.toList ++
    other.grammar.nonterminals.toList.filter (· ∉ description.grammar.nonterminals.toList)
  terminals : whole.grammar.terminals.toList = description.grammar.terminals.toList ++
    other.grammar.terminals.toList.filter (· ∉ description.grammar.terminals.toList)
  kept : description.grammar.rules.toList <+: whole.grammar.rules.toList
  rules : ∃ rules otherRules,
    description.grammar.rules.toList.mapM description.grammar.namedRule? = some rules ∧
      other.grammar.rules.toList.mapM other.grammar.namedRule? = some otherRules ∧
      whole.grammar.rules.toList.mapM whole.grammar.namedRule? =
        some (rules ++ otherRules.filter (· ∉ rules))

theorem ContinuedBy.of_records {description other whole : Description}
    {known otherKnown : List Token} {denoted otherDenoted : List NamedRule}
    (records : Records description.grammar known denoted)
    (otherRecords : Records other.grammar otherKnown otherDenoted)
    (combined : Records whole.grammar (known ++ otherKnown) (denoted ++ otherDenoted)) :
    description.ContinuedBy other whole where
  adopted := records.adopt_eq otherRecords combined
  nonterminals := records.nonterminals_append otherRecords combined
  terminals := records.terminals_append otherRecords combined
  kept := by
    apply records.rules_isPrefix _ combined
    apply Grammar.keepsNames_of_isPrefix
    · rw [records.nonterminals_append otherRecords combined]
      exact List.prefix_append _ _
    · rw [records.terminals_append otherRecords combined]
      exact List.prefix_append _ _
  rules := by
    refine ⟨denoted.eraseDups, otherDenoted.eraseDups, mapM_eq_some_iff.mpr records.rules,
      mapM_eq_some_iff.mpr otherRecords.rules, ?_⟩
    rw [mapM_eq_some_iff, ← eraseDups_append]
    exact combined.rules

/-- Two texts that can be read can be read one after the other, on lines of their own,
unless the first one ends in a comment that waits for its closing mark.  The grammar
of the first one goes on with that of the second one.  The start symbol is the one
that the second text declares last, or else that of the first text, or else that of
the second one. -/
theorem parse_newline {first second : String} {description other : Description}
    (parsed : parse first = .ok description) (otherParsed : parse second = .ok other)
    (closed : ¬EndsInBlockComment first) :
    ∃ (whole : Description) (statements : List Statement),
      parse (first ++ "\n" ++ second) = .ok whole ∧
      description.ContinuedBy other whole ∧
      tokens second = statements.flatMap Statement.tokens ∧
      ∃ name otherName, Calls description.grammar description.start name ∧
        Calls other.grammar other.start otherName ∧
        Calls whole.grammar whole.start
          ((statements.filterMap Statement.declares?).getLast? <|> name <|> otherName) := by
  obtain ⟨earlier, written, normal⟩ := exists_statements parsed
  obtain ⟨later, otherWritten, otherNormal⟩ := exists_statements otherParsed
  have together : tokens (first ++ "\n" ++ second) =
      (earlier ++ later).flatMap Statement.tokens := by
    rw [tokens_newline closed (terminated_of_statements written), List.flatMap_append, written,
      otherWritten]
  have allNormal : ∀ rule ∈ (earlier ++ later).flatMap Statement.denotes, rule.InNormalForm := by
    rw [List.flatMap_append]
    exact List.forall_mem_append.mpr ⟨normal, otherNormal⟩
  obtain ⟨whole, wholeParsed⟩ := exists_parse together allNormal
  obtain ⟨records, calls⟩ := records_of_parse parsed written
  obtain ⟨otherRecords, otherCalls⟩ := records_of_parse otherParsed otherWritten
  obtain ⟨combined, wholeCalls⟩ := records_of_parse wholeParsed together
  rw [tokens_newline closed (terminated_of_statements written), List.flatMap_append] at combined
  rw [startName?_append] at wholeCalls
  exact ⟨whole, later, wholeParsed, .of_records records otherRecords combined, otherWritten,
    startName? earlier, startName? later, calls, otherCalls, wholeCalls⟩

/-- A text that ends in a comment to the end of the line. -/
def upperText : String :=
  "S : A A | 'a'; A : 'a'; // more below"

/-- A text with new and old names and rules that declares its start symbol. -/
def lowerText : String :=
  "start B; A : 'b' | 'a'; B : A A; S : 'a';"

def lowerStatements : List Statement :=
  [.start "B", .rules "A" [[.terminal "b"]] [.terminal "a"],
    .rules "B" [] [.nonterminal "A", .nonterminal "A"], .rules "S" [] [.terminal "a"]]

theorem not_endsInBlockComment_upperText : ¬EndsInBlockComment upperText := by
  intro ends
  have terminated : ∀ lexeme ∈ lexemes upperText, lexeme.token.isUnterminated = false := by
    decide +kernel
  have noMark : ¬['*', '/'] <:+: ";".toList := by decide
  have visible : lexemes (upperText ++ "\n" ++ ";") ≠ lexemes upperText := by decide +kernel
  exact visible (ends.lexemes_newline terminated noMark)

/-- Below the first text, the second one adds a name of each kind, two of its four rules
and its start symbol. -/
theorem parse_newline_sample :
    ∃ whole, parse (upperText ++ "\n" ++ lowerText) = .ok whole ∧
      whole.grammar.nonterminals.toList = ["S", "A", "B"] ∧
      whole.grammar.terminals.toList = ["a", "b"] ∧
      whole.grammar.rules.toList.mapM whole.grammar.namedRule? =
        some [⟨"S", [.nonterminal "A", .nonterminal "A"]⟩, ⟨"S", [.terminal "a"]⟩,
          ⟨"A", [.terminal "a"]⟩, ⟨"A", [.terminal "b"]⟩,
          ⟨"B", [.nonterminal "A", .nonterminal "A"]⟩] ∧
      Calls whole.grammar whole.start (some "B") := by
  have read : (parse upperText).toOption.map (fun description =>
      (description.grammar.nonterminals.toList, description.grammar.terminals.toList,
        description.grammar.rules.toList.mapM description.grammar.namedRule?)) =
      some (["S", "A"], ["a"], some [⟨"S", [.nonterminal "A", .nonterminal "A"]⟩,
        ⟨"S", [.terminal "a"]⟩, ⟨"A", [.terminal "a"]⟩]) := by decide +kernel
  have otherRead : (parse lowerText).toOption.map (fun description =>
      (description.grammar.nonterminals.toList, description.grammar.terminals.toList,
        description.grammar.rules.toList.mapM description.grammar.namedRule?)) =
      some (["B", "A", "S"], ["b", "a"], some [⟨"A", [.terminal "b"]⟩, ⟨"A", [.terminal "a"]⟩,
        ⟨"B", [.nonterminal "A", .nonterminal "A"]⟩, ⟨"S", [.terminal "a"]⟩]) := by
    decide +kernel
  obtain ⟨description, parsed, seen⟩ := exists_of_map_toOption read
  obtain ⟨other, otherParsed, otherSeen⟩ := exists_of_map_toOption otherRead
  obtain ⟨whole, statements, wholeParsed, continued, written, name, otherName, _, _, calls⟩ :=
    parse_newline parsed otherParsed not_endsInBlockComment_upperText
  simp only [Prod.mk.injEq] at seen otherSeen
  obtain ⟨names, letters, rulesRead⟩ := seen
  obtain ⟨otherNames, otherLetters, otherRulesRead⟩ := otherSeen
  obtain ⟨rules, otherRules, has, otherHas, all⟩ := continued.rules
  cases rulesRead.symm.trans has
  cases otherRulesRead.symm.trans otherHas
  have lower : tokens lowerText = lowerStatements.flatMap Statement.tokens := by decide +kernel
  cases (Outline.run?_empty_iff.mpr written).symm.trans (Outline.run?_empty_iff.mpr lower)
  refine ⟨whole, wholeParsed, ?_, ?_, ?_, calls⟩
  · rw [continued.nonterminals, names, otherNames]
    decide
  · rw [continued.terminals, letters, otherLetters]
    decide
  · rw [all]
    decide

end ChartParsing.Description
