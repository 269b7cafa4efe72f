import ChartParsing.Proofs.Description.Reading
import ChartParsing.Proofs.Forest.Renaming
import ChartParsing.Proofs.Usefulness.Renaming

/-!
# The meaning of a description

A description means what its rules say by name.  Two texts whose statements denote the same
rules, in whatever order, groups and layout, are read as grammars that number their symbols
differently but agree by name.  All that is found with the one grammar is then found with
the other one, under the same names.
-/

namespace ChartParsing.Description

theorem Records.restatedBy {first second : Grammar} {known otherKnown : List Token}
    {denoted otherDenoted : List NamedRule} (records : Records first known denoted)
    (otherRecords : Records second otherKnown otherDenoted)
    (included : ∀ rule ∈ denoted, rule ∈ otherDenoted) : first.RestatedBy second := by
  intro rule member
  obtain ⟨named, listed, read⟩ := exists_of_mem_left records.rules member
  have otherListed := included named (List.mem_eraseDups.mp listed)
  obtain ⟨otherRule, otherMember, otherRead⟩ :=
    exists_of_mem_left otherRecords.rules.flip (List.mem_eraseDups.mpr otherListed)
  exact ⟨named, read, otherRule, otherMember, otherRead⟩

/-- Two grammars that record the same rules state the same by name. -/
theorem Records.paraphrases {first second : Grammar} {known otherKnown : List Token}
    {denoted otherDenoted : List NamedRule} (records : Records first known denoted)
    (otherRecords : Records second otherKnown otherDenoted)
    (same : ∀ rule, rule ∈ denoted ↔ rule ∈ otherDenoted) : first.Paraphrases second :=
  ⟨records.reachable.wellFormed, otherRecords.reachable.wellFormed,
    records.restatedBy otherRecords fun rule => (same rule).mp,
    otherRecords.restatedBy records fun rule => (same rule).mpr⟩

/-- The statements of a text are recorded in its grammar, and they name
its start symbol. -/
theorem records_of_parse {text : String} {description : Description}
    {statements : List Statement} (parsed : parse text = .ok description)
    (written : tokens text = statements.flatMap Statement.tokens) :
    Records description.grammar (tokens text) (statements.flatMap Statement.denotes) ∧
      Calls description.grammar description.start (startName? statements) := by
  obtain ⟨final, others, rfl, same, represents⟩ := exists_represents parsed
  have outlined := Outline.run?_empty_iff.mpr written
  cases (Outline.run?_empty_iff.mpr same).symm.trans outlined
  have records := represents.records
  have first := represents.first
  rw [Outline.known_complete, Outline.denotes_complete, ← written] at records
  rw [Outline.first?_complete] at first
  exact ⟨records, represents.declared.orElse first⟩

theorem exists_start {grammar : Grammar} {start : Option Nonterminal} {name : String}
    (calls : Calls grammar start (some name)) :
    ∃ nonterminal, start = some nonterminal ∧
      grammar.nonterminalName? nonterminal = some name := by
  cases calls with
  | some named => exact ⟨_, rfl, named⟩

/-- Every text that can be read consists of statements.  If the statements of two such
texts denote the same rules and name the same start symbol, both agree on everything by
name.  Over every input, each span is derived by nonterminals with the same names, and
namesakes are accepted over the same inputs.  The start symbols have forests that match
node by node, with equally many nodes and trees and the same answer about ambiguity, or
neither has a forest.  The names of the productive nonterminals are the same, and so are
those of the reachable ones. -/
theorem same_rules_same_meaning :
    (∀ text description, parse text = .ok description →
      ∃ statements : List Statement, tokens text = statements.flatMap Statement.tokens) ∧
      ∀ (text other : String) (description otherDescription : Description)
        (statements others : List Statement) (name : String),
        parse text = .ok description → parse other = .ok otherDescription →
        tokens text = statements.flatMap Statement.tokens →
        tokens other = others.flatMap Statement.tokens →
        (∀ rule, rule ∈ statements.flatMap Statement.denotes ↔
          rule ∈ others.flatMap Statement.denotes) →
        startName? statements = some name → startName? others = some name →
        ∃ start otherStart, description.start = some start ∧
          otherDescription.start = some otherStart ∧
          description.grammar.nonterminalName? start = some name ∧
          otherDescription.grammar.nonterminalName? otherStart = some name ∧
          (∀ (symbols : Array String) (separator : String),
            (∀ span,
              description.grammar.namesOf
                  (· ∈ (Chart.fill description.grammar symbols separator).cell span) =
                otherDescription.grammar.namesOf
                  (· ∈ (Chart.fill otherDescription.grammar symbols separator).cell span)) ∧
            (∀ nonterminal namesake,
              description.grammar.Namesakes otherDescription.grammar nonterminal namesake →
              (Chart.fill otherDescription.grammar symbols separator).accepts namesake =
                (Chart.fill description.grammar symbols separator).accepts nonterminal) ∧
            Option.Rel (fun forest otherForest =>
                (∃ place, forest.Matches description.grammar otherDescription.grammar place
                  otherForest) ∧
                otherForest.size = forest.size ∧ otherForest.treeCount = forest.treeCount ∧
                otherForest.isAmbiguous = forest.isAmbiguous)
              (Forest.extract? (.fill description.grammar symbols separator) start)
              (Forest.extract? (.fill otherDescription.grammar symbols separator) otherStart)) ∧
          ∃ found otherFound, Usefulness.analyse? description.grammar start = some found ∧
            Usefulness.analyse? otherDescription.grammar otherStart = some otherFound ∧
            description.grammar.namesOf (found.isProductive · = true) =
              otherDescription.grammar.namesOf (otherFound.isProductive · = true) ∧
            description.grammar.namesOf (found.isReachable · = true) =
              otherDescription.grammar.namesOf (otherFound.isReachable · = true) := by
  constructor
  · intro text description parsed
    obtain ⟨_, statements, _, written, _⟩ := exists_represents parsed
    exact ⟨statements, written⟩
  · intro text other description otherDescription statements others name parsed otherParsed
      written otherWritten denoted called otherCalled
    obtain ⟨records, calls⟩ := records_of_parse parsed written
    obtain ⟨otherRecords, otherCalls⟩ := records_of_parse otherParsed otherWritten
    rw [called] at calls
    rw [otherCalled] at otherCalls
    obtain ⟨start, declared, named⟩ := exists_start calls
    obtain ⟨otherStart, otherDeclared, otherNamed⟩ := exists_start otherCalls
    have paraphrases := records.paraphrases otherRecords denoted
    have namesakes : description.grammar.Namesakes otherDescription.grammar start otherStart :=
      ⟨name, named, otherNamed⟩
    refine ⟨start, otherStart, declared, otherDeclared, named, otherNamed, ?_,
      Usefulness.exists_analyses paraphrases namesakes⟩
    intro symbols separator
    refine ⟨Chart.namesOf_cell_eq paraphrases symbols separator, ?_,
      Forest.rel_extract? paraphrases namesakes symbols separator⟩
    intro nonterminal namesake same
    exact Chart.accepts_namesake paraphrases same symbols separator

def firstText : String :=
  "start S; S : A S | A B; A : 'a' | 'b'; B : 'b';"

/-- The same rules in another order, with one repeated and a declaration
that is overridden. -/
def secondText : String :=
  "start T; B : 'b' ; /* first */ A : 'b' ; S : A B | A B | A S ; start S; A : 'a' ;"

def firstStatements : List Statement :=
  [.start "S", .rules "S" [[.nonterminal "A", .nonterminal "S"]]
      [.nonterminal "A", .nonterminal "B"],
    .rules "A" [[.terminal "a"]] [.terminal "b"], .rules "B" [] [.terminal "b"]]

def secondStatements : List Statement :=
  [.start "T", .rules "B" [] [.terminal "b"], .rules "A" [] [.terminal "b"],
    .rules "S" [[.nonterminal "A", .nonterminal "B"], [.nonterminal "A", .nonterminal "B"]]
      [.nonterminal "A", .nonterminal "S"],
    .start "S", .rules "A" [] [.terminal "a"]]

theorem exists_of_map_toOption {ε α β : Type} {result : Except ε α} {read : α → β} {value : β}
    (succeeded : result.toOption.map read = some value) :
    ∃ found, result = .ok found ∧ read found = value := by
  cases result with
  | error error => cases succeeded
  | ok found => exact ⟨found, rfl, Option.some.inj succeeded⟩

theorem firstStatements_denote_secondStatements (rule : NamedRule) :
    rule ∈ firstStatements.flatMap Statement.denotes ↔
      rule ∈ secondStatements.flatMap Statement.denotes := by
  have forward : ∀ rule ∈ firstStatements.flatMap Statement.denotes,
      rule ∈ secondStatements.flatMap Statement.denotes := by decide +kernel
  have backward : ∀ rule ∈ secondStatements.flatMap Statement.denotes,
      rule ∈ firstStatements.flatMap Statement.denotes := by decide +kernel
  exact ⟨forward rule, backward rule⟩

/-- The two texts number their names differently, and their forests over
three letters match. -/
theorem same_rules_same_meaning_sample :
    ∃ description otherDescription start otherStart,
      parse firstText = .ok description ∧ parse secondText = .ok otherDescription ∧
      description.start = some start ∧ otherDescription.start = some otherStart ∧
      description.grammar.nonterminals.toList = ["S", "A", "B"] ∧
      otherDescription.grammar.nonterminals.toList = ["T", "B", "A", "S"] ∧
      ∃ forest otherForest place,
        Forest.extract? (.fill description.grammar #["a", "b", "b"] "") start = some forest ∧
        Forest.extract? (.fill otherDescription.grammar #["a", "b", "b"] "") otherStart =
          some otherForest ∧
        forest.Matches description.grammar otherDescription.grammar place otherForest := by
  have read : (parse firstText).toOption.map (fun description =>
      (description.grammar.nonterminals.toList,
        description.start.map (Chart.fill description.grammar #["a", "b", "b"] "").accepts)) =
      some (["S", "A", "B"], some true) := by decide +kernel
  have otherRead : (parse secondText).toOption.map (·.grammar.nonterminals.toList) =
      some ["T", "B", "A", "S"] := by decide +kernel
  obtain ⟨description, parsed, seen⟩ := exists_of_map_toOption read
  obtain ⟨otherDescription, otherParsed, otherNames⟩ := exists_of_map_toOption otherRead
  obtain ⟨names, accepted⟩ := Prod.mk.inj seen
  have written : tokens firstText = firstStatements.flatMap Statement.tokens := by
    decide +kernel
  have otherWritten : tokens secondText = secondStatements.flatMap Statement.tokens := by
    decide +kernel
  obtain ⟨start, otherStart, declared, otherDeclared, _, _, inputs, _⟩ :=
    same_rules_same_meaning.2 firstText secondText description otherDescription firstStatements
      secondStatements "S" parsed otherParsed written otherWritten
      firstStatements_denote_secondStatements (by decide +kernel) (by decide +kernel)
  refine ⟨description, otherDescription, start, otherStart, parsed, otherParsed, declared,
    otherDeclared, names, otherNames, ?_⟩
  rw [declared, Option.map_some, Option.some.injEq] at accepted
  have extracted := (Forest.isSome_extract?_iff Chart.finished_fill).mpr accepted
  obtain ⟨forest, found⟩ := Option.isSome_iff_exists.mp extracted
  have related := (inputs #["a", "b", "b"] "").2.2
  rw [found] at related
  generalize Forest.extract? (.fill otherDescription.grammar #["a", "b", "b"] "")
    otherStart = result at related
  obtain ⟨⟨place, matched⟩, _⟩ | _ := related
  exact ⟨forest, _, place, found, rfl, matched⟩

end ChartParsing.Description
