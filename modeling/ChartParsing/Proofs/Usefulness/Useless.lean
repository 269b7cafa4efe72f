import ChartParsing.Proofs.Description.Reading
import ChartParsing.Proofs.Usefulness.Reachability
import ChartParsing.Proofs.Usefulness.Removal

/-!
# Useless nonterminals

The analysis finds the nonterminals that are productive and reachable.  A tree
below a useful nonterminal contains useful ones only: they are productive by
their subtrees, and reachable by the rules above them.  The useless ones can
therefore be removed, and every forest of the start symbol stays the same.
-/

namespace ChartParsing

namespace Rule

theorem nonterminal_mem_symbols_iff {rule : Rule} {nonterminal : Nonterminal} :
    .nonterminal nonterminal ∈ rule.symbols ↔ nonterminal ∈ rule.nonterminals := by
  rcases rule with ⟨lhs, rhs⟩
  cases rhs with
  | terminal letter =>
      simp [symbols, nonterminals, RightHandSide.symbols, RightHandSide.nonterminals]
  | pair left right =>
      simp [symbols, nonterminals, RightHandSide.symbols, RightHandSide.nonterminals]

end Rule

namespace Grammar

variable {grammar : Grammar}

/-- Every symbol that a rule mentions has a name. -/
def Named (grammar : Grammar) : Prop :=
  ∀ rule ∈ grammar.rules.toList, ∀ symbol ∈ rule.symbols,
    ∃ name, grammar.namedSymbol? symbol = some name

theorem named_of_namedRule?
    (readable : ∀ rule ∈ grammar.rules.toList, ∃ name, grammar.namedRule? rule = some name) :
    grammar.Named := by
  intro rule member symbol mentioned
  obtain ⟨name, read⟩ := readable rule member
  obtain ⟨symbolName, _, found⟩ :=
    exists_of_mem_left (namedRule?_eq_some_iff.mp read).2 mentioned
  exact ⟨symbolName, found⟩

theorem Named.closed (named : grammar.Named) : grammar.Closed := by
  intro rule member nonterminal mentioned
  obtain ⟨name, found⟩ :=
    named rule member _ (Rule.nonterminal_mem_symbols_iff.mpr mentioned)
  obtain ⟨text, known, _⟩ := Option.map_eq_some_iff.mp found
  exact Numbering.get?_lt_size known

theorem closed_of_namedRule?
    (readable : ∀ rule ∈ grammar.rules.toList, ∃ name, grammar.namedRule? rule = some name) :
    grammar.Closed :=
  (named_of_namedRule? readable).closed

end Grammar

theorem Description.namedRule?_of_parse {text : String} {description : Description}
    (parsed : parse text = .ok description) :
    description.grammar.Reachable ∧ ∀ rule ∈ description.grammar.rules.toList,
      ∃ name, description.grammar.namedRule? rule = some name := by
  obtain ⟨final, statements, rfl, _, represents⟩ := exists_represents parsed
  refine ⟨represents.records.reachable, ?_⟩
  intro rule member
  obtain ⟨name, _, read⟩ := exists_of_mem_left represents.records.rules member
  exact ⟨name, read⟩

namespace Usefulness

variable {grammar : Grammar} {start nonterminal : Nonterminal} {found : Usefulness}

/-- The analysis has found what is productive and what rules lead to from
the start symbol. -/
structure Exact (grammar : Grammar) (start : Nonterminal) (found : Usefulness) : Prop where
  productive : ∀ nonterminal, nonterminal ∈ found.productive ↔ grammar.Productive nonterminal
  reachable : ∀ nonterminal, nonterminal ∈ found.reachable ↔
    Relation.ReflTransGen grammar.Uses start nonterminal
  bound : found.bound = grammar.nonterminalBound

theorem exists_analyse? (formed : grammar.WellFormed) (closed : grammar.Closed)
    (named : start.index < grammar.nonterminalBound) :
    ∃ found, analyse? grammar start = some found ∧ Exact grammar start found := by
  obtain ⟨productive, marked, productiveIff⟩ := exists_productive? formed closed
  obtain ⟨reachable, searched, reachableIff⟩ := exists_reachable? formed closed named
  refine ⟨⟨productive, reachable, grammar.nonterminalBound⟩, ?_, productiveIff, reachableIff, rfl⟩
  rw [analyse?, marked, searched]
  rfl

theorem closed_of_analyse? (analysed : analyse? grammar start = some found) :
    grammar.Closed ∧ start.index < grammar.nonterminalBound := by
  obtain ⟨productive, marked, rest⟩ := Option.bind_eq_some_iff.mp analysed
  obtain ⟨reached, searched, _⟩ := Option.bind_eq_some_iff.mp rest
  obtain ⟨table, noted, _⟩ := Option.bind_eq_some_iff.mp marked
  refine ⟨closed_of_dependents? noted, ?_⟩
  rw [reachable?] at searched
  split at searched
  · next named => exact named
  · cases searched

theorem exact_of_analyse? (formed : grammar.WellFormed)
    (analysed : analyse? grammar start = some found) : Exact grammar start found := by
  obtain ⟨closed, named⟩ := closed_of_analyse? analysed
  obtain ⟨other, otherAnalysed, exact⟩ := exists_analyse? formed closed named
  cases analysed.symm.trans otherAnalysed
  exact exact

theorem Exact.mem_useless_iff (exact : Exact grammar start found) :
    nonterminal ∈ found.useless ↔ nonterminal.index < grammar.nonterminalBound ∧
      ¬(grammar.Productive nonterminal ∧ Relation.ReflTransGen grammar.Uses start nonterminal) := by
  have listed : nonterminal ∈ (List.range found.bound).map Nonterminal.mk ↔
      nonterminal.index < grammar.nonterminalBound := by
    rw [exact.bound, List.mem_map]
    constructor
    · intro numbered
      obtain ⟨index, below, rfl⟩ := numbered
      exact List.mem_range.mp below
    · intro below
      exact ⟨nonterminal.index, List.mem_range.mpr below, rfl⟩
  rw [useless, List.mem_filter, listed, ← exact.productive, ← exact.reachable,
    ← NonterminalSet.contains_iff, ← NonterminalSet.contains_iff, isProductive, isReachable]
  simp only [← Bool.not_and, Bool.not_eq_true', Bool.and_eq_false_iff, not_and_or,
    Bool.not_eq_true]

/-- Whatever a useful nonterminal can use in a tree is useful. -/
theorem Exact.spares (formed : grammar.WellFormed) (exact : Exact grammar start found) :
    grammar.Spares found.useless start := by
  constructor
  · intro productive useless
    exact (exact.mem_useless_iff.mp useless).2 ⟨productive, .refl⟩
  · intro rule member kept productive nonterminal mentioned useless
    apply kept
    refine exact.mem_useless_iff.mpr ⟨formed.lhsNamed rule member, ?_⟩
    intro useful
    exact (exact.mem_useless_iff.mp useless).2 ⟨productive nonterminal mentioned,
      useful.2.tail ⟨rule, member, rfl, mentioned⟩⟩

/-- Every described grammar is closed.  If a grammar is closed and the start symbol has
a name, there is an analysis, and there is a grammar with the same names in the same
order and the rules that mention nothing useless.  Under any such grammar and for every
input, the cells are as before without the useless nonterminals, and the start symbol is
accepted as before.  It has the same forest, and no node of that is useless. -/
theorem trimming_keeps_forests :
    (∀ text description, Description.parse text = .ok description →
      description.grammar.Reachable ∧ description.grammar.Closed) ∧
      ∀ (grammar : Grammar) (start : Nonterminal), grammar.Reachable → grammar.Closed →
        start.index < grammar.nonterminalBound →
        ∃ found, analyse? grammar start = some found ∧
          (∃ trimmed : Grammar, trimmed.Reachable ∧ grammar.Trims trimmed found.useless) ∧
          ∀ trimmed : Grammar, trimmed.Reachable → grammar.Trims trimmed found.useless →
            ∀ (symbols : Array String) (separator : String),
              (∀ span, ((Chart.fill trimmed symbols separator).cell span).toList =
                ((Chart.fill grammar symbols separator).cell span).toList.filter
                  (· ∉ found.useless)) ∧
              (Chart.fill trimmed symbols separator).accepts start =
                (Chart.fill grammar symbols separator).accepts start ∧
              Forest.extract? (Chart.fill trimmed symbols separator) start =
                Forest.extract? (Chart.fill grammar symbols separator) start ∧
              ∀ forest,
                Forest.extract? (Chart.fill grammar symbols separator) start = some forest →
                ∀ node ∈ forest.nodes, node.item.nonterminal ∉ found.useless := by
  constructor
  · intro text description parsed
    obtain ⟨reachable, named⟩ := Description.namedRule?_of_parse parsed
    exact ⟨reachable, Grammar.closed_of_namedRule? named⟩
  · intro grammar start reachable closed named
    have formed := reachable.wellFormed
    obtain ⟨found, analysed, exact⟩ := exists_analyse? formed closed named
    have spares := exact.spares formed
    refine ⟨found, analysed, reachable.exists_trims found.useless, ?_⟩
    intro trimmed built trims symbols separator
    have trimmedFormed := built.wellFormed
    have same := Forest.extract?_trimmed formed trimmedFormed trims spares symbols separator
    refine ⟨Chart.toList_cell_trimmed formed trimmedFormed trims spares,
      Chart.accepts_trimmed formed trimmedFormed trims spares, same, ?_⟩
    intro forest extracted node member
    rw [← same] at extracted
    have explained := Forest.explained_of_extract? Chart.finished_fill extracted
    have inCell := Forest.member_of_mem_nodes explained member
    exact ((Chart.mem_cell_trimmed_iff formed trimmedFormed trims spares).mp inCell).2

def sampleNames : List Construction :=
  [.nonterminal "S", .nonterminal "A", .nonterminal "B", .nonterminal "C", .terminal "a"]

/-- A grammar in which `B` derives nothing, and `C` is not reachable from `S`. -/
def surplus : Grammar :=
  (Construction.performAll? .empty (sampleNames ++
    [.pairRule ⟨0⟩ ⟨1⟩ ⟨2⟩, .pairRule ⟨0⟩ ⟨1⟩ ⟨1⟩, .pairRule ⟨2⟩ ⟨2⟩ ⟨1⟩, .terminalRule ⟨3⟩ ⟨0⟩,
      .terminalRule ⟨1⟩ ⟨0⟩])).getD .empty

/-- The grammar with the rules that mention neither. -/
def thinned : Grammar :=
  (Construction.performAll? .empty (sampleNames ++
    [.pairRule ⟨0⟩ ⟨1⟩ ⟨1⟩, .terminalRule ⟨1⟩ ⟨0⟩])).getD .empty

theorem trims_surplus : surplus.Trims thinned [⟨2⟩, ⟨3⟩] := by
  have kept : thinned.rules.toList = surplus.rules.toList.filter fun rule =>
      (rule.lhs :: rule.nonterminals).all (· ∉ [(⟨2⟩ : Nonterminal), ⟨3⟩]) := by
    decide +kernel
  refine ⟨by decide +kernel, by decide +kernel, ?_⟩
  intro rule
  rw [kept, List.mem_filter, List.all_eq_true]
  simp only [decide_eq_true_iff]

/-- Over one position `C` leaves the cell, and over two the forest stays. -/
theorem trimming_keeps_forests_sample :
    surplus.Reachable ∧ thinned.Reachable ∧ surplus.Closed ∧ 0 < surplus.nonterminalBound ∧
      ∃ found, analyse? surplus ⟨0⟩ = some found ∧ surplus.Trims thinned found.useless ∧
        ((Chart.fill surplus #["a", "a"] " ").cell ⟨0, 1⟩).toList = [⟨1⟩, ⟨3⟩] ∧
        ((Chart.fill thinned #["a", "a"] " ").cell ⟨0, 1⟩).toList = [⟨1⟩] ∧
        ∃ forest, Forest.extract? (Chart.fill surplus #["a", "a"] " ") ⟨0⟩ = some forest ∧
          Forest.extract? (Chart.fill thinned #["a", "a"] " ") ⟨0⟩ = some forest := by
  have surplusBuilt : surplus.Reachable := Construction.reachable_performAll? _
  have thinnedBuilt : thinned.Reachable := Construction.reachable_performAll? _
  have closed : surplus.Closed := by
    unfold Grammar.Closed
    decide +kernel
  have named : 0 < surplus.nonterminalBound := by decide +kernel
  obtain ⟨found, analysed, _, keeps⟩ :=
    trimming_keeps_forests.2 surplus ⟨0⟩ surplusBuilt closed named
  have useless : (analyse? surplus ⟨0⟩).map Usefulness.useless = some [⟨2⟩, ⟨3⟩] := by
    decide +kernel
  rw [analysed, Option.map_some, Option.some.injEq] at useless
  have trims := trims_surplus
  rw [← useless] at trims
  obtain ⟨cells, _, same, _⟩ := keeps thinned thinnedBuilt trims #["a", "a"] " "
  have before : ((Chart.fill surplus #["a", "a"] " ").cell ⟨0, 1⟩).toList = [⟨1⟩, ⟨3⟩] := by
    decide +kernel
  have accepted : (Forest.extract? (Chart.fill surplus #["a", "a"] " ") ⟨0⟩).isSome := by
    decide +kernel
  obtain ⟨forest, extracted⟩ := Option.isSome_iff_exists.mp accepted
  refine ⟨surplusBuilt, thinnedBuilt, closed, named, found, analysed, trims, before, ?_, forest,
    extracted, same.trans extracted⟩
  rw [cells, before, useless]
  decide

end Usefulness

end ChartParsing
