import ChartParsing.Proofs.Usefulness.Useless

/-!
# Rules in another order

The rules of a grammar are numbered in the order in which they arrive, and lists,
tables and searches follow this order.  What they find does not: a grammar with
the same names under the same numbers and the same rules in another order has the
same cells, forests and useful nonterminals.  Its trees are the same, and the sets
that a search finds are known by their members.
-/

namespace ChartParsing

namespace Grammar

/-- Two grammars have the same names in the same order, and the same rules
in any order. -/
structure Rearranges (first second : Grammar) : Prop where
  nonterminals : second.nonterminals.toList = first.nonterminals.toList
  terminals : second.terminals.toList = first.terminals.toList
  rules : ∀ rule, rule ∈ second.rules.toList ↔ rule ∈ first.rules.toList

variable {first second : Grammar} {nonterminal : Nonterminal}

theorem Rearranges.symm (rearranges : first.Rearranges second) : second.Rearranges first :=
  ⟨rearranges.nonterminals.symm, rearranges.terminals.symm,
    fun rule => (rearranges.rules rule).symm⟩

theorem Rearranges.trims (rearranges : first.Rearranges second) : first.Trims second [] := by
  refine ⟨rearranges.nonterminals, rearranges.terminals, ?_⟩
  intro rule
  simp [rearranges.rules]

theorem spares_nil (grammar : Grammar) (start : Nonterminal) : grammar.Spares [] start :=
  ⟨fun _ => List.not_mem_nil, fun _ _ _ _ _ _ => List.not_mem_nil⟩

/-! ## Looking rules up -/

theorem Rearranges.lhsForTerminal (rearranges : first.Rearranges second)
    (firstFormed : first.WellFormed) (secondFormed : second.WellFormed) (letter : Terminal) :
    second.lhsForTerminal letter = first.lhsForTerminal letter := by
  apply NonterminalSet.ext
  intro nonterminal
  rw [secondFormed.memTerminal, firstFormed.memTerminal, rearranges.rules]

theorem Rearranges.lhsForPair (rearranges : first.Rearranges second)
    (firstFormed : first.WellFormed) (secondFormed : second.WellFormed)
    (left right : Nonterminal) : second.lhsForPair left right = first.lhsForPair left right := by
  apply NonterminalSet.ext
  intro nonterminal
  rw [secondFormed.memPair, firstFormed.memPair, rearranges.rules]

/-! ## Useful nonterminals -/

theorem Rearranges.productive_iff (rearranges : first.Rearranges second) :
    second.Productive nonterminal ↔ first.Productive nonterminal := by
  have same : ∀ tree : DerivationTree, tree.Valid second ↔ tree.Valid first := by
    intro tree
    rw [DerivationTree.valid_trimmed_iff rearranges.trims (spares_nil first nonterminal)]
    exact and_iff_left List.not_mem_nil
  simp only [Productive, same]

theorem Rearranges.uses (rearranges : first.Rearranges second) : second.Uses = first.Uses := by
  funext user used
  simp only [Uses, rearranges.rules]

theorem Rearranges.closed (rearranges : first.Rearranges second) (closed : first.Closed) :
    second.Closed := by
  intro rule member nonterminal mentioned
  rw [rearranges.trims.nonterminalBound]
  exact closed rule ((rearranges.rules rule).mp member) nonterminal mentioned

end Grammar

variable {first second : Grammar} {start : Nonterminal}

namespace Usefulness

theorem Exact.unique {grammar : Grammar} {found other : Usefulness}
    (foundExact : Exact grammar start found) (otherExact : Exact grammar start other) :
    other = found := by
  have productive : other.productive = found.productive := by
    apply NonterminalSet.ext
    intro nonterminal
    rw [otherExact.productive, foundExact.productive]
  have reachable : other.reachable = found.reachable := by
    apply NonterminalSet.ext
    intro nonterminal
    rw [otherExact.reachable, foundExact.reachable]
  have bound : other.bound = found.bound := otherExact.bound.trans foundExact.bound.symm
  cases other
  cases found
  cases productive
  cases reachable
  cases bound
  rfl

theorem Exact.rearranged {found : Usefulness} (rearranges : first.Rearranges second)
    (exact : Exact first start found) : Exact second start found := by
  constructor
  · intro nonterminal
    rw [exact.productive, rearranges.productive_iff]
  · intro nonterminal
    rw [exact.reachable, rearranges.uses]
  · rw [exact.bound, rearranges.trims.nonterminalBound]

theorem analyse?_of_rearranges (firstFormed : first.WellFormed)
    (secondFormed : second.WellFormed) (rearranges : first.Rearranges second)
    {found : Usefulness} (analysed : analyse? first start = some found) :
    analyse? second start = some found := by
  obtain ⟨closed, named⟩ := closed_of_analyse? analysed
  rw [← rearranges.trims.nonterminalBound] at named
  obtain ⟨other, otherAnalysed, exact⟩ :=
    exists_analyse? secondFormed (rearranges.closed closed) named
  have earlier := (exact_of_analyse? firstFormed analysed).rearranged rearranges
  rw [otherAnalysed, earlier.unique exact]

theorem analyse?_rearranged (firstFormed : first.WellFormed)
    (secondFormed : second.WellFormed) (rearranges : first.Rearranges second)
    (start : Nonterminal) : analyse? second start = analyse? first start := by
  apply Option.ext
  intro found
  constructor
  · exact analyse?_of_rearranges secondFormed firstFormed rearranges.symm
  · exact analyse?_of_rearranges firstFormed secondFormed rearranges

end Usefulness

/-! ## Charts -/

namespace Chart

theorem dump_congr {chart other : Chart} (symbols : other.symbols = chart.symbols)
    (separator : other.separator = chart.separator) (cells : other.cell = chart.cell) :
    other.dump = chart.dump := by
  have size : other.size = chart.size := congrArg Array.size symbols
  have spans : other.spans = chart.spans := by rw [Chart.spans, Chart.spans, size]
  have entries : other.entry = chart.entry := by
    funext span
    rw [entry, entry, substring, substring, symbols, separator, size, cells]
  rw [dump, dump, spans, entries, cells]

theorem cell_rearranged (firstFormed : first.WellFormed) (secondFormed : second.WellFormed)
    (rearranges : first.Rearranges second) (symbols : Array String) (separator : String) :
    (fill second symbols separator).cell = (fill first symbols separator).cell := by
  funext span
  apply NonterminalSet.ext
  intro nonterminal
  rw [mem_cell_trimmed_iff firstFormed secondFormed rearranges.trims
    (Grammar.spares_nil first nonterminal)]
  exact and_iff_left List.not_mem_nil

theorem dump_rearranged (firstFormed : first.WellFormed) (secondFormed : second.WellFormed)
    (rearranges : first.Rearranges second) (symbols : Array String) (separator : String) :
    (fill second symbols separator).dump = (fill first symbols separator).dump := by
  apply dump_congr
  · rw [symbols_fill, symbols_fill]
  · rw [(sameInput_fill second symbols separator).separator,
      (sameInput_fill first symbols separator).separator]
    rfl
  · exact cell_rearranged firstFormed secondFormed rearranges symbols separator

end Chart

namespace Grammar

/-- Under two grammars with the same names and rules, however the rules arrived, the
same is looked up, every input has the same dump, every start symbol has the same forest
with the same count of trees, and the same nonterminals are useful for it. -/
theorem rearranging_changes_nothing {first second : Grammar} (firstBuilt : first.Reachable)
    (secondBuilt : second.Reachable) (rearranges : first.Rearranges second) :
    (∀ letter, second.lhsForTerminal letter = first.lhsForTerminal letter) ∧
      (∀ left right, second.lhsForPair left right = first.lhsForPair left right) ∧
      (∀ (symbols : Array String) (separator : String),
        (Chart.fill second symbols separator).dump = (Chart.fill first symbols separator).dump ∧
          ∀ start,
            Forest.extract? (.fill second symbols separator) start =
              Forest.extract? (.fill first symbols separator) start ∧
            (Forest.extract? (.fill second symbols separator) start).map Forest.treeCount =
              (Forest.extract? (.fill first symbols separator) start).map Forest.treeCount) ∧
      ∀ start, Usefulness.analyse? second start = Usefulness.analyse? first start ∧
        (Usefulness.analyse? second start).map Usefulness.useless =
          (Usefulness.analyse? first start).map Usefulness.useless := by
  have firstFormed := firstBuilt.wellFormed
  have secondFormed := secondBuilt.wellFormed
  refine ⟨rearranges.lhsForTerminal firstFormed secondFormed,
    rearranges.lhsForPair firstFormed secondFormed, ?_, ?_⟩
  · intro symbols separator
    refine ⟨Chart.dump_rearranged firstFormed secondFormed rearranges symbols separator, ?_⟩
    intro start
    have forests := Forest.extract?_trimmed firstFormed secondFormed rearranges.trims
      (spares_nil first start) symbols separator
    exact ⟨forests, by rw [forests]⟩
  · intro start
    have analyses := Usefulness.analyse?_rearranged firstFormed secondFormed rearranges start
    exact ⟨analyses, by rw [analyses]⟩

def arrangedNames : List Construction :=
  [.nonterminal "S", .nonterminal "A", .terminal "a"]

/-- An ambiguous grammar with its rules in one order. -/
def arranged : Grammar :=
  (Construction.performAll? .empty (arrangedNames ++
    [.pairRule ⟨0⟩ ⟨0⟩ ⟨0⟩, .pairRule ⟨0⟩ ⟨1⟩ ⟨0⟩, .terminalRule ⟨0⟩ ⟨0⟩,
      .terminalRule ⟨1⟩ ⟨0⟩])).getD .empty

/-- The same rules in another order, with one refused and one repeated on the way. -/
def rearranged : Grammar :=
  (Construction.performAll? .empty (arrangedNames ++
    [.terminalRule ⟨1⟩ ⟨0⟩, .production ⟨0⟩ [.nonterminal ⟨1⟩], .terminalRule ⟨0⟩ ⟨0⟩,
      .production ⟨0⟩ [.nonterminal ⟨1⟩, .nonterminal ⟨0⟩], .terminalRule ⟨0⟩ ⟨0⟩,
      .pairRule ⟨0⟩ ⟨0⟩ ⟨0⟩])).getD .empty

theorem rearranges_arranged : arranged.Rearranges rearranged := by
  have permuted : rearranged.rules.toList.Perm arranged.rules.toList := by decide +kernel
  exact ⟨by decide +kernel, by decide +kernel, fun _ => permuted.mem_iff⟩

/-- The rules have other numbers, and over three symbols there is the same forest. -/
theorem rearranging_changes_nothing_sample :
    arranged.Reachable ∧ rearranged.Reachable ∧ arranged.Rearranges rearranged ∧
      rearranged.rules.toList ≠ arranged.rules.toList ∧
      Forest.extract? (.fill rearranged #["a", "a", "a"] " ") ⟨0⟩ =
        Forest.extract? (.fill arranged #["a", "a", "a"] " ") ⟨0⟩ ∧
      (Forest.extract? (.fill arranged #["a", "a", "a"] " ") ⟨0⟩).map Forest.treeCount =
        some 6 := by
  have arrangedBuilt : arranged.Reachable := Construction.reachable_performAll? _
  have rearrangedBuilt : rearranged.Reachable := Construction.reachable_performAll? _
  obtain ⟨_, _, inputs, _⟩ :=
    rearranging_changes_nothing arrangedBuilt rearrangedBuilt rearranges_arranged
  obtain ⟨_, forests⟩ := inputs #["a", "a", "a"] " "
  exact ⟨arrangedBuilt, rearrangedBuilt, rearranges_arranged, by decide +kernel,
    (forests ⟨0⟩).1, by decide +kernel⟩

end Grammar

end ChartParsing
