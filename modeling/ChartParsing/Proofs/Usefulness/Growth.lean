import ChartParsing.Proofs.Forest.Growth
import ChartParsing.Proofs.Usefulness.Useless

/-!
# A growing grammar loses nothing

Calls on a grammar only add to it.  What it derives is derived afterwards: cells,
acceptance, forests and the number of trees can only grow.  So do the productive
and the reachable nonterminals, as far as both grammars can be analysed; a call may
well add a rule that mentions a nonterminal without a name.
-/

namespace ChartParsing

variable {before after : Grammar} {start nonterminal : Nonterminal}

theorem Grammar.Productive.extends (grown : before.Extends after)
    (productive : before.Productive nonterminal) : after.Productive nonterminal := by
  obtain ⟨tree, valid, root⟩ := productive
  exact ⟨tree, valid.extends grown, root⟩

theorem Grammar.leads_extends (grown : before.Extends after)
    (leads : Relation.ReflTransGen before.Uses start nonterminal) :
    Relation.ReflTransGen after.Uses start nonterminal := by
  refine Relation.ReflTransGen.mono ?_ _ _ leads
  intro user used uses
  obtain ⟨rule, member, mentions⟩ := uses
  exact ⟨rule, grown.rules rule member, mentions⟩

namespace Usefulness

theorem Exact.extends (grown : before.Extends after) {found later : Usefulness}
    (exact : Exact before start found) (laterExact : Exact after start later) :
    (found.isProductive nonterminal = true → later.isProductive nonterminal = true) ∧
      (found.isReachable nonterminal = true → later.isReachable nonterminal = true) := by
  simp only [isProductive, isReachable, NonterminalSet.contains_iff, exact.productive,
    exact.reachable, laterExact.productive, laterExact.reachable]
  exact ⟨fun productive => productive.extends grown, Grammar.leads_extends grown⟩

end Usefulness

namespace Construction

/-- Calls on a grammar only add derivations.  For every input the cells keep their
members, what is accepted stays accepted, and a forest is found again in the forest
afterwards, which counts at least as many trees.  If there is an analysis before and
after, what is productive or reachable stays so. -/
theorem calls_add_derivations (reachable : before.Reachable) {calls : List Construction}
    (performed : performAll? before calls = some after) :
    (∀ (symbols : Array String) (separator : String),
      (∀ span, ∀ nonterminal ∈ (Chart.fill before symbols separator).cell span,
        nonterminal ∈ (Chart.fill after symbols separator).cell span) ∧
      (∀ start, (Chart.fill before symbols separator).accepts start = true →
        (Chart.fill after symbols separator).accepts start = true) ∧
      ∀ start forest, Forest.extract? (.fill before symbols separator) start = some forest →
        ∃ larger, Forest.extract? (.fill after symbols separator) start = some larger ∧
          forest.Within larger ∧ forest.treeCount ≤ larger.treeCount) ∧
      ∀ start found later, Usefulness.analyse? before start = some found →
        Usefulness.analyse? after start = some later → ∀ nonterminal,
          (found.isProductive nonterminal = true → later.isProductive nonterminal = true) ∧
          (found.isReachable nonterminal = true → later.isReachable nonterminal = true) := by
  have grown := Grammar.extends_of_performAll? performed
  have formed := reachable.wellFormed
  have afterFormed := (reachable.performAll? performed).wellFormed
  constructor
  · intro symbols separator
    exact ⟨fun _ _ => Chart.mem_cell_extends grown formed afterFormed,
      fun _ => Chart.accepts_extends grown formed afterFormed,
      fun _ _ => Forest.exists_extract?_extends grown formed afterFormed⟩
  · intro start found later analysed laterAnalysed nonterminal
    exact (Usefulness.exact_of_analyse? formed analysed).extends grown
      (Usefulness.exact_of_analyse? afterFormed laterAnalysed)

/-- A grammar with a rule for a terminal that has no name yet. -/
def unfinished : Grammar :=
  (performAll? .empty
    [.nonterminal "S", .terminal "a", .terminalRule ⟨0⟩ ⟨0⟩, .terminalRule ⟨0⟩ ⟨1⟩,
      .pairRule ⟨0⟩ ⟨0⟩ ⟨0⟩]).getD .empty

/-- Calls that give the terminal its name and add a second way to derive a
pair of letters. -/
def finishingCalls : List Construction :=
  [.terminal "b", .nonterminal "T", .terminalRule ⟨1⟩ ⟨1⟩, .production ⟨0⟩ [],
    .production ⟨0⟩ [.nonterminal ⟨0⟩, .nonterminal ⟨1⟩]]

def finished : Grammar :=
  (performAll? unfinished finishingCalls).getD .empty

/-- With the name the letter `b` is known, over which there was nothing before. -/
theorem calls_add_derivations_sample :
    unfinished.Reachable ∧ performAll? unfinished finishingCalls = some finished ∧
      ((Chart.fill unfinished #["a", "b"] " ").cell ⟨1, 1⟩).toList = [] ∧
      ((Chart.fill finished #["a", "b"] " ").cell ⟨1, 1⟩).toList = [⟨0⟩, ⟨1⟩] ∧
      (∃ forest larger, Forest.extract? (.fill unfinished #["a", "a"] " ") ⟨0⟩ = some forest ∧
        Forest.extract? (.fill finished #["a", "a"] " ") ⟨0⟩ = some larger ∧
        forest.Within larger ∧ forest.treeCount ≤ larger.treeCount) ∧
      ∃ later, Usefulness.analyse? finished ⟨0⟩ = some later ∧ later.isProductive ⟨0⟩ = true := by
  have reachable : unfinished.Reachable := reachable_performAll? _
  have performed : performAll? unfinished finishingCalls = some finished := by decide +kernel
  obtain ⟨keeps, analysis⟩ := calls_add_derivations reachable performed
  have extracted : (Forest.extract? (.fill unfinished #["a", "a"] " ") ⟨0⟩).isSome := by
    decide +kernel
  obtain ⟨forest, extracted⟩ := Option.isSome_iff_exists.mp extracted
  obtain ⟨larger, found⟩ := (keeps #["a", "a"] " ").2.2 ⟨0⟩ forest extracted
  have before : (Usefulness.analyse? unfinished ⟨0⟩).map (·.isProductive ⟨0⟩) = some true := by
    decide +kernel
  have analysed : (Usefulness.analyse? finished ⟨0⟩).isSome := by decide +kernel
  obtain ⟨foundBefore, analysedBefore, productive⟩ := Option.map_eq_some_iff.mp before
  obtain ⟨later, analysedAfter⟩ := Option.isSome_iff_exists.mp analysed
  exact ⟨reachable, performed, by decide +kernel, by decide +kernel,
    ⟨forest, larger, extracted, found⟩, later, analysedAfter,
    (analysis ⟨0⟩ foundBefore later analysedBefore analysedAfter ⟨0⟩).1 productive⟩

end Construction

end ChartParsing
