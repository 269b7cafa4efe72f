import ChartParsing.Proofs.Chart.Renaming
import ChartParsing.Proofs.Usefulness.Useless

/-!
# Useful nonterminals of grammars that agree by name

Trees pass to trees with the namesakes, and what a nonterminal can use in a rule passes to
what its namesake can use.  From start symbols that are namesakes, the analyses therefore
find the same names.
-/

namespace ChartParsing

variable {first second : Grammar} {start otherStart nonterminal : Nonterminal}

namespace Grammar.Paraphrases

variable (paraphrases : first.Paraphrases second)

include paraphrases

theorem closed : first.Closed := by
  apply closed_of_namedRule?
  intro rule member
  obtain ⟨named, read, _⟩ := paraphrases.forward rule member
  exact ⟨named, read⟩

theorem productive (productive : first.Productive nonterminal) :
    first.Shares second nonterminal ∧
      second.Productive (first.counterpart second nonterminal) := by
  obtain ⟨tree, valid, rfl⟩ := productive
  refine ⟨valid.shares paraphrases, _, valid.counterpart paraphrases, ?_⟩
  exact tree.root_counterpart

theorem uses {user used : Nonterminal} (uses : first.Uses user used) :
    first.Shares second used ∧
      second.Uses (first.counterpart second user) (first.counterpart second used) := by
  obtain ⟨⟨lhs, rhs⟩, member, rfl, mentioned⟩ := uses
  cases rhs with
  | terminal letter => cases mentioned
  | pair left right =>
      obtain ⟨_, leftShared, rightShared, otherMember⟩ := paraphrases.pair member
      have halves : used = left ∨ used = right := by
        simpa [Rule.nonterminals, RightHandSide.nonterminals] using mentioned
      rcases halves with rfl | rfl
      · exact ⟨leftShared, _, otherMember, rfl, by simp [Rule.nonterminals,
          RightHandSide.nonterminals]⟩
      · exact ⟨rightShared, _, otherMember, rfl, by simp [Rule.nonterminals,
          RightHandSide.nonterminals]⟩

theorem reaches (namesakes : first.Namesakes second start otherStart)
    (reached : Relation.ReflTransGen first.Uses start nonterminal) :
    first.Shares second nonterminal ∧
      Relation.ReflTransGen second.Uses otherStart (first.counterpart second nonterminal) := by
  have passed : Relation.ReflTransGen second.Uses (first.counterpart second start)
      (first.counterpart second nonterminal) :=
    reached.lift (first.counterpart second) fun _ _ uses => (paraphrases.uses uses).2
  rw [namesakes.counterpart_eq paraphrases.otherFormed] at passed
  refine ⟨?_, passed⟩
  cases reached with
  | refl => exact paraphrases.shares namesakes
  | tail _ uses => exact (paraphrases.uses uses).1

end Grammar.Paraphrases

namespace Usefulness

/-- From start symbols that are namesakes, the productive nonterminals have the same
names, and so have the reachable ones. -/
theorem exists_analyses (paraphrases : first.Paraphrases second)
    (namesakes : first.Namesakes second start otherStart) :
    ∃ found otherFound, analyse? first start = some found ∧
      analyse? second otherStart = some otherFound ∧
      first.namesOf (found.isProductive · = true) =
        second.namesOf (otherFound.isProductive · = true) ∧
      first.namesOf (found.isReachable · = true) =
        second.namesOf (otherFound.isReachable · = true) := by
  obtain ⟨name, known, otherKnown⟩ := namesakes
  obtain ⟨found, analysed, exact⟩ := exists_analyse? paraphrases.formed paraphrases.closed
    (Numbering.get?_lt_size known)
  obtain ⟨otherFound, otherAnalysed, otherExact⟩ := exists_analyse? paraphrases.otherFormed
    paraphrases.symm.closed (Numbering.get?_lt_size otherKnown)
  have namesakes : first.Namesakes second start otherStart := ⟨name, known, otherKnown⟩
  refine ⟨found, otherFound, analysed, otherAnalysed, ?_, ?_⟩
  · simp only [isProductive, NonterminalSet.contains_iff, exact.productive, otherExact.productive]
    exact Grammar.namesOf_eq (fun _ => paraphrases.productive) fun _ => paraphrases.symm.productive
  · simp only [isReachable, NonterminalSet.contains_iff, exact.reachable, otherExact.reachable]
    exact Grammar.namesOf_eq (fun _ => paraphrases.reaches namesakes)
      fun _ => paraphrases.symm.reaches namesakes.symm

end Usefulness

end ChartParsing
