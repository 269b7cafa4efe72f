import Mathlib.Data.Set.Basic
import ChartParsing.Proofs.Chart.Membership
import ChartParsing.Proofs.Grammar.Renaming

/-!
# Charts of grammars that agree by name

A symbol of the input names terminals of both grammars that are namesakes.  With its
namesakes, a derivation tree over an input is therefore a derivation tree of the other
grammar over the same input, and every cell holds the namesakes of what it holds in the
chart of the other grammar.
-/

namespace ChartParsing

namespace Grammar

variable {first second : Grammar}

/-- The names of the nonterminals with a property. -/
def namesOf (grammar : Grammar) (property : Nonterminal → Prop) : Set String :=
  {name | ∃ nonterminal, property nonterminal ∧ grammar.nonterminalName? nonterminal = some name}

theorem namesOf_subset {property otherProperty : Nonterminal → Prop}
    (passes : ∀ nonterminal, property nonterminal →
      first.Shares second nonterminal ∧ otherProperty (first.counterpart second nonterminal)) :
    first.namesOf property ⊆ second.namesOf otherProperty := by
  intro name named
  obtain ⟨nonterminal, holds, found⟩ := named
  obtain ⟨⟨shared, known, otherKnown⟩, passed⟩ := passes nonterminal holds
  cases found.symm.trans known
  exact ⟨first.counterpart second nonterminal, passed, otherKnown⟩

theorem namesOf_eq {property otherProperty : Nonterminal → Prop}
    (forward : ∀ nonterminal, property nonterminal →
      first.Shares second nonterminal ∧ otherProperty (first.counterpart second nonterminal))
    (backward : ∀ nonterminal, otherProperty nonterminal →
      second.Shares first nonterminal ∧ property (second.counterpart first nonterminal)) :
    first.namesOf property = second.namesOf otherProperty :=
  Set.Subset.antisymm (namesOf_subset forward) (namesOf_subset backward)

namespace Paraphrases

theorem terminal?_counterpart (paraphrases : first.Paraphrases second) {symbol : String}
    {letter : Terminal} (shares : first.SharesLetter second letter)
    (named : first.terminal? symbol = some letter) :
    second.terminal? symbol = some (first.letterCounterpart second letter) := by
  obtain ⟨name, found, otherFound⟩ := shares
  have known := (terminal?_eq_some_iff paraphrases.formed).mp named
  cases known.symm.trans found
  exact (terminal?_eq_some_iff paraphrases.otherFormed).mpr otherFound

theorem spelled_counterpart (paraphrases : first.Paraphrases second) {letters : List Terminal}
    (shares : ∀ letter ∈ letters, first.SharesLetter second letter) {symbols : List String}
    (spelled : letters.map some = symbols.map first.terminal?) :
    (letters.map (first.letterCounterpart second)).map some =
      symbols.map second.terminal? := by
  induction letters generalizing symbols with
  | nil =>
      cases symbols with
      | nil => rfl
      | cons symbol symbols => cases spelled
  | cons letter letters induction =>
      cases symbols with
      | nil => cases spelled
      | cons symbol symbols =>
          obtain ⟨here, later⟩ := List.forall_mem_cons.mp shares
          rw [List.map_cons, List.map_cons, List.cons.injEq] at spelled
          have named := paraphrases.terminal?_counterpart here spelled.1.symm
          rw [List.map_cons, List.map_cons, List.map_cons, named, induction later spelled.2]

end Paraphrases

end Grammar

variable {first second : Grammar} (paraphrases : first.Paraphrases second)
  {nonterminal other : Nonterminal}

include paraphrases

theorem DerivationTree.Parses.counterpart {symbols : List String} {tree : DerivationTree}
    (parses : tree.Parses first nonterminal symbols) :
    (tree.counterpart first second).Parses second (first.counterpart second nonterminal)
      symbols := by
  refine ⟨?_, parses.valid.counterpart paraphrases, ?_⟩
  · rw [root_counterpart, parses.root]
  · rw [letters_counterpart]
    exact paraphrases.spelled_counterpart (parses.valid.sharesLetters paraphrases) parses.spelled

namespace Chart

variable {symbols : Array String} {separator : String} {span : Span}

theorem mem_cell_counterpart
    (member : nonterminal ∈ (fill first symbols separator).cell span) :
    first.Shares second nonterminal ∧
      first.counterpart second nonterminal ∈ (fill second symbols separator).cell span := by
  have within := within_of_mem_cell member
  rw [size_fill] at within
  obtain ⟨tree, parses⟩ :=
    (mem_cell_iff_exists_tree separator paraphrases.formed within).mp member
  have shares := parses.valid.shares paraphrases
  rw [parses.root] at shares
  refine ⟨shares, ?_⟩
  exact (mem_cell_iff_exists_tree separator paraphrases.otherFormed within).mpr
    ⟨_, parses.counterpart paraphrases⟩

theorem mem_cell_namesake_iff (namesakes : first.Namesakes second nonterminal other) :
    other ∈ (fill second symbols separator).cell span ↔
      nonterminal ∈ (fill first symbols separator).cell span := by
  constructor
  · intro member
    obtain ⟨_, passed⟩ := mem_cell_counterpart paraphrases.symm member
    rwa [namesakes.symm.counterpart_eq paraphrases.formed] at passed
  · intro member
    obtain ⟨_, passed⟩ := mem_cell_counterpart paraphrases member
    rwa [namesakes.counterpart_eq paraphrases.otherFormed] at passed

theorem namesOf_cell_eq (symbols : Array String) (separator : String) (span : Span) :
    first.namesOf (· ∈ (fill first symbols separator).cell span) =
      second.namesOf (· ∈ (fill second symbols separator).cell span) :=
  Grammar.namesOf_eq (fun _ => mem_cell_counterpart paraphrases)
    (fun _ => mem_cell_counterpart paraphrases.symm)

theorem accepts_namesake (namesakes : first.Namesakes second nonterminal other)
    (symbols : Array String) (separator : String) :
    (fill second symbols separator).accepts other =
      (fill first symbols separator).accepts nonterminal := by
  rw [Bool.eq_iff_iff, accepts_iff, accepts_iff, span_fill_eq first]
  exact mem_cell_namesake_iff paraphrases namesakes

end Chart

end ChartParsing
