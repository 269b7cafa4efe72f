import ChartParsing.Proofs.Grammar.Naming
import ChartParsing.Proofs.Grammar.Rewriting

/-!
# Grammars that agree by name

Two grammars can number the same names differently.  If each rule of either can be read by
name and is read like a rule of the other one, the nonterminals and terminals of the rules
have namesakes there.  With all its symbols replaced by their namesakes, a rule becomes a
rule of the other grammar and a derivation tree becomes one, and replacing them once more
gives back the tree.
-/

namespace ChartParsing

namespace Numbering

variable {α : Type} [DecidableEq α] [Bucketed α] {first second : Numbering α}

/-- The number that another numbering has for the same value.  A number
without one stays. -/
def counterpart (first second : Numbering α) (number : Nat) : Nat :=
  ((first.get? number).bind second.position?).getD number

theorem counterpart_eq (distinct : second.Distinct) {value : α} {number other : Nat}
    (found : first.get? number = some value) (otherFound : second.get? other = some value) :
    first.counterpart second number = other := by
  have position := (position?_eq_some_iff distinct).mpr otherFound
  rw [counterpart, found, Option.bind_some, position, Option.getD_some]

end Numbering

namespace Grammar

/-- Nonterminals of two grammars with the same name. -/
def Namesakes (first second : Grammar) (nonterminal other : Nonterminal) : Prop :=
  ∃ name, first.nonterminalName? nonterminal = some name ∧
    second.nonterminalName? other = some name

/-- Terminals of two grammars with the same name. -/
def LetterNamesakes (first second : Grammar) (letter other : Terminal) : Prop :=
  ∃ name, first.terminalName? letter = some name ∧ second.terminalName? other = some name

/-- The namesake of a nonterminal in another grammar, if it has one there. -/
def counterpart (first second : Grammar) (nonterminal : Nonterminal) : Nonterminal :=
  ⟨first.nonterminals.counterpart second.nonterminals nonterminal.index⟩

/-- The namesake of a terminal in another grammar, if it has one there. -/
def letterCounterpart (first second : Grammar) (letter : Terminal) : Terminal :=
  ⟨first.terminals.counterpart second.terminals letter.index⟩

/-- Rules of two grammars that are alike but for the numbers of their symbols. -/
inductive RuleNamesakes (first second : Grammar) : Rule → Rule → Prop where
  | terminal {lhs otherLhs : Nonterminal} {letter otherLetter : Terminal} :
      first.Namesakes second lhs otherLhs → first.LetterNamesakes second letter otherLetter →
      RuleNamesakes first second ⟨lhs, .terminal letter⟩ ⟨otherLhs, .terminal otherLetter⟩
  | pair {lhs otherLhs left otherLeft right otherRight : Nonterminal} :
      first.Namesakes second lhs otherLhs → first.Namesakes second left otherLeft →
      first.Namesakes second right otherRight →
      RuleNamesakes first second ⟨lhs, .pair left right⟩ ⟨otherLhs, .pair otherLeft otherRight⟩

variable {first second : Grammar} {nonterminal other : Nonterminal} {letter otherLetter : Terminal}

/-! ## Namesakes -/

theorem Namesakes.symm (namesakes : first.Namesakes second nonterminal other) :
    second.Namesakes first other nonterminal := by
  obtain ⟨name, found, otherFound⟩ := namesakes
  exact ⟨name, otherFound, found⟩

theorem LetterNamesakes.symm (namesakes : first.LetterNamesakes second letter otherLetter) :
    second.LetterNamesakes first otherLetter letter := by
  obtain ⟨name, found, otherFound⟩ := namesakes
  exact ⟨name, otherFound, found⟩

theorem Namesakes.counterpart_eq (formed : second.WellFormed)
    (namesakes : first.Namesakes second nonterminal other) :
    first.counterpart second nonterminal = other := by
  obtain ⟨name, found, otherFound⟩ := namesakes
  exact congrArg Nonterminal.mk
    (Numbering.counterpart_eq formed.nonterminalsDistinct found otherFound)

theorem LetterNamesakes.letterCounterpart_eq (formed : second.WellFormed)
    (namesakes : first.LetterNamesakes second letter otherLetter) :
    first.letterCounterpart second letter = otherLetter := by
  obtain ⟨name, found, otherFound⟩ := namesakes
  exact congrArg Terminal.mk
    (Numbering.counterpart_eq formed.terminalsDistinct found otherFound)

theorem namesakes_of_namedSymbol? {named : NamedSymbol}
    (read : first.namedSymbol? (.nonterminal nonterminal) = some named)
    (otherRead : second.namedSymbol? (.nonterminal other) = some named) :
    first.Namesakes second nonterminal other := by
  obtain ⟨name, found, rfl⟩ := Option.map_eq_some_iff.mp read
  obtain ⟨same, otherSame, otherFound⟩ := namedSymbol?_nonterminal_iff.mp otherRead
  cases otherSame
  exact ⟨name, found, otherFound⟩

theorem letterNamesakes_of_namedSymbol? {named : NamedSymbol}
    (read : first.namedSymbol? (.terminal letter) = some named)
    (otherRead : second.namedSymbol? (.terminal otherLetter) = some named) :
    first.LetterNamesakes second letter otherLetter := by
  obtain ⟨name, found, rfl⟩ := Option.map_eq_some_iff.mp read
  obtain ⟨same, otherSame, otherFound⟩ := namedSymbol?_terminal_iff.mp otherRead
  cases otherSame
  exact ⟨name, found, otherFound⟩

theorem ruleNamesakes_of_namedRule? {rule otherRule : Rule} {named : NamedRule}
    (read : first.namedRule? rule = some named)
    (otherRead : second.namedRule? otherRule = some named) :
    first.RuleNamesakes second rule otherRule := by
  obtain ⟨lhsNamed, spelled⟩ := namedRule?_eq_some_iff.mp read
  obtain ⟨otherLhsNamed, otherSpelled⟩ := namedRule?_eq_some_iff.mp otherRead
  have lhs : first.Namesakes second rule.lhs otherRule.lhs := ⟨_, lhsNamed, otherLhsNamed⟩
  rcases rule with ⟨_, rhs⟩
  rcases otherRule with ⟨_, otherRhs⟩
  rcases named with ⟨_, symbols⟩
  cases rhs with
  | terminal letter =>
      obtain _ | ⟨here, _ | _⟩ := spelled
      cases otherRhs with
      | terminal otherLetter =>
          obtain _ | ⟨otherHere, _⟩ := otherSpelled
          exact .terminal lhs (letterNamesakes_of_namedSymbol? here otherHere)
      | pair otherLeft otherRight => obtain _ | ⟨_, _ | _⟩ := otherSpelled
  | pair left right =>
      obtain _ | ⟨leftHere, _ | ⟨rightHere, _ | _⟩⟩ := spelled
      cases otherRhs with
      | terminal otherLetter => obtain _ | ⟨_, _ | _⟩ := otherSpelled
      | pair otherLeft otherRight =>
          obtain _ | ⟨otherLeftHere, _ | ⟨otherRightHere, _⟩⟩ := otherSpelled
          exact .pair lhs (namesakes_of_namedSymbol? leftHere otherLeftHere)
            (namesakes_of_namedSymbol? rightHere otherRightHere)

/-! ## Grammars with the same rules by name -/

/-- Every rule can be read by name, and another grammar has a rule that is read alike. -/
def RestatedBy (first second : Grammar) : Prop :=
  ∀ rule ∈ first.rules.toList, ∃ named, first.namedRule? rule = some named ∧
    ∃ otherRule ∈ second.rules.toList, second.namedRule? otherRule = some named

/-- Two grammars have the same rules, read by name. -/
structure Paraphrases (first second : Grammar) : Prop where
  formed : first.WellFormed
  otherFormed : second.WellFormed
  forward : first.RestatedBy second
  backward : second.RestatedBy first

/-- The counterpart of a nonterminal is its namesake. -/
def Shares (first second : Grammar) (nonterminal : Nonterminal) : Prop :=
  first.Namesakes second nonterminal (first.counterpart second nonterminal)

def SharesLetter (first second : Grammar) (letter : Terminal) : Prop :=
  first.LetterNamesakes second letter (first.letterCounterpart second letter)

namespace Paraphrases

theorem symm (paraphrases : first.Paraphrases second) : second.Paraphrases first :=
  ⟨paraphrases.otherFormed, paraphrases.formed, paraphrases.backward, paraphrases.forward⟩

theorem shares (paraphrases : first.Paraphrases second)
    (namesakes : first.Namesakes second nonterminal other) : first.Shares second nonterminal := by
  rw [Shares, namesakes.counterpart_eq paraphrases.otherFormed]
  exact namesakes

theorem sharesLetter (paraphrases : first.Paraphrases second)
    (namesakes : first.LetterNamesakes second letter otherLetter) :
    first.SharesLetter second letter := by
  rw [SharesLetter, namesakes.letterCounterpart_eq paraphrases.otherFormed]
  exact namesakes

theorem exists_ruleNamesake (paraphrases : first.Paraphrases second) {rule : Rule}
    (member : rule ∈ first.rules.toList) :
    ∃ otherRule ∈ second.rules.toList, first.RuleNamesakes second rule otherRule := by
  obtain ⟨named, read, otherRule, otherMember, otherRead⟩ := paraphrases.forward rule member
  exact ⟨otherRule, otherMember, ruleNamesakes_of_namedRule? read otherRead⟩

theorem terminal (paraphrases : first.Paraphrases second) {lhs : Nonterminal}
    (member : ⟨lhs, .terminal letter⟩ ∈ first.rules.toList) :
    first.Shares second lhs ∧ first.SharesLetter second letter ∧
      ⟨first.counterpart second lhs, .terminal (first.letterCounterpart second letter)⟩ ∈
        second.rules.toList := by
  obtain ⟨otherRule, otherMember, alike⟩ := paraphrases.exists_ruleNamesake member
  cases alike with
  | terminal lhsNamesakes letterNamesakes =>
      rw [lhsNamesakes.counterpart_eq paraphrases.otherFormed,
        letterNamesakes.letterCounterpart_eq paraphrases.otherFormed]
      exact ⟨paraphrases.shares lhsNamesakes, paraphrases.sharesLetter letterNamesakes,
        otherMember⟩

theorem pair (paraphrases : first.Paraphrases second) {lhs left right : Nonterminal}
    (member : ⟨lhs, .pair left right⟩ ∈ first.rules.toList) :
    first.Shares second lhs ∧ first.Shares second left ∧ first.Shares second right ∧
      ⟨first.counterpart second lhs,
        .pair (first.counterpart second left) (first.counterpart second right)⟩ ∈
          second.rules.toList := by
  obtain ⟨otherRule, otherMember, alike⟩ := paraphrases.exists_ruleNamesake member
  cases alike with
  | pair lhsNamesakes leftNamesakes rightNamesakes =>
      rw [lhsNamesakes.counterpart_eq paraphrases.otherFormed,
        leftNamesakes.counterpart_eq paraphrases.otherFormed,
        rightNamesakes.counterpart_eq paraphrases.otherFormed]
      exact ⟨paraphrases.shares lhsNamesakes, paraphrases.shares leftNamesakes,
        paraphrases.shares rightNamesakes, otherMember⟩

theorem counterpart_counterpart (paraphrases : first.Paraphrases second)
    (shares : first.Shares second nonterminal) :
    second.counterpart first (first.counterpart second nonterminal) = nonterminal :=
  shares.symm.counterpart_eq paraphrases.formed

theorem letterCounterpart_letterCounterpart (paraphrases : first.Paraphrases second)
    (shares : first.SharesLetter second letter) :
    second.letterCounterpart first (first.letterCounterpart second letter) = letter :=
  shares.symm.letterCounterpart_eq paraphrases.formed

end Paraphrases

end Grammar

/-! ## Trees -/

namespace DerivationTree

variable {first second : Grammar} {tree : DerivationTree}

/-- The tree with the namesakes in another grammar. -/
def counterpart (first second : Grammar) : DerivationTree → DerivationTree
  | .leaf lhs letter =>
      .leaf (first.counterpart second lhs) (first.letterCounterpart second letter)
  | .branch lhs left right =>
      .branch (first.counterpart second lhs) (left.counterpart first second)
        (right.counterpart first second)

@[simp] theorem root_counterpart (tree : DerivationTree) :
    (tree.counterpart first second).root = first.counterpart second tree.root := by
  cases tree <;> rfl

@[simp] theorem letters_counterpart (tree : DerivationTree) :
    (tree.counterpart first second).letters =
      tree.letters.map (first.letterCounterpart second) := by
  induction tree with
  | leaf lhs letter => rfl
  | branch lhs left right leftInduction rightInduction =>
      rw [counterpart, letters, letters, leftInduction, rightInduction, List.map_append]

theorem Valid.shares (paraphrases : first.Paraphrases second) (valid : tree.Valid first) :
    first.Shares second tree.root := by
  cases tree with
  | leaf lhs letter => exact (paraphrases.terminal valid).1
  | branch lhs left right => exact (paraphrases.pair valid.1).1

theorem Valid.sharesLetters (paraphrases : first.Paraphrases second) (valid : tree.Valid first) :
    ∀ letter ∈ tree.letters, first.SharesLetter second letter := by
  induction tree with
  | leaf lhs letter =>
      intro other member
      rw [letters, List.mem_singleton] at member
      rw [member]
      exact (paraphrases.terminal valid).2.1
  | branch lhs left right leftInduction rightInduction =>
      obtain ⟨_, leftValid, rightValid⟩ := valid
      intro letter member
      rcases List.mem_append.mp member with inLeft | inRight
      · exact leftInduction leftValid letter inLeft
      · exact rightInduction rightValid letter inRight

theorem Valid.counterpart (paraphrases : first.Paraphrases second) (valid : tree.Valid first) :
    (tree.counterpart first second).Valid second := by
  induction tree with
  | leaf lhs letter => exact (paraphrases.terminal valid).2.2
  | branch lhs left right leftInduction rightInduction =>
      obtain ⟨member, leftValid, rightValid⟩ := valid
      refine ⟨?_, leftInduction leftValid, rightInduction rightValid⟩
      rw [root_counterpart, root_counterpart]
      exact (paraphrases.pair member).2.2.2

theorem Valid.counterpart_counterpart (paraphrases : first.Paraphrases second)
    (valid : tree.Valid first) :
    (tree.counterpart first second).counterpart second first = tree := by
  induction tree with
  | leaf lhs letter =>
      obtain ⟨lhsShared, letterShared, _⟩ := paraphrases.terminal valid
      rw [DerivationTree.counterpart, DerivationTree.counterpart,
        paraphrases.counterpart_counterpart lhsShared,
        paraphrases.letterCounterpart_letterCounterpart letterShared]
  | branch lhs left right leftInduction rightInduction =>
      obtain ⟨member, leftValid, rightValid⟩ := valid
      rw [DerivationTree.counterpart, DerivationTree.counterpart,
        paraphrases.counterpart_counterpart (paraphrases.pair member).1,
        leftInduction leftValid, rightInduction rightValid]

end DerivationTree

end ChartParsing
