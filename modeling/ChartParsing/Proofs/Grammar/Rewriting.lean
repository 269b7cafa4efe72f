import Mathlib.Logic.Relation
import ChartParsing.Grammar.Basic

/-!
# Rewriting and derivation trees

Context-free rewriting replaces one nonterminal at a time, anywhere in a
sequence of symbols.  A derivation tree forgets the order of the replacements.
The two agree: a nonterminal rewrites to a sequence of terminals exactly when
some tree of rules has the nonterminal at its root and the terminals at its
leaves.
-/

namespace ChartParsing

namespace Grammar

/-- One occurrence of a nonterminal is replaced by the right-hand side of one
of its rules. -/
inductive Rewrites (grammar : Grammar) : List Symbol → List Symbol → Prop where
  | replace (front back : List Symbol) {rule : Rule} :
      rule ∈ grammar.rules.toList →
      Rewrites grammar (front ++ .nonterminal rule.lhs :: back) (front ++ rule.symbols ++ back)

/-- Finitely many replacements. -/
def Derives (grammar : Grammar) : List Symbol → List Symbol → Prop :=
  Relation.ReflTransGen grammar.Rewrites

variable {grammar : Grammar}

theorem Rewrites.append_left {form after : List Symbol} (front : List Symbol)
    (step : grammar.Rewrites form after) :
    grammar.Rewrites (front ++ form) (front ++ after) := by
  cases step with
  | replace inner back member =>
      simpa only [List.append_assoc] using Rewrites.replace (front ++ inner) back member

theorem Rewrites.append_right {form after : List Symbol} (back : List Symbol)
    (step : grammar.Rewrites form after) :
    grammar.Rewrites (form ++ back) (after ++ back) := by
  cases step with
  | replace front inner member =>
      simpa only [List.append_assoc, List.cons_append] using
        Rewrites.replace front (inner ++ back) member

/-- The two halves of a sequence rewrite independently. -/
theorem Derives.append {left leftAfter right rightAfter : List Symbol}
    (first : grammar.Derives left leftAfter) (second : grammar.Derives right rightAfter) :
    grammar.Derives (left ++ right) (leftAfter ++ rightAfter) := by
  have leftSteps : grammar.Derives (left ++ right) (leftAfter ++ right) :=
    Relation.ReflTransGen.lift (· ++ right) (fun _ _ => Rewrites.append_right right) _ _ first
  have rightSteps : grammar.Derives (leftAfter ++ right) (leftAfter ++ rightAfter) :=
    Relation.ReflTransGen.lift (leftAfter ++ ·) (fun _ _ => Rewrites.append_left leftAfter)
      _ _ second
  exact leftSteps.trans rightSteps

theorem derives_of_rule {rule : Rule} (member : rule ∈ grammar.rules.toList) :
    grammar.Derives [.nonterminal rule.lhs] rule.symbols := by
  have step := Rewrites.replace [] [] member
  rw [List.nil_append, List.nil_append, List.append_nil] at step
  exact Relation.ReflTransGen.single step

end Grammar

/-- A derivation by rules in normal form: a terminal under a nonterminal,
or two derivations. -/
inductive DerivationTree where
  | leaf (lhs : Nonterminal) (letter : Terminal)
  | branch (lhs : Nonterminal) (left right : DerivationTree)
  deriving DecidableEq, Repr

namespace DerivationTree

def root : DerivationTree → Nonterminal
  | .leaf lhs _ => lhs
  | .branch lhs _ _ => lhs

/-- The terminals at the leaves, from left to right. -/
def letters : DerivationTree → List Terminal
  | .leaf _ letter => [letter]
  | .branch _ left right => left.letters ++ right.letters

/-- Every node is an application of one of the rules of a grammar. -/
def Valid (grammar : Grammar) : DerivationTree → Prop
  | .leaf lhs letter => ⟨lhs, .terminal letter⟩ ∈ grammar.rules.toList
  | .branch lhs left right =>
      ⟨lhs, .pair left.root right.root⟩ ∈ grammar.rules.toList ∧
        left.Valid grammar ∧ right.Valid grammar

theorem letters_length_pos (tree : DerivationTree) : 0 < tree.letters.length := by
  induction tree with
  | leaf lhs letter => exact Nat.one_pos
  | branch lhs left right leftPositive rightPositive =>
      rw [letters, List.length_append]
      omega

variable {grammar : Grammar}

theorem Valid.derives {tree : DerivationTree} (valid : tree.Valid grammar) :
    grammar.Derives [.nonterminal tree.root] (tree.letters.map .terminal) := by
  induction tree with
  | leaf lhs letter => exact Grammar.derives_of_rule valid
  | branch lhs left right leftDerives rightDerives =>
      obtain ⟨member, leftValid, rightValid⟩ := valid
      have halves := (leftDerives leftValid).append (rightDerives rightValid)
      rw [← List.map_append] at halves
      exact (Grammar.derives_of_rule member).trans halves

/-- Each nonterminal of a sequence of symbols is the root of a valid tree, and the
leaves of all trees together with the terminals in between make up the letters. -/
inductive Covers (grammar : Grammar) : List Symbol → List Terminal → Prop where
  | nil : Covers grammar [] []
  | terminal (letter : Terminal) {form : List Symbol} {rest : List Terminal} :
      Covers grammar form rest → Covers grammar (.terminal letter :: form) (letter :: rest)
  | nonterminal (tree : DerivationTree) {form : List Symbol} {rest : List Terminal} :
      tree.Valid grammar → Covers grammar form rest →
      Covers grammar (.nonterminal tree.root :: form) (tree.letters ++ rest)

namespace Covers

theorem terminals (letters : List Terminal) :
    Covers grammar (letters.map .terminal) letters := by
  induction letters with
  | nil => exact .nil
  | cons letter rest induction => exact .terminal letter induction

theorem append {left right : List Symbol} {first second : List Terminal}
    (leftCovered : Covers grammar left first) (rightCovered : Covers grammar right second) :
    Covers grammar (left ++ right) (first ++ second) := by
  induction leftCovered with
  | nil => exact rightCovered
  | terminal letter _ induction => exact .terminal letter induction
  | nonterminal tree valid _ induction =>
      rw [List.append_assoc]
      exact .nonterminal tree valid induction

theorem append_cases {left right : List Symbol} {letters : List Terminal}
    (covered : Covers grammar (left ++ right) letters) :
    ∃ first second, letters = first ++ second ∧
      Covers grammar left first ∧ Covers grammar right second := by
  induction left generalizing letters with
  | nil => exact ⟨[], letters, rfl, .nil, covered⟩
  | cons symbol rest induction =>
      cases covered with
      | terminal letter later =>
          obtain ⟨first, second, rfl, restCovered, rightCovered⟩ := induction later
          exact ⟨letter :: first, second, rfl, .terminal letter restCovered, rightCovered⟩
      | nonterminal tree valid later =>
          obtain ⟨first, second, rfl, restCovered, rightCovered⟩ := induction later
          exact ⟨tree.letters ++ first, second, (List.append_assoc ..).symm,
            .nonterminal tree valid restCovered, rightCovered⟩

theorem singleton_cases {nonterminal : Nonterminal} {letters : List Terminal}
    (covered : Covers grammar [.nonterminal nonterminal] letters) :
    ∃ tree : DerivationTree, tree.Valid grammar ∧ tree.root = nonterminal ∧
      tree.letters = letters := by
  cases covered with
  | nonterminal tree valid rest =>
      cases rest
      exact ⟨tree, valid, rfl, (List.append_nil _).symm⟩

/-- The trees under a right-hand side grow together under its left-hand side. -/
theorem of_rule {rule : Rule} {letters : List Terminal}
    (member : rule ∈ grammar.rules.toList) (covered : Covers grammar rule.symbols letters) :
    Covers grammar [.nonterminal rule.lhs] letters := by
  rcases rule with ⟨lhs, rhs⟩
  cases rhs with
  | terminal letter =>
      cases covered with
      | terminal _ rest =>
          cases rest
          exact .nonterminal (.leaf lhs letter) member .nil
  | pair left right =>
      have halves : Covers grammar ([.nonterminal left] ++ [.nonterminal right]) letters := covered
      obtain ⟨first, second, rfl, leftCovered, rightCovered⟩ := halves.append_cases
      obtain ⟨leftTree, leftValid, rfl, rfl⟩ := leftCovered.singleton_cases
      obtain ⟨rightTree, rightValid, rfl, rfl⟩ := rightCovered.singleton_cases
      have grown : Covers grammar [.nonterminal lhs]
          ((DerivationTree.branch lhs leftTree rightTree).letters ++ []) :=
        .nonterminal (.branch lhs leftTree rightTree) ⟨member, leftValid, rightValid⟩ .nil
      rwa [List.append_nil] at grown

/-- A replacement is undone by growing the trees under the symbols put in. -/
theorem of_rewrites {form after : List Symbol} {letters : List Terminal}
    (step : grammar.Rewrites form after) (covered : Covers grammar after letters) :
    Covers grammar form letters := by
  cases step with
  | replace front back member =>
      obtain ⟨before, last, rfl, beforeCovered, lastCovered⟩ := covered.append_cases
      obtain ⟨first, middle, rfl, firstCovered, middleCovered⟩ := beforeCovered.append_cases
      rw [List.append_assoc]
      exact firstCovered.append ((of_rule member middleCovered).append lastCovered)

theorem of_derives {form : List Symbol} {letters : List Terminal}
    (derives : grammar.Derives form (letters.map .terminal)) : Covers grammar form letters := by
  induction derives using Relation.ReflTransGen.head_induction_on with
  | refl => exact terminals letters
  | head step _ induction => exact of_rewrites step induction

end Covers

/-- Rewriting to terminals and derivation trees are the same thing. -/
theorem derives_iff_exists_tree {nonterminal : Nonterminal} {letters : List Terminal} :
    grammar.Derives [.nonterminal nonterminal] (letters.map .terminal) ↔
      ∃ tree : DerivationTree, tree.Valid grammar ∧ tree.root = nonterminal ∧
        tree.letters = letters := by
  constructor
  · intro derives
    exact (Covers.of_derives derives).singleton_cases
  · intro grown
    obtain ⟨tree, valid, rfl, rfl⟩ := grown
    exact valid.derives

end DerivationTree

end ChartParsing
