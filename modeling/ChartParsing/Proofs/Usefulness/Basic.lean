import Mathlib.Data.List.Perm.Subperm
import ChartParsing.Grammar.Usefulness
import ChartParsing.Proofs.Grammar.Naming

/-!
# What the analysis works with

Productive and reachable nonterminals are marked in growing sets.  A set of
nonterminals with names has at most as many members as there are names, which
bounds how often it can grow.  The rules that are looked at are those of the
grammar with the left-hand side in question.
-/

namespace ChartParsing

namespace NonterminalSet

theorem perm_insert {set : NonterminalSet} {nonterminal : Nonterminal}
    (fresh : nonterminal ∉ set) :
    (set.insert nonterminal).toList.Perm (nonterminal :: set.toList) := by
  apply (List.perm_ext_iff_of_nodup (nodup_toList _)
    (List.nodup_cons.mpr ⟨fresh, set.nodup_toList⟩)).mpr
  intro other
  rw [mem_toList, mem_insert, List.mem_cons, or_comm, mem_toList]

theorem size_insert {set : NonterminalSet} {nonterminal : Nonterminal}
    (fresh : nonterminal ∉ set) : (set.insert nonterminal).size = set.size + 1 :=
  (perm_insert fresh).length_eq

theorem size_le_of_subset {left right : NonterminalSet}
    (inside : ∀ nonterminal ∈ left, nonterminal ∈ right) : left.size ≤ right.size :=
  left.nodup_toList.length_le_of_subset inside

theorem size_le {set : NonterminalSet} {bound : Nat}
    (below : ∀ nonterminal ∈ set, nonterminal.index < bound) : set.size ≤ bound := by
  have inside : set.toList ⊆ (List.range bound).map Nonterminal.mk := by
    intro nonterminal member
    exact List.mem_map.mpr
      ⟨nonterminal.index, List.mem_range.mpr (below nonterminal member), rfl⟩
  have few := set.nodup_toList.length_le_of_subset inside
  rwa [List.length_map, List.length_range] at few

end NonterminalSet

theorem exists_mapM_eq_some {α β : Type} {read : α → Option β} {values : List α}
    (all : ∀ value ∈ values, ∃ result, read value = some result) :
    ∃ results, values.mapM read = some results := by
  induction values with
  | nil => exact ⟨[], rfl⟩
  | cons value rest induction =>
      obtain ⟨here, later⟩ := List.forall_mem_cons.mp all
      obtain ⟨result, found⟩ := here
      obtain ⟨results, read⟩ := induction later
      exact ⟨result :: results, by simp [found, read]⟩

namespace Grammar

variable {grammar : Grammar} {nonterminal : Nonterminal}

/-- Every nonterminal that a rule mentions has a name. -/
def Closed (grammar : Grammar) : Prop :=
  ∀ rule ∈ grammar.rules.toList, ∀ nonterminal ∈ rule.nonterminals,
    nonterminal.index < grammar.nonterminalBound

theorem rulesFor?_eq_some_iff {rules : List Rule} :
    grammar.rulesFor? nonterminal = some rules ↔
      ∃ numbers, grammar.ruleNumbers? nonterminal = some numbers ∧
        List.Forall₂ (fun number rule => grammar.rule? number = some rule) numbers rules := by
  simp [rulesFor?, Option.bind_eq_some_iff, mapM_eq_some_iff]

theorem exists_rulesFor? (formed : grammar.WellFormed)
    (named : nonterminal.index < grammar.nonterminalBound) :
    ∃ rules, grammar.rulesFor? nonterminal = some rules := by
  obtain ⟨numbers, found⟩ := exists_ruleNumbers? formed named
  obtain ⟨rules, listed⟩ : ∃ rules, numbers.mapM grammar.rule? = some rules := by
    apply exists_mapM_eq_some
    intro number member
    obtain ⟨rule, numbered, _⟩ := (formed.memList nonterminal numbers found number).mp member
    exact ⟨rule, numbered⟩
  exact ⟨rules, rulesFor?_eq_some_iff.mpr ⟨numbers, found, mapM_eq_some_iff.mp listed⟩⟩

theorem mem_rulesFor? (formed : grammar.WellFormed) {rules : List Rule}
    (found : grammar.rulesFor? nonterminal = some rules) {rule : Rule} :
    rule ∈ rules ↔ rule ∈ grammar.rules.toList ∧ rule.lhs = nonterminal := by
  obtain ⟨numbers, numbersFound, listed⟩ := rulesFor?_eq_some_iff.mp found
  constructor
  · intro member
    obtain ⟨number, inside, numbered⟩ := exists_of_mem_left listed.flip member
    obtain ⟨other, otherNumbered, same⟩ :=
      (formed.memList nonterminal numbers numbersFound number).mp inside
    cases numbered.symm.trans otherNumbered
    exact ⟨mem_rules_of_rule? numbered, same⟩
  · intro entered
    obtain ⟨member, same⟩ := entered
    obtain ⟨number, placed⟩ := List.mem_iff_getElem?.mp member
    have numbered : grammar.rule? number = some rule := by
      rw [rule?, Numbering.get?_eq_getElem?]
      exact placed
    have inside := (formed.memList nonterminal numbers numbersFound number).mpr
      ⟨rule, numbered, same⟩
    obtain ⟨other, otherMember, otherNumbered⟩ := exists_of_mem_left listed inside
    cases numbered.symm.trans otherNumbered
    exact otherMember

end Grammar

end ChartParsing
