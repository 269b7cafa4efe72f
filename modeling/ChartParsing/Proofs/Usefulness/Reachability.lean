import Mathlib.Logic.Relation
import ChartParsing.Proofs.Usefulness.Basic

/-!
# Reachable nonterminals

A nonterminal that is reached is pending, or everything that its rules mention is
reached.  What is pending and not yet followed has been reached, and each
nonterminal is followed once, so the search comes to an end before the steps do.
Then exactly those nonterminals are reached to which rules lead from the start
symbol.
-/

namespace ChartParsing

/-- A rule of one nonterminal mentions another one. -/
def Grammar.Uses (grammar : Grammar) (user used : Nonterminal) : Prop :=
  ∃ rule ∈ grammar.rules.toList, rule.lhs = user ∧ used ∈ rule.nonterminals

namespace Usefulness.Search

variable {grammar : Grammar} {start : Nonterminal} {search : Search}

/-- What visiting some nonterminals changes: those that are new are reached
and become pending. -/
structure Visits (visited : List Nonterminal) (before after : Search) : Prop where
  reached : ∀ nonterminal, nonterminal ∈ after.reached ↔
    nonterminal ∈ before.reached ∨ nonterminal ∈ visited
  pending : ∀ nonterminal, nonterminal ∈ after.pending ↔
    nonterminal ∈ before.pending ∨ (nonterminal ∈ visited ∧ nonterminal ∉ before.reached)
  balance : after.reached.size + before.pending.length =
    before.reached.size + after.pending.length

theorem visits_nil (search : Search) : Visits [] search search :=
  ⟨by simp, by simp, rfl⟩

theorem visits_visit (search : Search) (nonterminal : Nonterminal) :
    Visits [nonterminal] search (search.visit nonterminal) := by
  rw [visit]
  by_cases known : nonterminal ∈ search.reached
  · rw [if_pos (NonterminalSet.contains_iff.mpr known)]
    refine ⟨?_, ?_, rfl⟩
    · intro other
      rw [List.mem_singleton]
      exact (or_iff_left_of_imp fun same => same ▸ known).symm
    · intro other
      rw [List.mem_singleton]
      exact (or_iff_left fun new => new.2 (new.1 ▸ known)).symm
  · rw [if_neg (mt NonterminalSet.contains_iff.mp known)]
    refine ⟨?_, ?_, ?_⟩
    · intro other
      rw [NonterminalSet.mem_insert, List.mem_singleton]
    · intro other
      rw [List.mem_cons, List.mem_singleton, or_comm]
      exact or_congr_right (iff_self_and.mpr fun same => same ▸ known)
    · rw [NonterminalSet.size_insert known, List.length_cons]
      omega

theorem Visits.trans {first second third : Search} {early late : List Nonterminal}
    (lower : Visits early first second) (upper : Visits late second third) :
    Visits (early ++ late) first third := by
  refine ⟨?_, ?_, ?_⟩
  · intro nonterminal
    rw [upper.reached, lower.reached, List.mem_append, or_assoc]
  · intro nonterminal
    rw [upper.pending, lower.pending, lower.reached, List.mem_append, not_or, or_assoc]
    tauto
  · have lowerBalance := lower.balance
    have upperBalance := upper.balance
    omega

theorem visits_foldl (search : Search) (visited : List Nonterminal) :
    Visits visited search (visited.foldl visit search) := by
  induction visited generalizing search with
  | nil => exact visits_nil search
  | cons first rest induction => exact (visits_visit search first).trans (induction _)

/-! ## Searching -/

/-- What holds between steps: rules lead from the start symbol to all that is reached,
and what is reached is pending or has been followed. -/
structure Sound (grammar : Grammar) (start : Nonterminal) (search : Search) : Prop where
  begun : start ∈ search.reached
  leads : ∀ nonterminal ∈ search.reached,
    Relation.ReflTransGen grammar.Uses start nonterminal
  pending : ∀ nonterminal ∈ search.pending, nonterminal ∈ search.reached
  followed : ∀ nonterminal ∈ search.reached, nonterminal ∈ search.pending ∨
    ∀ used, grammar.Uses nonterminal used → used ∈ search.reached

theorem sound_begin (grammar : Grammar) (start : Nonterminal) :
    Sound grammar start (begin start) := by
  have only : ∀ nonterminal, nonterminal ∈ (begin start).reached ↔ nonterminal = start := by
    intro nonterminal
    rw [begin, NonterminalSet.mem_insert, or_iff_right (NonterminalSet.not_mem_empty _)]
  refine ⟨(only start).mpr rfl, ?_, ?_, ?_⟩
  · intro nonterminal reached
    rw [(only nonterminal).mp reached]
  · intro nonterminal pending
    exact (only nonterminal).mpr (List.mem_singleton.mp pending)
  · intro nonterminal reached
    exact .inl (List.mem_singleton.mpr ((only nonterminal).mp reached))

theorem Sound.follow {reached : NonterminalSet} {current : Nonterminal}
    {pending used : List Nonterminal} (sound : Sound grammar start ⟨reached, current :: pending⟩)
    (uses : ∀ nonterminal, nonterminal ∈ used ↔ grammar.Uses current nonterminal)
    {after : Search} (visits : Visits used ⟨reached, pending⟩ after) :
    Sound grammar start after := by
  have currentReached := sound.pending current List.mem_cons_self
  refine ⟨(visits.reached start).mpr (.inl sound.begun), ?_, ?_, ?_⟩
  · intro nonterminal member
    rcases (visits.reached nonterminal).mp member with old | new
    · exact sound.leads nonterminal old
    · exact (sound.leads current currentReached).tail ((uses nonterminal).mp new)
  · intro nonterminal member
    rcases (visits.pending nonterminal).mp member with old | ⟨new, _⟩
    · have known := sound.pending nonterminal (List.mem_cons_of_mem _ old)
      exact (visits.reached nonterminal).mpr (.inl known)
    · exact (visits.reached nonterminal).mpr (.inr new)
  · intro nonterminal member
    by_cases known : nonterminal ∈ reached
    · rcases sound.followed nonterminal known with waiting | done
      · rcases List.mem_cons.mp waiting with rfl | later
        · exact .inr fun other mentioned =>
            (visits.reached other).mpr (.inr ((uses other).mpr mentioned))
        · exact .inl ((visits.pending nonterminal).mpr (.inl later))
      · exact .inr fun other mentioned =>
          (visits.reached other).mpr (.inl (done other mentioned))
    · have new := ((visits.reached nonterminal).mp member).resolve_left known
      exact .inl ((visits.pending nonterminal).mpr (.inr ⟨new, known⟩))

theorem Sound.mem_iff {reached : NonterminalSet} (sound : Sound grammar start ⟨reached, []⟩)
    {nonterminal : Nonterminal} :
    nonterminal ∈ reached ↔ Relation.ReflTransGen grammar.Uses start nonterminal := by
  constructor
  · exact sound.leads nonterminal
  · intro leads
    induction leads with
    | refl => exact sound.begun
    | tail _ mentioned user =>
        exact (sound.followed _ user).resolve_left List.not_mem_nil _ mentioned

theorem Sound.named (closed : grammar.Closed) (named : start.index < grammar.nonterminalBound)
    (sound : Sound grammar start search) {nonterminal : Nonterminal}
    (reached : nonterminal ∈ search.reached) : nonterminal.index < grammar.nonterminalBound := by
  have leads := sound.leads nonterminal reached
  cases leads with
  | refl => exact named
  | tail _ mentioned =>
      obtain ⟨rule, member, _, inside⟩ := mentioned
      exact closed rule member _ inside

theorem mem_flatMap_rulesFor? (formed : grammar.WellFormed) {current : Nonterminal}
    {rules : List Rule} (found : grammar.rulesFor? current = some rules)
    (nonterminal : Nonterminal) :
    nonterminal ∈ rules.flatMap Rule.nonterminals ↔ grammar.Uses current nonterminal := by
  simp only [List.mem_flatMap, Grammar.mem_rulesFor? formed found, Grammar.Uses, and_assoc]

/-- The search ends before the steps do: what is reached and not pending
has been followed. -/
theorem exists_run (formed : grammar.WellFormed) (closed : grammar.Closed)
    (named : start.index < grammar.nonterminalBound) {steps : Nat}
    (sound : Sound grammar start search)
    (enough : grammar.nonterminalBound + search.pending.length ≤ steps + search.reached.size) :
    ∃ reached, run grammar steps search = some reached ∧
      ∀ nonterminal, nonterminal ∈ reached ↔
        Relation.ReflTransGen grammar.Uses start nonterminal := by
  induction steps generalizing search with
  | zero =>
      rcases search with ⟨reached, pending⟩
      cases pending with
      | nil => exact ⟨reached, rfl, fun _ => sound.mem_iff⟩
      | cons current pending =>
          have few := NonterminalSet.size_le fun _ member => sound.named closed named member
          simp only [List.length_cons] at enough few
          omega
  | succ steps induction =>
      rcases search with ⟨reached, pending⟩
      cases pending with
      | nil => exact ⟨reached, rfl, fun _ => sound.mem_iff⟩
      | cons current pending =>
          have currentNamed := sound.named closed named (sound.pending _ List.mem_cons_self)
          obtain ⟨rules, found⟩ := Grammar.exists_rulesFor? formed currentNamed
          have visits := visits_foldl ⟨reached, pending⟩ (rules.flatMap Rule.nonterminals)
          have balance := visits.balance
          have later := sound.follow (mem_flatMap_rulesFor? formed found) visits
          simp only [List.length_cons] at enough balance
          obtain ⟨final, ran, members⟩ := induction later (by omega)
          refine ⟨final, ?_, members⟩
          rw [run, found]
          exact ran

end Usefulness.Search

namespace Usefulness

variable {grammar : Grammar} {start : Nonterminal}

theorem exists_reachable? (formed : grammar.WellFormed) (closed : grammar.Closed)
    (named : start.index < grammar.nonterminalBound) :
    ∃ reached, reachable? grammar start = some reached ∧
      ∀ nonterminal, nonterminal ∈ reached ↔
        Relation.ReflTransGen grammar.Uses start nonterminal := by
  rw [reachable?, if_pos named]
  apply Search.exists_run formed closed named (Search.sound_begin grammar start)
  have one : (Search.begin start).reached.size = 1 :=
    NonterminalSet.size_insert (NonterminalSet.not_mem_empty start)
  rw [one]
  exact Nat.le_refl _

end Usefulness

end ChartParsing
