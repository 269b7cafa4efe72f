import ChartParsing.Proofs.Usefulness.Useless

/-!
# Useful nonterminals and sentential forms

What a start symbol rewrites to are its sentential forms.  A nonterminal occurs in one of
them exactly when rules lead to it: a rewriting step brings in what a rule of some present
nonterminal mentions, and such a rule can be applied wherever its left-hand side stands.
So the analysis reports as useless what derives no terminals or occurs in no sentential
form, and it fails only for symbols without a name.
-/

namespace ChartParsing

namespace Grammar

/-- A nonterminal occurs in something that the start symbol rewrites to. -/
def OccursFrom (grammar : Grammar) (start nonterminal : Nonterminal) : Prop :=
  ∃ form, grammar.Derives [.nonterminal start] form ∧ .nonterminal nonterminal ∈ form

/-- A rule mentions a nonterminal that has no name, on either side. -/
def Dangling (grammar : Grammar) : Prop :=
  ∃ rule ∈ grammar.rules.toList, ∃ nonterminal,
    (nonterminal = rule.lhs ∨ .nonterminal nonterminal ∈ rule.symbols) ∧
      grammar.nonterminalBound ≤ nonterminal.index

variable {grammar : Grammar} {start nonterminal user used : Nonterminal}

/-! ## Occurrences -/

theorem Rewrites.mem_cases {form after : List Symbol} (step : grammar.Rewrites form after)
    (member : .nonterminal nonterminal ∈ after) :
    .nonterminal nonterminal ∈ form ∨
      ∃ other, .nonterminal other ∈ form ∧ grammar.Uses other nonterminal := by
  cases step with
  | @replace front back rule entered =>
      simp only [List.mem_append] at member
      rcases member with (before | inside) | behind
      · left
        exact List.mem_append_left _ before
      · right
        refine ⟨rule.lhs, List.mem_append_right _ List.mem_cons_self, ?_⟩
        exact ⟨rule, entered, rfl, Rule.nonterminal_mem_symbols_iff.mp inside⟩
      · left
        exact List.mem_append_right _ (List.mem_cons_of_mem _ behind)

theorem leads_of_derives {form : List Symbol}
    (derives : grammar.Derives [.nonterminal start] form)
    (member : .nonterminal nonterminal ∈ form) :
    Relation.ReflTransGen grammar.Uses start nonterminal := by
  induction derives generalizing nonterminal with
  | refl =>
      cases List.mem_singleton.mp member
      exact .refl
  | tail _ step induction =>
      rcases step.mem_cases member with there | ⟨other, there, uses⟩
      · exact induction there
      · exact (induction there).tail uses

theorem occursFrom_self (grammar : Grammar) (start : Nonterminal) :
    grammar.OccursFrom start start :=
  ⟨_, .refl, List.mem_singleton_self _⟩

theorem OccursFrom.tail (occurs : grammar.OccursFrom start user)
    (uses : grammar.Uses user used) : grammar.OccursFrom start used := by
  obtain ⟨form, derives, member⟩ := occurs
  obtain ⟨rule, entered, rfl, mentioned⟩ := uses
  obtain ⟨front, back, rfl⟩ := List.append_of_mem member
  refine ⟨front ++ rule.symbols ++ back, derives.tail (.replace front back entered), ?_⟩
  apply List.mem_append_left
  apply List.mem_append_right
  exact Rule.nonterminal_mem_symbols_iff.mpr mentioned

/-- Rules lead to what occurs in sentential forms. -/
theorem occursFrom_iff_leads :
    grammar.OccursFrom start nonterminal ↔
      Relation.ReflTransGen grammar.Uses start nonterminal := by
  constructor
  · intro occurs
    obtain ⟨form, derives, member⟩ := occurs
    exact leads_of_derives derives member
  · intro leads
    induction leads with
    | refl => exact occursFrom_self grammar start
    | tail _ uses occurs => exact occurs.tail uses

theorem productive_iff_derives :
    grammar.Productive nonterminal ↔
      ∃ letters : List Terminal,
        grammar.Derives [.nonterminal nonterminal] (letters.map .terminal) := by
  simp only [DerivationTree.derives_iff_exists_tree]
  constructor
  · intro productive
    obtain ⟨tree, valid, root⟩ := productive
    exact ⟨tree.letters, tree, valid, root, rfl⟩
  · intro derives
    obtain ⟨_, tree, valid, root, _⟩ := derives
    exact ⟨tree, valid, root⟩

/-- Left-hand sides have names, so what dangles is on a right-hand side. -/
theorem dangling_iff_not_closed (formed : grammar.WellFormed) :
    grammar.Dangling ↔ ¬grammar.Closed := by
  constructor
  · intro dangling closed
    obtain ⟨rule, member, nonterminal, mentioned, beyond⟩ := dangling
    apply Nat.not_lt.mpr beyond
    rcases mentioned with rfl | inside
    · exact formed.lhsNamed rule member
    · exact closed rule member nonterminal (Rule.nonterminal_mem_symbols_iff.mp inside)
  · intro unclosed
    simp only [Closed, not_forall, Nat.not_lt] at unclosed
    obtain ⟨rule, member, nonterminal, mentioned, beyond⟩ := unclosed
    exact ⟨rule, member, nonterminal,
      .inr (Rule.nonterminal_mem_symbols_iff.mpr mentioned), beyond⟩

end Grammar

namespace Usefulness

variable {grammar : Grammar} {start nonterminal : Nonterminal} {found : Usefulness}

/-- There is no analysis exactly if a name is missing that it asks for. -/
theorem analyse?_eq_none_iff (formed : grammar.WellFormed) :
    analyse? grammar start = none ↔
      grammar.nonterminalBound ≤ start.index ∨ grammar.Dangling := by
  constructor
  · intro missing
    by_cases named : start.index < grammar.nonterminalBound
    · right
      apply (Grammar.dangling_iff_not_closed formed).mpr
      intro closed
      obtain ⟨found, analysed, _⟩ := exists_analyse? formed closed named
      cases missing.symm.trans analysed
    · left
      exact Nat.not_lt.mp named
  · intro unnamed
    apply Option.eq_none_iff_forall_ne_some.mpr
    intro found analysed
    obtain ⟨closed, named⟩ := closed_of_analyse? analysed
    rcases unnamed with beyond | dangling
    · exact Nat.not_lt.mpr beyond named
    · exact (Grammar.dangling_iff_not_closed formed).mp dangling closed

theorem Exact.isReachable_iff (exact : Exact grammar start found) :
    found.isReachable nonterminal = true ↔ grammar.OccursFrom start nonterminal := by
  simp only [isReachable, NonterminalSet.contains_iff, exact.reachable,
    Grammar.occursFrom_iff_leads]

theorem pairwise_useless (found : Usefulness) :
    found.useless.Pairwise fun left right => left.index < right.index := by
  apply List.Pairwise.filter
  apply List.pairwise_map.mpr
  exact List.pairwise_lt_range

/-- The analysis of a grammar that calls have built fails exactly if the start
symbol or a nonterminal in some rule has no name.  Otherwise it reports as reachable
what occurs in a sentential form of the start symbol, and lists as useless, in
increasing order, each nonterminal that derives no sequence of terminals or occurs
in no sentential form. -/
theorem analysis_is_exact (reachable : grammar.Reachable) (start : Nonterminal) :
    (analyse? grammar start = none ↔
      grammar.nonterminalBound ≤ start.index ∨ grammar.Dangling) ∧
    ∀ found, analyse? grammar start = some found →
      (∀ nonterminal,
        found.isReachable nonterminal = true ↔ grammar.OccursFrom start nonterminal) ∧
      found.useless.Pairwise (fun left right => left.index < right.index) ∧
      ∀ nonterminal, nonterminal ∈ found.useless ↔
        nonterminal.index < grammar.nonterminalBound ∧
          ((¬∃ letters : List Terminal,
              grammar.Derives [.nonterminal nonterminal] (letters.map .terminal)) ∨
            ¬grammar.OccursFrom start nonterminal) := by
  have formed := reachable.wellFormed
  refine ⟨analyse?_eq_none_iff formed, ?_⟩
  intro found analysed
  have exact := exact_of_analyse? formed analysed
  refine ⟨fun _ => exact.isReachable_iff, found.pairwise_useless, ?_⟩
  intro nonterminal
  simp only [exact.mem_useless_iff, not_and_or, Grammar.productive_iff_derives,
    Grammar.occursFrom_iff_leads]

/-- In one grammar two nonterminals are useless, in the order of their numbers; in the
other one a rule mentions a nonterminal without a name. -/
theorem analysis_is_exact_sample :
    surplus.Reachable ∧ Construction.sample.Reachable ∧
      (∃ found, analyse? surplus ⟨0⟩ = some found ∧ found.useless = [⟨2⟩, ⟨3⟩]) ∧
      surplus.OccursFrom ⟨0⟩ ⟨2⟩ ∧ ¬surplus.OccursFrom ⟨0⟩ ⟨3⟩ ∧
      (¬∃ letters : List Terminal, surplus.Derives [.nonterminal ⟨2⟩] (letters.map .terminal)) ∧
      analyse? surplus ⟨4⟩ = none ∧ analyse? Construction.sample ⟨0⟩ = none := by
  have built : surplus.Reachable := Construction.reachable_performAll? _
  have marks : (analyse? surplus ⟨0⟩).map (fun found =>
      (found.useless, found.isReachable ⟨2⟩, found.isReachable ⟨3⟩)) =
      some ([⟨2⟩, ⟨3⟩], true, false) := by
    decide +kernel
  obtain ⟨found, analysed, seen⟩ := Option.map_eq_some_iff.mp marks
  simp only [Prod.mk.injEq] at seen
  obtain ⟨useless, reached, unreached⟩ := seen
  obtain ⟨reports, _, lists⟩ := (analysis_is_exact built ⟨0⟩).2 found analysed
  have occurs := (reports ⟨2⟩).mp reached
  refine ⟨built, Construction.reachable_sample, ⟨found, analysed, useless⟩, occurs, ?_, ?_, ?_, ?_⟩
  · intro elsewhere
    simp [(reports ⟨3⟩).mpr elsewhere] at unreached
  · have listed : (⟨2⟩ : Nonterminal) ∈ found.useless := by simp [useless]
    exact ((lists ⟨2⟩).mp listed).2.resolve_right (not_not_intro occurs)
  · apply (analysis_is_exact built ⟨4⟩).1.mpr
    left
    decide +kernel
  · apply (analysis_is_exact Construction.reachable_sample ⟨0⟩).1.mpr
    right
    refine ⟨⟨⟨0⟩, .pair ⟨0⟩ ⟨7⟩⟩, ?_, ⟨7⟩, .inr ?_, ?_⟩
    · decide +kernel
    · decide
    · decide +kernel

end Usefulness

end ChartParsing
