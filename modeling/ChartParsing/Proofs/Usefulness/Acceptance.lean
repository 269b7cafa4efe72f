import ChartParsing.Proofs.Usefulness.Useless

/-!
# Productive nonterminals and accepted inputs

If all symbols of the rules have names, the letters of every tree can be written
as an input, and a chart of this input accepts the root of the tree.  What is
accepted has a tree in turn.  The analysis therefore tells of every nonterminal
whether there is an input for it.
-/

namespace ChartParsing

variable {grammar : Grammar} {nonterminal : Nonterminal}

theorem DerivationTree.Valid.exists_spelling (formed : grammar.WellFormed)
    (named : grammar.Named) {tree : DerivationTree} (valid : tree.Valid grammar) :
    ∃ symbols : List String, tree.letters.map some = symbols.map grammar.terminal? := by
  induction tree with
  | leaf lhs letter =>
      obtain ⟨name, found⟩ := named _ valid (.terminal letter) List.mem_cons_self
      obtain ⟨text, known, _⟩ := Option.map_eq_some_iff.mp found
      have spelled := (Grammar.terminal?_eq_some_iff formed).mpr known
      exact ⟨[text], by simp [letters, spelled]⟩
  | branch lhs left right leftInduction rightInduction =>
      obtain ⟨_, leftValid, rightValid⟩ := valid
      obtain ⟨leftSymbols, leftSpelled⟩ := leftInduction leftValid
      obtain ⟨rightSymbols, rightSpelled⟩ := rightInduction rightValid
      refine ⟨leftSymbols ++ rightSymbols, ?_⟩
      rw [letters, List.map_append, List.map_append, leftSpelled, rightSpelled]

namespace Chart

theorem productive_of_accepts (formed : grammar.WellFormed) {symbols : Array String}
    {separator : String}
    (accepted : (fill grammar symbols separator).accepts nonterminal = true) :
    grammar.Productive nonterminal :=
  productive_of_mem_cell formed (accepts_iff.mp accepted)

theorem exists_accepts_of_productive (formed : grammar.WellFormed) (named : grammar.Named)
    (productive : grammar.Productive nonterminal) :
    ∃ tokens, (ofTokens grammar tokens).accepts nonterminal = true := by
  obtain ⟨tree, valid, root⟩ := productive
  obtain ⟨tokens, spelled⟩ := valid.exists_spelling formed named
  have parses : tree.Parses grammar nonterminal tokens := ⟨root, valid, spelled⟩
  have positive := tree.letters_length_pos
  rw [parses.length] at positive
  refine ⟨tokens, (accepts_fill_iff formed).mpr ?_⟩
  exact ⟨List.ne_nil_of_length_pos positive, tree, parses⟩

/-- The productive nonterminals are those that are accepted over some input. -/
theorem productive_iff_exists_accepts (formed : grammar.WellFormed) (named : grammar.Named) :
    grammar.Productive nonterminal ↔
      ∃ tokens, (ofTokens grammar tokens).accepts nonterminal = true := by
  constructor
  · exact exists_accepts_of_productive formed named
  · intro accepted
    obtain ⟨tokens, accepted⟩ := accepted
    exact productive_of_accepts formed accepted

end Chart

namespace Usefulness

/-- In every described grammar the symbols of the rules have names.  In any such
grammar there is an analysis from every start symbol with a name, and it reports just
those nonterminals as productive that are accepted over some sequence of symbols.  If
it does not report the start symbol, no input is accepted, however it is given;
otherwise some input is. -/
theorem isProductive_iff_exists_accepts :
    (∀ text description, Description.parse text = .ok description →
      description.grammar.Reachable ∧ description.grammar.Named) ∧
      ∀ (grammar : Grammar) (start : Nonterminal), grammar.Reachable → grammar.Named →
        start.index < grammar.nonterminalBound →
        ∃ found, analyse? grammar start = some found ∧
          (∀ nonterminal, found.isProductive nonterminal = true ↔
            ∃ tokens, (Chart.ofTokens grammar tokens).accepts nonterminal = true) ∧
          (found.isProductive start = false → ∀ (symbols : Array String) (separator : String),
            (Chart.fill grammar symbols separator).accepts start = false) ∧
          (found.isProductive start = true →
            ∃ tokens, (Chart.ofTokens grammar tokens).accepts start = true) := by
  constructor
  · intro text description parsed
    obtain ⟨reachable, readable⟩ := Description.namedRule?_of_parse parsed
    exact ⟨reachable, Grammar.named_of_namedRule? readable⟩
  · intro grammar start reachable named known
    have formed := reachable.wellFormed
    obtain ⟨found, analysed, exact⟩ := exists_analyse? formed named.closed known
    have reported : ∀ nonterminal,
        found.isProductive nonterminal = true ↔ grammar.Productive nonterminal := by
      intro nonterminal
      rw [isProductive, NonterminalSet.contains_iff, exact.productive]
    refine ⟨found, analysed, ?_, ?_, ?_⟩
    · intro nonterminal
      rw [reported, Chart.productive_iff_exists_accepts formed named]
    · intro unproductive symbols separator
      rw [Bool.eq_false_iff] at unproductive ⊢
      intro accepted
      apply unproductive
      exact (reported start).mpr (Chart.productive_of_accepts formed accepted)
    · intro productive
      exact Chart.exists_accepts_of_productive formed named ((reported start).mp productive)

/-- The first of these nonterminals is accepted over some input, and the
third over none. -/
theorem isProductive_iff_exists_accepts_sample :
    surplus.Reachable ∧ surplus.Named ∧ 0 < surplus.nonterminalBound ∧
      (∃ tokens, (Chart.ofTokens surplus tokens).accepts ⟨0⟩ = true) ∧
      ¬∃ tokens, (Chart.ofTokens surplus tokens).accepts ⟨2⟩ = true := by
  have built : surplus.Reachable := Construction.reachable_performAll? _
  have named : surplus.Named := by
    simp only [Grammar.Named, ← Option.isSome_iff_exists]
    decide +kernel
  have known : 0 < surplus.nonterminalBound := by decide +kernel
  obtain ⟨found, analysed, reported, _, accepted⟩ :=
    isProductive_iff_exists_accepts.2 surplus ⟨0⟩ built named known
  have marks : (analyse? surplus ⟨0⟩).map (fun found =>
      (found.isProductive ⟨0⟩, found.isProductive ⟨2⟩)) = some (true, false) := by
    decide +kernel
  rw [analysed, Option.map_some, Option.some.injEq, Prod.mk.injEq] at marks
  refine ⟨built, named, known, accepted marks.1, ?_⟩
  rw [← reported, marks.2]
  exact Bool.false_ne_true

end Usefulness

end ChartParsing
