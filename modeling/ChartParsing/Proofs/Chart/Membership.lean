import ChartParsing.Proofs.Chart.Recurrence
import ChartParsing.Proofs.Grammar.Representation
import ChartParsing.Proofs.Grammar.Rewriting

/-!
# What the cells of a chart hold

A cell holds exactly the nonterminals that have a derivation tree over the
symbols of its span, and therefore exactly those that rewrite to the terminals
there.  A symbol that is no terminal of the grammar has no tree over it.
-/

namespace ChartParsing

namespace Span

/-- The part of a sequence that a span covers. -/
def slice {α : Type} (span : Span) (values : List α) : List α :=
  (values.drop span.start).take span.length

variable {α : Type}

theorem length_slice {span : Span} (values : List α) (within : span.Within values.length) :
    (span.slice values).length = span.length := by
  have inside := within.inside
  simp only [stop] at inside
  rw [slice, List.length_take, List.length_drop]
  omega

theorem slice_cut_left {span : Span} {values : List α} {offset : Nat}
    (shorter : offset ≤ span.length) :
    (span.cut offset).1.slice values = (span.slice values).take offset := by
  rw [slice, slice, List.take_take, Nat.min_eq_left shorter, cut]

theorem slice_cut_right {span : Span} {values : List α} {offset : Nat} :
    (span.cut offset).2.slice values = (span.slice values).drop offset := by
  rw [slice, slice, List.drop_take, List.drop_drop, cut]

theorem slice_single {span : Span} {values : List α} (single : span.length = 1) {value : α}
    (found : values[span.start]? = some value) : span.slice values = [value] := by
  obtain ⟨inside, rfl⟩ := List.getElem?_eq_some_iff.mp found
  rw [slice, single, List.drop_eq_getElem_cons inside, List.take_succ_cons, List.take_zero]

end Span

namespace DerivationTree

/-- A derivation tree of a nonterminal over a sequence of symbols, each of which is the
name of the terminal at its leaf. -/
structure Parses (grammar : Grammar) (start : Nonterminal) (symbols : List String)
    (tree : DerivationTree) : Prop where
  root : tree.root = start
  valid : tree.Valid grammar
  spelled : tree.letters.map some = symbols.map grammar.terminal?

variable {grammar : Grammar} {start : Nonterminal} {symbols : List String}
  {tree : DerivationTree}

theorem Parses.length (parses : tree.Parses grammar start symbols) :
    tree.letters.length = symbols.length := by
  have lengths := congrArg List.length parses.spelled
  rwa [List.length_map, List.length_map] at lengths

theorem parses_single_iff {symbol : String} :
    tree.Parses grammar start [symbol] ↔
      ∃ letter, tree = .leaf start letter ∧ grammar.terminal? symbol = some letter ∧
        ⟨start, .terminal letter⟩ ∈ grammar.rules.toList := by
  constructor
  · intro parses
    cases tree with
    | leaf lhs letter =>
        obtain ⟨rfl, valid, spelled⟩ := parses
        have named : some letter = grammar.terminal? symbol := by
          simpa [letters] using spelled
        exact ⟨letter, rfl, named.symm, valid⟩
    | branch lhs left right =>
        have leftPositive := left.letters_length_pos
        have rightPositive := right.letters_length_pos
        have total := parses.length
        rw [letters, List.length_append, List.length_singleton] at total
        omega
  · intro given
    obtain ⟨letter, rfl, named, member⟩ := given
    exact ⟨rfl, member, by simp [letters, named]⟩

/-- A tree over two symbols or more has two parts, and the left one says
where they meet. -/
theorem parses_long_iff (long : 1 < symbols.length) :
    tree.Parses grammar start symbols ↔
      ∃ offset left right, 0 < offset ∧ offset < symbols.length ∧
        tree = .branch start left right ∧
        ⟨start, .pair left.root right.root⟩ ∈ grammar.rules.toList ∧
        left.Parses grammar left.root (symbols.take offset) ∧
        right.Parses grammar right.root (symbols.drop offset) := by
  constructor
  · intro parses
    have total := parses.length
    cases tree with
    | leaf lhs letter =>
        rw [letters, List.length_singleton] at total
        omega
    | branch lhs left right =>
        obtain ⟨rfl, ⟨member, leftValid, rightValid⟩, spelled⟩ := parses
        have leftPositive := left.letters_length_pos
        have rightPositive := right.letters_length_pos
        rw [letters, List.length_append] at total
        have parted := spelled
        rw [letters, List.map_append, ← List.take_append_drop left.letters.length symbols,
          List.map_append] at parted
        obtain ⟨leftSpelled, rightSpelled⟩ := List.append_inj parted (by
          rw [List.length_map, List.length_map, List.length_take]
          omega)
        exact ⟨left.letters.length, left, right, leftPositive, by omega, rfl, member,
          ⟨rfl, leftValid, leftSpelled⟩, ⟨rfl, rightValid, rightSpelled⟩⟩
  · intro given
    obtain ⟨offset, left, right, _, _, rfl, member, leftParses, rightParses⟩ := given
    refine ⟨rfl, ⟨member, leftParses.valid, rightParses.valid⟩, ?_⟩
    rw [letters, List.map_append, leftParses.spelled, rightParses.spelled, ← List.map_append,
      List.take_append_drop]

/-- Having a derivation tree is rewriting to the terminals that the symbols name. -/
theorem exists_parses_iff_derives :
    (∃ tree : DerivationTree, tree.Parses grammar start symbols) ↔
      ∃ letters : List Terminal, letters.map some = symbols.map grammar.terminal? ∧
        grammar.Derives [.nonterminal start] (letters.map .terminal) := by
  constructor
  · intro parsed
    obtain ⟨tree, rfl, valid, spelled⟩ := parsed
    exact ⟨tree.letters, spelled, valid.derives⟩
  · intro derived
    obtain ⟨letters, spelled, derives⟩ := derived
    obtain ⟨tree, valid, root, rfl⟩ := derives_iff_exists_tree.mp derives
    exact ⟨tree, root, valid, spelled⟩

end DerivationTree

namespace Chart

section Fill

variable {grammar : Grammar} {symbols : Array String} {separator : String}

theorem terminal?_fill {position : Nat} (inside : position < symbols.size) :
    (fill grammar symbols separator).terminal? position =
      grammar.terminal? symbols[position] := by
  rw [terminal?, terminals_fill, Array.getElem?_map, Array.getElem?_eq_getElem inside,
    Option.map_some, Option.join_some]

theorem mem_deriveLeaf {chart : Chart} {position : Nat} {nonterminal : Nonterminal} :
    nonterminal ∈ chart.deriveLeaf position ↔
      ∃ letter, chart.terminal? position = some letter ∧
        nonterminal ∈ chart.grammar.lhsForTerminal letter := by
  rw [deriveLeaf]
  cases chart.terminal? position with
  | none => simp [NonterminalSet.not_mem_empty]
  | some letter => simp

theorem mem_cell_single (formed : grammar.WellFormed) {span : Span}
    (within : span.Within symbols.size) (single : span.length = 1) {nonterminal : Nonterminal} :
    nonterminal ∈ (fill grammar symbols separator).cell span ↔
      ∃ tree : DerivationTree, tree.Parses grammar nonterminal (span.slice symbols.toList) := by
  have inside := within.start_lt
  have found : symbols.toList[span.start]? = some (symbols[span.start]) := by
    rw [Array.getElem?_toList, Array.getElem?_eq_getElem]
  rw [cell_fill within, derived, if_pos single, mem_deriveLeaf, grammar_fill,
    terminal?_fill inside, Span.slice_single single found]
  simp only [DerivationTree.parses_single_iff, formed.memTerminal]
  constructor
  · intro given
    obtain ⟨letter, named, member⟩ := given
    exact ⟨_, letter, rfl, named, member⟩
  · intro parsed
    obtain ⟨_, letter, _, named, member⟩ := parsed
    exact ⟨letter, named, member⟩

/-- The members of a cell are the nonterminals with a derivation tree over its span. -/
theorem mem_cell_iff_exists_tree (separator : String) (formed : grammar.WellFormed) {span : Span}
    (within : span.Within symbols.size) {nonterminal : Nonterminal} :
    nonterminal ∈ (fill grammar symbols separator).cell span ↔
      ∃ tree : DerivationTree, tree.Parses grammar nonterminal (span.slice symbols.toList) := by
  induction measure : span.length using Nat.strongRecOn generalizing span nonterminal with
  | ind length induction =>
      have total : (span.slice symbols.toList).length = span.length :=
        Span.length_slice symbols.toList within
      by_cases single : span.length = 1
      · exact mem_cell_single formed within single
      have positive := within.positive
      have long : 1 < (span.slice symbols.toList).length := by omega
      rw [cell_fill within, derived, if_neg single, mem_derive]
      simp only [DerivationTree.parses_long_iff long, grammar_fill, formed.memPair]
      constructor
      · intro derived
        obtain ⟨pairing, paired, member⟩ := derived
        obtain ⟨offsetPositive, below, leftMember, rightMember⟩ := mem_pairings.mp paired
        obtain ⟨leftTree, leftParses⟩ :=
          (induction pairing.split (by omega) (within.cut_left offsetPositive below) rfl).mp
            leftMember
        obtain ⟨rightTree, rightParses⟩ :=
          (induction (span.length - pairing.split) (by omega) (within.cut_right below) rfl).mp
            rightMember
        rw [← leftParses.root, ← rightParses.root] at member
        rw [Span.slice_cut_left (Nat.le_of_lt below), ← leftParses.root] at leftParses
        rw [Span.slice_cut_right, ← rightParses.root] at rightParses
        exact ⟨_, pairing.split, leftTree, rightTree, offsetPositive, total ▸ below, rfl,
          member, leftParses, rightParses⟩
      · intro parsed
        obtain ⟨_, offset, leftTree, rightTree, offsetPositive, below, _, member, leftParses,
          rightParses⟩ := parsed
        rw [total] at below
        rw [← Span.slice_cut_left (Nat.le_of_lt below)] at leftParses
        rw [← Span.slice_cut_right] at rightParses
        refine ⟨⟨offset, leftTree.root, rightTree.root⟩, mem_pairings.mpr ⟨offsetPositive, below,
          ?_, ?_⟩, member⟩
        · exact (induction offset (by omega) (within.cut_left offsetPositive below) rfl).mpr
            ⟨leftTree, leftParses⟩
        · exact (induction (span.length - offset) (by omega) (within.cut_right below) rfl).mpr
            ⟨rightTree, rightParses⟩

end Fill

theorem accepts_iff {chart : Chart} {nonterminal : Nonterminal} :
    chart.accepts nonterminal = true ↔ nonterminal ∈ chart.cell chart.span := by
  rw [accepts, Bool.and_eq_true, NonterminalSet.contains_iff]
  constructor
  · exact fun both => both.2
  · intro member
    have nonempty : chart.size ≠ 0 := Nat.ne_of_gt (within_of_mem_cell member).positive
    exact ⟨by simp [isEmpty, nonempty], member⟩

theorem span_within {size : Nat} (nonempty : 0 < size) : (⟨0, size⟩ : Span).Within size :=
  ⟨nonempty, by simp only [Span.stop]; omega⟩

theorem span_fill_eq (grammar other : Grammar) (symbols : Array String) (separator : String) :
    (fill other symbols separator).span = (fill grammar symbols separator).span := by
  rw [span, span, size_fill, size_fill]

theorem slice_span (chart : Chart) :
    chart.span.slice chart.symbols.toList = chart.symbols.toList := by
  rw [Span.slice, span, List.drop_zero]
  exact List.take_of_length_le (Nat.le_of_eq Array.length_toList)

theorem slice_span_fill (grammar : Grammar) (symbols : Array String) (separator : String) :
    (fill grammar symbols separator).span.slice symbols.toList = symbols.toList := by
  have whole := slice_span (fill grammar symbols separator)
  rwa [symbols_fill] at whole

theorem accepts_fill_iff {grammar : Grammar} {symbols : Array String} {separator : String}
    (formed : grammar.WellFormed) {start : Nonterminal} :
    (fill grammar symbols separator).accepts start = true ↔
      symbols.toList ≠ [] ∧
        ∃ tree : DerivationTree, tree.Parses grammar start symbols.toList := by
  rw [accepts_iff]
  constructor
  · intro member
    have within := within_of_mem_cell member
    rw [size_fill] at within
    rw [mem_cell_iff_exists_tree separator formed within, slice_span_fill] at member
    have positive := Nat.lt_of_lt_of_le within.positive within.length_le
    exact ⟨List.ne_nil_of_length_pos (by simpa using positive), member⟩
  · intro parsed
    obtain ⟨nonempty, tree⟩ := parsed
    have positive : 0 < symbols.size := by simpa using List.length_pos_iff.mpr nonempty
    have within : (fill grammar symbols separator).span.Within symbols.size := by
      rw [span, size_fill]
      exact span_within positive
    rw [mem_cell_iff_exists_tree separator formed within, slice_span_fill]
    exact tree

/-- A cell holds the nonterminals that rewrite to the terminals named in its span, and
no other; a nonterminal is accepted if the input is not empty and the nonterminal
rewrites to all of it. -/
theorem mem_cell_iff_derives {grammar : Grammar} (reachable : grammar.Reachable)
    (tokens : List String) :
    (∀ (start length : Nat) (nonterminal : Nonterminal), 1 ≤ length →
      start + length ≤ tokens.length →
      (nonterminal ∈ (ofTokens grammar tokens).cell ⟨start, length⟩ ↔
        ∃ letters : List Terminal,
          letters.map some = ((tokens.drop start).take length).map grammar.terminal? ∧
            grammar.Derives [.nonterminal nonterminal] (letters.map .terminal))) ∧
      (∀ nonterminal : Nonterminal, (ofTokens grammar tokens).accepts nonterminal = true ↔
        tokens ≠ [] ∧ ∃ letters : List Terminal,
          letters.map some = tokens.map grammar.terminal? ∧
            grammar.Derives [.nonterminal nonterminal] (letters.map .terminal)) := by
  have formed := reachable.wellFormed
  constructor
  · intro start length nonterminal positive inside
    have within : (⟨start, length⟩ : Span).Within tokens.toArray.size := ⟨positive, inside⟩
    rw [ofTokens, mem_cell_iff_exists_tree " " formed within,
      DerivationTree.exists_parses_iff_derives, Span.slice]
  · intro nonterminal
    rw [ofTokens, accepts_fill_iff formed, DerivationTree.exists_parses_iff_derives]

/-- The sample grammar on two symbols: its start symbol rewrites to them. -/
theorem mem_cell_iff_derives_sample :
    Construction.sample.Reachable ∧
      (1 ≤ 2 ∧ 1 + 2 ≤ ["a", "a", "a"].length) ∧
      ((⟨0⟩ : Nonterminal) ∈ (ofTokens Construction.sample ["a", "a", "a"]).cell ⟨1, 2⟩) ∧
      (∃ letters : List Terminal,
        letters.map some = ["a", "a"].map Construction.sample.terminal? ∧
          Construction.sample.Derives [.nonterminal ⟨0⟩] (letters.map .terminal)) := by
  have reachable := Construction.reachable_sample
  have member : (⟨0⟩ : Nonterminal) ∈
      (ofTokens Construction.sample ["a", "a", "a"]).cell ⟨1, 2⟩ := by decide +kernel
  exact ⟨reachable, by decide, member,
    ((mem_cell_iff_derives reachable ["a", "a", "a"]).1 1 2 ⟨0⟩ (by decide) (by decide)).mp
      member⟩

end Chart

end ChartParsing
