import ChartParsing.Proofs.Chart.Membership
import ChartParsing.Proofs.Grammar.Naming

/-!
# Charts of a growing grammar

Whatever is called on a grammar, it keeps its names and rules.  A derivation tree
therefore stays one: its rules are there, and the symbols at its leaves name the
same terminals.  New names may give a terminal to symbols that had none, but over
such symbols there were no trees.  So every cell keeps its members.
-/

namespace ChartParsing

namespace Grammar

/-- A grammar has all names and rules of another one, under the same numbers. -/
structure Extends (before after : Grammar) : Prop where
  names : KeepsNames before after
  rules : ∀ rule ∈ before.rules.toList, rule ∈ after.rules.toList

theorem Extends.refl (grammar : Grammar) : grammar.Extends grammar :=
  ⟨⟨fun found => found, fun found => found⟩, fun _ member => member⟩

theorem Extends.trans {first second third : Grammar} (lower : first.Extends second)
    (upper : second.Extends third) : first.Extends third where
  names := ⟨fun found => upper.names.nonterminals (lower.names.nonterminals found),
    fun found => upper.names.terminals (lower.names.terminals found)⟩
  rules := fun rule member => upper.rules rule (lower.rules rule member)

variable {before after : Grammar}

theorem Change.extends (change : before.Change after) : before.Extends after := by
  refine ⟨change.keepsNames, ?_⟩
  intro other member
  cases change with
  | nothing | nonterminal | terminal => exact member
  | rule fresh named => exact (mem_rules_enter fresh).mpr (.inl member)

theorem extends_of_performAll? {calls : List Construction}
    (performed : Construction.performAll? before calls = some after) : before.Extends after :=
  Construction.performAll?_keeps (fun change earlier => earlier.trans change.extends)
    (.refl before) performed

theorem Extends.terminal? (grown : before.Extends after) (formed : before.WellFormed)
    (afterFormed : after.WellFormed) {symbol : String} {letter : Terminal}
    (named : before.terminal? symbol = some letter) : after.terminal? symbol = some letter :=
  (terminal?_eq_some_iff afterFormed).mpr
    (grown.names.terminals ((terminal?_eq_some_iff formed).mp named))

end Grammar

variable {before after : Grammar} {start : Nonterminal}

/-! ## Trees -/

namespace DerivationTree

theorem Valid.extends (grown : before.Extends after) {tree : DerivationTree}
    (valid : tree.Valid before) : tree.Valid after := by
  induction tree with
  | leaf lhs letter => exact grown.rules _ valid
  | branch lhs left right leftInduction rightInduction =>
      obtain ⟨member, leftValid, rightValid⟩ := valid
      exact ⟨grown.rules _ member, leftInduction leftValid, rightInduction rightValid⟩

theorem Parses.extends (grown : before.Extends after) (formed : before.WellFormed)
    (afterFormed : after.WellFormed) {symbols : List String} {tree : DerivationTree}
    (parses : tree.Parses before start symbols) : tree.Parses after start symbols := by
  refine ⟨parses.root, parses.valid.extends grown, parses.spelled.trans ?_⟩
  apply List.map_congr_left
  intro symbol member
  have atLeaf : before.terminal? symbol ∈ tree.letters.map some :=
    parses.spelled ▸ List.mem_map_of_mem member
  obtain ⟨letter, _, named⟩ := List.mem_map.mp atLeaf
  rw [← named, grown.terminal? formed afterFormed named.symm]

end DerivationTree

/-! ## Cells -/

namespace Chart

variable {symbols : Array String} {separator : String}

theorem mem_cell_extends (grown : before.Extends after) (formed : before.WellFormed)
    (afterFormed : after.WellFormed) {span : Span} {nonterminal : Nonterminal}
    (member : nonterminal ∈ (fill before symbols separator).cell span) :
    nonterminal ∈ (fill after symbols separator).cell span := by
  have within := within_of_mem_cell member
  rw [size_fill] at within
  obtain ⟨tree, parses⟩ := (mem_cell_iff_exists_tree separator formed within).mp member
  exact (mem_cell_iff_exists_tree separator afterFormed within).mpr
    ⟨tree, parses.extends grown formed afterFormed⟩

theorem accepts_extends (grown : before.Extends after) (formed : before.WellFormed)
    (afterFormed : after.WellFormed) (accepted : (fill before symbols separator).accepts start) :
    (fill after symbols separator).accepts start := by
  rw [accepts_iff, span_fill_eq before]
  exact mem_cell_extends grown formed afterFormed (accepts_iff.mp accepted)

end Chart

end ChartParsing
