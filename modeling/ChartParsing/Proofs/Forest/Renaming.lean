import Mathlib.Data.List.Perm.Basic
import Mathlib.Data.Set.Card
import ChartParsing.Proofs.Chart.Renaming
import ChartParsing.Proofs.Forest.Ambiguity

/-!
# Forests of grammars that agree by name

Extraction numbers nodes in an order that follows the numbers of nonterminals, so under
another numbering of the same names a forest has other identifiers.  An item and its
namesake have the same pairings but for names, in some order, and lead on to namesakes.
Hence the items with nodes are namesakes of each other.  Taking each node to the node of
its namesake is a bijection, and it keeps kinds, splits and children.
-/

namespace ChartParsing

variable {first second : Grammar}

/-! ## Trees, items and pairings -/

theorem DerivationTree.bijOn_counterpart (paraphrases : first.Paraphrases second)
    {start otherStart : Nonterminal} (namesakes : first.Namesakes second start otherStart)
    (symbols : List String) :
    Set.BijOn (DerivationTree.counterpart first second)
      {tree | tree.Parses first start symbols} {tree | tree.Parses second otherStart symbols} := by
  have inverse : Set.InvOn (DerivationTree.counterpart second first)
      (DerivationTree.counterpart first second) {tree | tree.Parses first start symbols}
      {tree | tree.Parses second otherStart symbols} := by
    constructor
    · intro tree parses
      exact parses.valid.counterpart_counterpart paraphrases
    · intro tree parses
      exact parses.valid.counterpart_counterpart paraphrases.symm
  apply inverse.bijOn
  · intro tree parses
    rw [← namesakes.counterpart_eq paraphrases.otherFormed]
    exact parses.counterpart paraphrases
  · intro tree parses
    rw [← namesakes.symm.counterpart_eq paraphrases.formed]
    exact parses.counterpart paraphrases.symm

/-- The item of the namesake. -/
def Item.counterpart (first second : Grammar) (item : Item) : Item :=
  ⟨first.counterpart second item.nonterminal, item.span⟩

/-- The pairing of the namesakes. -/
def Pairing.counterpart (first second : Grammar) (pairing : Pairing) : Pairing :=
  ⟨pairing.split, first.counterpart second pairing.left, first.counterpart second pairing.right⟩

theorem Item.counterpart_counterpart (paraphrases : first.Paraphrases second) {item : Item}
    (shares : first.Shares second item.nonterminal) :
    (item.counterpart first second).counterpart second first = item := by
  simp only [Item.counterpart, paraphrases.counterpart_counterpart shares]

namespace Chart

variable {symbols : Array String} {separator : String} {item parent child : Item}
  {pairing : Pairing}

theorem shares_of_mem_pairingsOf (paraphrases : first.Paraphrases second)
    (paired : pairing ∈ (fill first symbols separator).pairingsOf item) :
    first.Shares second pairing.left ∧ first.Shares second pairing.right := by
  obtain ⟨among, _⟩ := mem_pairingsOf.mp paired
  obtain ⟨_, _, leftMember, rightMember⟩ := mem_pairings.mp among
  exact ⟨(mem_cell_counterpart paraphrases leftMember).1,
    (mem_cell_counterpart paraphrases rightMember).1⟩

theorem pairing_counterpart_counterpart (paraphrases : first.Paraphrases second)
    (paired : pairing ∈ (fill first symbols separator).pairingsOf item) :
    (pairing.counterpart first second).counterpart second first = pairing := by
  obtain ⟨leftShared, rightShared⟩ := shares_of_mem_pairingsOf paraphrases paired
  simp only [Pairing.counterpart, paraphrases.counterpart_counterpart leftShared,
    paraphrases.counterpart_counterpart rightShared]

theorem mem_pairingsOf_counterpart (paraphrases : first.Paraphrases second)
    (paired : pairing ∈ (fill first symbols separator).pairingsOf item) :
    pairing.counterpart first second ∈
      (fill second symbols separator).pairingsOf (item.counterpart first second) := by
  obtain ⟨among, ruled⟩ := mem_pairingsOf.mp paired
  obtain ⟨positive, below, leftMember, rightMember⟩ := mem_pairings.mp among
  rw [grammar_fill, paraphrases.formed.memPair] at ruled
  refine mem_pairingsOf.mpr ⟨mem_pairings.mpr ⟨positive, below, ?_, ?_⟩, ?_⟩
  · exact (mem_cell_counterpart paraphrases leftMember).2
  · exact (mem_cell_counterpart paraphrases rightMember).2
  · rw [grammar_fill, paraphrases.otherFormed.memPair]
    exact (paraphrases.pair ruled).2.2.2

theorem perm_pairingsOf_counterpart (paraphrases : first.Paraphrases second)
    (shares : first.Shares second item.nonterminal) (symbols : Array String)
    (separator : String) :
    (((fill first symbols separator).pairingsOf item).map (Pairing.counterpart first second)).Perm
      ((fill second symbols separator).pairingsOf (item.counterpart first second)) := by
  have distinct : (((fill first symbols separator).pairingsOf item).map
      (Pairing.counterpart first second)).Nodup := by
    apply (nodup_pairingsOf _ item).map_on
    intro pairing paired other otherPaired same
    rw [← pairing_counterpart_counterpart paraphrases paired, same,
      pairing_counterpart_counterpart paraphrases otherPaired]
  apply (List.perm_ext_iff_of_nodup distinct (nodup_pairingsOf _ _)).mpr
  intro other
  rw [List.mem_map]
  constructor
  · intro mapped
    obtain ⟨pairing, paired, rfl⟩ := mapped
    exact mem_pairingsOf_counterpart paraphrases paired
  · intro paired
    have back := mem_pairingsOf_counterpart paraphrases.symm paired
    rw [Item.counterpart_counterpart paraphrases shares] at back
    exact ⟨_, back, pairing_counterpart_counterpart paraphrases.symm paired⟩

theorem mentions_counterpart (paraphrases : first.Paraphrases second)
    (mentions : (fill first symbols separator).Mentions parent child) :
    (fill second symbols separator).Mentions (parent.counterpart first second)
      (child.counterpart first second) := by
  obtain ⟨pairing, paired, half⟩ := mentions
  refine ⟨_, mem_pairingsOf_counterpart paraphrases paired, ?_⟩
  rcases half with rfl | rfl
  · exact .inl rfl
  · exact .inr rfl

theorem reaches_counterpart (paraphrases : first.Paraphrases second)
    (reached : Relation.ReflTransGen (fill first symbols separator).Mentions parent child) :
    Relation.ReflTransGen (fill second symbols separator).Mentions
      (parent.counterpart first second) (child.counterpart first second) :=
  reached.lift _ fun _ _ mentions => mentions_counterpart paraphrases mentions

end Chart

/-! ## Forests that match -/

/-- The derivation with its children replaced. -/
def Derivation.rename (place : Nat → Nat) (derivation : Derivation) : Derivation :=
  ⟨derivation.split, place derivation.left, place derivation.right⟩

/-- Both are leaves with namesakes, or both are branches with the same derivations in
some order once the children are replaced. -/
inductive NodeKind.Matches (first second : Grammar) (place : Nat → Nat) :
    NodeKind → NodeKind → Prop where
  | leaf {letter otherLetter : Terminal} : first.LetterNamesakes second letter otherLetter →
      Matches first second place (.leaf letter) (.leaf otherLetter)
  | branch {derivations others : List Derivation} :
      (derivations.map (Derivation.rename place)).Perm others →
      Matches first second place (.branch derivations) (.branch others)

/-- The nodes of two forests correspond one to one, the roots to each other.  They stand
for namesakes over the same spans, and their kinds match. -/
structure Forest.Matches (first second : Grammar) (place : Nat → Nat) (forest other : Forest) :
    Prop where
  bijective : Set.BijOn place {id | id < forest.size} {id | id < other.size}
  root : place forest.root = other.root
  nodes : ∀ {id : Nat} {node : Node}, forest.node? id = some node →
    ∃ otherNode, other.node? (place id) = some otherNode ∧
      first.Namesakes second node.item.nonterminal otherNode.item.nonterminal ∧
      otherNode.item.span = node.item.span ∧
      node.kind.Matches first second place otherNode.kind

theorem Forest.Matches.size_eq {place : Nat → Nat} {forest other : Forest}
    (matched : forest.Matches first second place other) : other.size = forest.size := by
  have counts := matched.bijective.ncard_eq
  simp only [Set.ncard, Set.Nat.encard_range, ENat.toNat_natCast] at counts
  exact counts.symm

theorem Derivation.Denotes.unique {items : Numbering Item} (distinct : items.Distinct) {span : Span}
    {pairing : Pairing} {derivation other : Derivation}
    (denotes : derivation.Denotes items span pairing)
    (otherDenotes : other.Denotes items span pairing) : derivation = other := by
  have split := denotes.split.trans otherDenotes.split.symm
  have left := Numbering.get?_injective distinct denotes.left otherDenotes.left
  have right := Numbering.get?_injective distinct denotes.right otherDenotes.right
  cases derivation
  cases other
  cases split
  cases left
  cases right
  rfl

namespace Forest

/-- The node of another forest for the namesake of a node. -/
def matching (first second : Grammar) (forest other : Forest) (id : Nat) : Nat :=
  ((forest.items.get? id).bind fun item => other.find? (item.counterpart first second)).getD id

/-- The forests of namesakes over one input. -/
structure Twins (first second : Grammar) (symbols : Array String) (separator : String)
    (start otherStart : Nonterminal) (forest other : Forest) : Prop where
  paraphrases : first.Paraphrases second
  namesakes : first.Namesakes second start otherStart
  extracted : extract? (.fill first symbols separator) start = some forest
  otherExtracted : extract? (.fill second symbols separator) otherStart = some other

namespace Twins

variable {symbols : Array String} {separator : String} {start otherStart : Nonterminal}
  {forest other : Forest}

theorem symm (twins : Twins first second symbols separator start otherStart forest other) :
    Twins second first symbols separator otherStart start other forest :=
  ⟨twins.paraphrases.symm, twins.namesakes.symm, twins.otherExtracted, twins.extracted⟩

variable (twins : Twins first second symbols separator start otherStart forest other)

include twins

theorem explained : forest.Explained (.fill first symbols separator) start :=
  explained_of_extract? Chart.finished_fill twins.extracted

theorem connected : forest.Connected (.fill first symbols separator) :=
  connected_of_extract? Chart.finished_fill twins.extracted

theorem shares {id : Nat} {item : Item} (found : forest.items.get? id = some item) :
    first.Shares second item.nonterminal :=
  (Chart.mem_cell_counterpart twins.paraphrases (twins.explained.members found)).1

theorem counterpart_root :
    Item.counterpart first second ⟨start, (Chart.fill first symbols separator).span⟩ =
      ⟨otherStart, (Chart.fill second symbols separator).span⟩ := by
  rw [Item.counterpart, twins.namesakes.counterpart_eq twins.paraphrases.otherFormed,
    Chart.span_fill_eq first second]

/-! ## The bijection -/

theorem get?_matching {id : Nat} {item : Item} (found : forest.items.get? id = some item) :
    other.items.get? (matching first second forest other id) =
      some (item.counterpart first second) := by
  have reached := Chart.reaches_counterpart twins.paraphrases
    ((twins.explained.exists_get?_iff twins.connected).mp ⟨id, found⟩)
  rw [twins.counterpart_root] at reached
  obtain ⟨otherId, otherFound⟩ :=
    (twins.symm.explained.exists_get?_iff twins.symm.connected).mpr reached
  have position :=
    (Numbering.position?_eq_some_iff twins.symm.explained.distinct).mpr otherFound
  rw [matching, found, Option.bind_some, find?, position, Option.getD_some]
  exact otherFound

theorem mapsTo_matching :
    Set.MapsTo (matching first second forest other) {id | id < forest.size}
      {id | id < other.size} := by
  intro id inside
  obtain ⟨item, found⟩ := Numbering.exists_get? inside
  exact Numbering.get?_lt_size (twins.get?_matching found)

theorem leftInvOn_matching :
    Set.LeftInvOn (matching second first other forest) (matching first second forest other)
      {id | id < forest.size} := by
  intro id inside
  obtain ⟨item, found⟩ := Numbering.exists_get? inside
  have back := twins.symm.get?_matching (twins.get?_matching found)
  rw [Item.counterpart_counterpart twins.paraphrases (twins.shares found)] at back
  exact Numbering.get?_injective twins.explained.distinct back found

theorem bijOn_matching :
    Set.BijOn (matching first second forest other) {id | id < forest.size}
      {id | id < other.size} :=
  Set.InvOn.bijOn ⟨twins.leftInvOn_matching, twins.symm.leftInvOn_matching⟩
    twins.mapsTo_matching twins.symm.mapsTo_matching

theorem matching_root : matching first second forest other forest.root = other.root := by
  have carried := twins.get?_matching twins.explained.root
  rw [twins.counterpart_root] at carried
  exact Numbering.get?_injective twins.symm.explained.distinct carried twins.symm.explained.root

/-! ## Kinds -/

theorem denotes_rename {span : Span} {pairing : Pairing} {derivation : Derivation}
    (denotes : derivation.Denotes forest.items span pairing) :
    (derivation.rename (matching first second forest other)).Denotes other.items span
      (pairing.counterpart first second) where
  split := denotes.split
  left := twins.get?_matching denotes.left
  right := twins.get?_matching denotes.right

theorem perm_rename {item : Item} (shares : first.Shares second item.nonterminal)
    {derivations others : List Derivation}
    (denoted : List.Forall₂ (Derivation.Denotes forest.items item.span)
      ((Chart.fill first symbols separator).pairingsOf item) derivations)
    (otherDenoted : List.Forall₂ (Derivation.Denotes other.items item.span)
      ((Chart.fill second symbols separator).pairingsOf (item.counterpart first second)) others) :
    (derivations.map (Derivation.rename (matching first second forest other))).Perm others := by
  have renamed : List.Forall₂ (Derivation.Denotes other.items item.span)
      (((Chart.fill first symbols separator).pairingsOf item).map
        (Pairing.counterpart first second))
      (derivations.map (Derivation.rename (matching first second forest other))) := by
    apply List.forall₂_map_left_iff.mpr
    apply List.forall₂_map_right_iff.mpr
    exact denoted.imp fun _ _ denotes => twins.denotes_rename denotes
  have unique : Relator.RightUnique (Derivation.Denotes other.items item.span) :=
    fun _ _ _ denotes otherDenotes =>
      denotes.unique twins.symm.explained.distinct otherDenotes
  exact List.rel_perm_imp unique renamed otherDenoted
    (Chart.perm_pairingsOf_counterpart twins.paraphrases shares symbols separator)

theorem kinds_match {id : Nat} {item : Item} (found : forest.items.get? id = some item)
    {kind otherKind : NodeKind}
    (explains : kind.Explains (.fill first symbols separator) forest.items item)
    (otherExplains : otherKind.Explains (.fill second symbols separator) other.items
      (item.counterpart first second)) :
    kind.Matches first second (matching first second forest other) otherKind := by
  cases explains with
  | leaf single named =>
      cases otherExplains with
      | leaf _ otherNamed =>
          have inside := (Item.within_of_member (twins.explained.members found)).start_lt
          have otherInside : (item.counterpart first second).span.start < symbols.size := inside
          rw [Chart.terminal?_fill inside] at named
          rw [Chart.terminal?_fill otherInside] at otherNamed
          exact .leaf ⟨_, (Grammar.terminal?_eq_some_iff twins.paraphrases.formed).mp named,
            (Grammar.terminal?_eq_some_iff twins.paraphrases.otherFormed).mp otherNamed⟩
      | branch long _ => exact absurd single long
  | branch long denoted =>
      cases otherExplains with
      | leaf single _ => exact absurd single long
      | branch _ otherDenoted =>
          exact .branch (twins.perm_rename (twins.shares found) denoted otherDenoted)

/-- The two forests match, node by node. -/
theorem matched : forest.Matches first second (matching first second forest other) other where
  bijective := twins.bijOn_matching
  root := twins.matching_root
  nodes := by
    intro id node placed
    obtain ⟨found, explains⟩ := twins.explained.explains_of_node? placed
    have carried := twins.get?_matching found
    obtain ⟨otherKind, otherPlaced, otherExplains⟩ := twins.symm.explained.node? carried
    exact ⟨_, otherPlaced, twins.shares found, rfl,
      twins.kinds_match found explains otherExplains⟩

/-! ## Counts -/

theorem isAmbiguous_of_isAmbiguous (ambiguous : forest.isAmbiguous = true) :
    other.isAmbiguous = true := by
  obtain ⟨id, item, found, several⟩ :=
    (Forest.isAmbiguous_iff twins.explained twins.connected).mp ambiguous
  refine (Forest.isAmbiguous_iff twins.symm.explained twins.symm.connected).mpr
    ⟨_, _, twins.get?_matching found, ?_⟩
  have permuted := Chart.perm_pairingsOf_counterpart twins.paraphrases (twins.shares found)
    symbols separator
  rw [← permuted.length_eq, List.length_map]
  exact several

theorem isAmbiguous_eq : other.isAmbiguous = forest.isAmbiguous :=
  Bool.eq_iff_iff.mpr ⟨twins.symm.isAmbiguous_of_isAmbiguous, twins.isAmbiguous_of_isAmbiguous⟩

theorem treeCount_eq : other.treeCount = forest.treeCount := by
  rw [Forest.treeCount_eq twins.paraphrases.formed twins.explained,
    Forest.treeCount_eq twins.paraphrases.otherFormed twins.symm.explained,
    (DerivationTree.bijOn_counterpart twins.paraphrases twins.namesakes
      symbols.toList).ncard_eq]

end Twins

/-- Namesakes have forests over the same inputs.  The forests match and agree
in all counts. -/
theorem rel_extract? (paraphrases : first.Paraphrases second) {start otherStart : Nonterminal}
    (namesakes : first.Namesakes second start otherStart) (symbols : Array String)
    (separator : String) :
    Option.Rel (fun forest other =>
        (∃ place, forest.Matches first second place other) ∧ other.size = forest.size ∧
          other.treeCount = forest.treeCount ∧ other.isAmbiguous = forest.isAmbiguous)
      (extract? (.fill first symbols separator) start)
      (extract? (.fill second symbols separator) otherStart) := by
  have same := Chart.accepts_namesake paraphrases namesakes symbols separator
  cases accepted : (Chart.fill first symbols separator).accepts start with
  | false =>
      rw [extract?_of_not_accepts accepted, extract?_of_not_accepts (same.trans accepted)]
      exact .none
  | true =>
      obtain ⟨forest, extracted, _⟩ := extract?_of_accepts Chart.finished_fill accepted
      obtain ⟨other, otherExtracted, _⟩ :=
        extract?_of_accepts Chart.finished_fill (same.trans accepted)
      have twins : Twins first second symbols separator start otherStart forest other :=
        ⟨paraphrases, namesakes, extracted, otherExtracted⟩
      rw [extracted, otherExtracted]
      exact .some ⟨⟨_, twins.matched⟩, twins.matched.size_eq, twins.treeCount_eq,
        twins.isAmbiguous_eq⟩

end Forest

end ChartParsing
