import ChartParsing.Proofs.Chart.Locality
import ChartParsing.Proofs.Forest.Renaming

/-!
# Forests of a part of an input

In the chart of a part of an input an item has the pairings that it has in the chart of
the whole once it is shifted to the part, in the same order, and it leads on to the same
items.  Extraction may number the nodes differently, since it starts elsewhere and finds
some of them earlier.  But what is reached from the node over the part is the forest of
the part: taking each node to the node of the shifted item is a bijection, and it keeps
terminals and derivations.
-/

namespace ChartParsing

/-! ## Items and pairings -/

/-- The same nonterminal, so many positions further on. -/
def Item.shift (offset : Nat) (item : Item) : Item :=
  ⟨item.nonterminal, item.span.shift offset⟩

theorem Item.shift_injective (offset : Nat) : Function.Injective (Item.shift offset) := by
  intro first second same
  obtain ⟨nonterminal, span⟩ := Item.mk.inj same
  cases first
  cases second
  cases nonterminal
  cases Span.shift_injective offset span
  rfl

theorem Pairing.items_shift (pairing : Pairing) (offset : Nat) (item : Item) :
    pairing.items (item.shift offset).span =
      ((pairing.items item.span).1.shift offset, (pairing.items item.span).2.shift offset) := by
  simp only [Pairing.items, Item.shift, Span.shift_cut_left, Span.shift_cut_right]

theorem Chart.stop_le_of_mem_pairingsOf {chart : Chart} {item : Item} {pairing : Pairing}
    (paired : pairing ∈ chart.pairingsOf item) : item.span.stop ≤ chart.size := by
  obtain ⟨_, below, _, right⟩ := mem_pairings.mp (mem_pairingsOf.mp paired).1
  have inside := (within_of_mem_cell right).inside
  rwa [Span.stop_cut_right (Nat.le_of_lt below)] at inside

namespace Chart

variable {grammar : Grammar} {symbols : Array String} {separator : String} {part : Span}
  {item parent child root other : Item}

theorem pairingsOf_extract (separator : String) (formed : grammar.WellFormed)
    (inside : part.stop ≤ symbols.size) (short : item.span.stop ≤ part.length) :
    (fill grammar (symbols.extract part.start part.stop) separator).pairingsOf item =
      (fill grammar symbols separator).pairingsOf (item.shift part.start) := by
  rw [pairingsOf, pairingsOf, pairings_extract separator formed inside short, grammar_fill,
    grammar_fill]
  rfl

theorem mentions_shift (formed : grammar.WellFormed) (inside : part.stop ≤ symbols.size)
    (mentions : (fill grammar (symbols.extract part.start part.stop) separator).Mentions
      parent child) :
    (fill grammar symbols separator).Mentions (parent.shift part.start)
      (child.shift part.start) := by
  obtain ⟨pairing, paired, half⟩ := mentions
  have short := stop_le_of_mem_pairingsOf paired
  rw [size_fill, Span.size_extract inside] at short
  rw [pairingsOf_extract separator formed inside short] at paired
  refine ⟨pairing, paired, ?_⟩
  rw [Pairing.items_shift]
  exact half.imp (congrArg _) (congrArg _)

/-- Nothing leads out of a part. -/
theorem exists_mentions_of_shift (formed : grammar.WellFormed)
    (inside : part.stop ≤ symbols.size) (short : parent.span.stop ≤ part.length)
    (mentions : (fill grammar symbols separator).Mentions (parent.shift part.start) other) :
    ∃ child, child.shift part.start = other ∧ child.span.stop ≤ part.length ∧
      (fill grammar (symbols.extract part.start part.stop) separator).Mentions parent child := by
  obtain ⟨pairing, paired, half⟩ := mentions
  rw [← pairingsOf_extract separator formed inside short] at paired
  rw [Pairing.items_shift] at half
  have members := members_of_mem_pairingsOf paired
  have leftInside := (within_of_mem_cell members.1.1).inside
  have rightInside := (within_of_mem_cell members.2.1).inside
  rw [size_fill, Span.size_extract inside] at leftInside rightInside
  rcases half with rfl | rfl
  · exact ⟨_, rfl, leftInside, pairing, paired, .inl rfl⟩
  · exact ⟨_, rfl, rightInside, pairing, paired, .inr rfl⟩

theorem reaches_shift (formed : grammar.WellFormed) (inside : part.stop ≤ symbols.size)
    (reached : Relation.ReflTransGen
      (fill grammar (symbols.extract part.start part.stop) separator).Mentions root item) :
    Relation.ReflTransGen (fill grammar symbols separator).Mentions (root.shift part.start)
      (item.shift part.start) :=
  reached.lift _ fun _ _ mentions => mentions_shift formed inside mentions

theorem exists_reaches_of_shift (formed : grammar.WellFormed)
    (inside : part.stop ≤ symbols.size) (short : root.span.stop ≤ part.length)
    (reached : Relation.ReflTransGen (fill grammar symbols separator).Mentions
      (root.shift part.start) other) :
    ∃ item, item.shift part.start = other ∧ item.span.stop ≤ part.length ∧
      Relation.ReflTransGen
        (fill grammar (symbols.extract part.start part.stop) separator).Mentions root item := by
  induction reached with
  | refl => exact ⟨root, rfl, short, .refl⟩
  | tail _ mentions induction =>
      obtain ⟨middle, rfl, middleShort, middleReached⟩ := induction
      obtain ⟨item, same, itemShort, itemMentions⟩ :=
        exists_mentions_of_shift formed inside middleShort mentions
      exact ⟨item, same, itemShort, middleReached.tail itemMentions⟩

end Chart

/-! ## The nodes under a node -/

namespace Forest

/-- One node is a child in some derivation of another one. -/
def Child (forest : Forest) (parent child : Nat) : Prop :=
  ∃ node, forest.node? parent = some node ∧
    ∃ derivation ∈ node.kind.derivations, derivation.left = child ∨ derivation.right = child

/-- What is reached from a node by going on to children, the node itself included. -/
def under (forest : Forest) (id : Nat) : Set Nat :=
  {other | Relation.ReflTransGen forest.Child id other}

namespace Explained

variable {chart : Chart} {start : Nonterminal} {forest : Forest} {id child : Nat} {item : Item}

theorem child_iff (explained : forest.Explained chart start)
    (found : forest.items.get? id = some item) :
    forest.Child id child ↔
      ∃ childItem, forest.items.get? child = some childItem ∧ chart.Mentions item childItem := by
  constructor
  · intro leads
    obtain ⟨node, placed, derivation, derived, half⟩ := leads
    obtain ⟨kind, known, explains⟩ := explained.node? found
    cases known.symm.trans placed
    cases explains with
    | leaf _ _ => cases derived
    | branch _ denoted =>
        obtain ⟨pairing, paired, denotes⟩ := exists_of_mem_left denoted.flip derived
        rcases half with rfl | rfl
        · exact ⟨_, denotes.left, pairing, paired, .inl rfl⟩
        · exact ⟨_, denotes.right, pairing, paired, .inr rfl⟩
  · intro mentioned
    obtain ⟨childItem, childFound, mentions⟩ := mentioned
    obtain ⟨node, derivation, placed, derived, half⟩ :=
      explained.exists_derivation found childFound mentions
    exact ⟨node, placed, derivation, derived, half⟩

theorem mem_under_iff (explained : forest.Explained chart start)
    (connected : forest.Connected chart) (found : forest.items.get? id = some item)
    {other : Nat} :
    other ∈ forest.under id ↔
      ∃ otherItem, forest.items.get? other = some otherItem ∧
        Relation.ReflTransGen chart.Mentions item otherItem := by
  constructor
  · intro reached
    induction reached with
    | refl => exact ⟨item, found, .refl⟩
    | tail _ leads induction =>
        obtain ⟨middle, middleFound, middleReached⟩ := induction
        obtain ⟨last, lastFound, mentions⟩ := (explained.child_iff middleFound).mp leads
        exact ⟨last, lastFound, middleReached.tail mentions⟩
  · intro mentioned
    obtain ⟨otherItem, otherFound, reached⟩ := mentioned
    induction reached generalizing other with
    | refl =>
        rw [Numbering.get?_injective explained.distinct otherFound found]
        exact Relation.ReflTransGen.refl
    | tail earlier mentions induction =>
        have fromRoot := (explained.exists_get?_iff connected).mp ⟨id, found⟩
        obtain ⟨middle, middleFound⟩ :=
          (explained.exists_get?_iff connected).mpr (fromRoot.trans earlier)
        exact Relation.ReflTransGen.tail (induction middleFound)
          ((explained.child_iff middleFound).mpr ⟨_, otherFound, mentions⟩)

end Explained

end Forest

/-! ## The forest of a part -/

/-- The same terminal, or the same derivations in the same order with
the children replaced. -/
def NodeKind.rename (place : Nat → Nat) : NodeKind → NodeKind
  | .leaf letter => .leaf letter
  | .branch derivations => .branch (derivations.map (Derivation.rename place))

/-- The node so many positions further on, with the children replaced. -/
def Node.move (offset : Nat) (place : Nat → Nat) (node : Node) : Node :=
  ⟨node.item.shift offset, node.kind.rename place⟩

/-- The nodes of a forest correspond one to one to what is reached from a node of
another forest, the root to that node.  They are the same nodes, so many
positions further on. -/
structure Forest.StandsUnder (offset : Nat) (place : Nat → Nat) (piece forest : Forest)
    (id : Nat) : Prop where
  bijective : Set.BijOn place {other | other < piece.size} (forest.under id)
  root : place piece.root = id
  nodes : ∀ {other : Nat} {node : Node}, piece.node? other = some node →
    forest.node? (place other) = some (node.move offset place)

namespace Forest

/-- The node of another forest for the shifted item of a node. -/
def shifting (offset : Nat) (piece forest : Forest) (id : Nat) : Nat :=
  ((piece.items.get? id).bind fun item => forest.find? (item.shift offset)).getD id

/-- The forest of a part of an input, beside a forest of the whole that has a node
over the part. -/
structure Excerpt (grammar : Grammar) (symbols : Array String) (separator : String) (part : Span)
    (start nonterminal : Nonterminal) (piece forest : Forest) (id : Nat) : Prop where
  formed : grammar.WellFormed
  inside : part.stop ≤ symbols.size
  extracted : extract? (.fill grammar (symbols.extract part.start part.stop) separator)
    nonterminal = some piece
  wholeExtracted : extract? (.fill grammar symbols separator) start = some forest
  found : forest.items.get? id = some ⟨nonterminal, part⟩

namespace Excerpt

variable {grammar : Grammar} {symbols : Array String} {separator : String} {part : Span}
  {start nonterminal : Nonterminal} {piece forest : Forest} {id : Nat}
  (excerpt : Excerpt grammar symbols separator part start nonterminal piece forest id)

include excerpt

theorem explained : piece.Explained
    (.fill grammar (symbols.extract part.start part.stop) separator) nonterminal :=
  explained_of_extract? Chart.finished_fill excerpt.extracted

theorem connected : piece.Connected
    (.fill grammar (symbols.extract part.start part.stop) separator) :=
  connected_of_extract? Chart.finished_fill excerpt.extracted

theorem wholeExplained : forest.Explained (.fill grammar symbols separator) start :=
  explained_of_extract? Chart.finished_fill excerpt.wholeExtracted

theorem wholeConnected : forest.Connected (.fill grammar symbols separator) :=
  connected_of_extract? Chart.finished_fill excerpt.wholeExtracted

theorem pieceRoot :
    piece.items.get? piece.root = some ⟨nonterminal, ⟨0, part.length⟩⟩ := by
  rw [excerpt.explained.root, Chart.span, Chart.size_fill, Span.size_extract excerpt.inside]

theorem exists_get?_iff {item : Item} :
    (∃ inner, piece.items.get? inner = some item) ↔
      Relation.ReflTransGen
        (Chart.fill grammar (symbols.extract part.start part.stop) separator).Mentions
        ⟨nonterminal, ⟨0, part.length⟩⟩ item := by
  rw [excerpt.explained.exists_get?_iff excerpt.connected, Chart.span, Chart.size_fill,
    Span.size_extract excerpt.inside]

theorem reaches_iff {other : Item} :
    Relation.ReflTransGen (Chart.fill grammar symbols separator).Mentions ⟨nonterminal, part⟩
        other ↔
      ∃ inner item, piece.items.get? inner = some item ∧ item.shift part.start = other := by
  have atPart : Item.shift part.start ⟨nonterminal, ⟨0, part.length⟩⟩ = ⟨nonterminal, part⟩ := rfl
  have whole : Span.stop ⟨0, part.length⟩ ≤ part.length := by simp [Span.stop]
  rw [← atPart]
  constructor
  · intro reached
    obtain ⟨item, same, _, pieceReached⟩ :=
      Chart.exists_reaches_of_shift excerpt.formed excerpt.inside whole reached
    obtain ⟨inner, innerFound⟩ := excerpt.exists_get?_iff.mpr pieceReached
    exact ⟨inner, item, innerFound, same⟩
  · intro known
    obtain ⟨inner, item, innerFound, rfl⟩ := known
    exact Chart.reaches_shift excerpt.formed excerpt.inside
      (excerpt.exists_get?_iff.mp ⟨inner, innerFound⟩)

/-! ### The bijection -/

theorem get?_shifting {inner : Nat} {item : Item}
    (innerFound : piece.items.get? inner = some item) :
    forest.items.get? (shifting part.start piece forest inner) =
      some (item.shift part.start) := by
  have fromRoot :=
    (excerpt.wholeExplained.exists_get?_iff excerpt.wholeConnected).mp ⟨id, excerpt.found⟩
  have reached := fromRoot.trans (excerpt.reaches_iff.mpr ⟨inner, item, innerFound, rfl⟩)
  obtain ⟨other, otherFound⟩ :=
    (excerpt.wholeExplained.exists_get?_iff excerpt.wholeConnected).mpr reached
  have position :=
    (Numbering.position?_eq_some_iff excerpt.wholeExplained.distinct).mpr otherFound
  rw [shifting, innerFound, Option.bind_some, find?, position, Option.getD_some]
  exact otherFound

theorem mapsTo_shifting :
    Set.MapsTo (shifting part.start piece forest) {inner | inner < piece.size}
      (forest.under id) := by
  intro inner below
  obtain ⟨item, innerFound⟩ := Numbering.exists_get? below
  exact (excerpt.wholeExplained.mem_under_iff excerpt.wholeConnected excerpt.found).mpr
    ⟨_, excerpt.get?_shifting innerFound, excerpt.reaches_iff.mpr ⟨inner, item, innerFound, rfl⟩⟩

theorem injOn_shifting :
    Set.InjOn (shifting part.start piece forest) {inner | inner < piece.size} := by
  intro first firstBelow second secondBelow same
  obtain ⟨firstItem, firstFound⟩ := Numbering.exists_get? firstBelow
  obtain ⟨secondItem, secondFound⟩ := Numbering.exists_get? secondBelow
  have firstShifted := excerpt.get?_shifting firstFound
  rw [same, excerpt.get?_shifting secondFound, Option.some.injEq] at firstShifted
  cases Item.shift_injective part.start firstShifted
  exact Numbering.get?_injective excerpt.explained.distinct firstFound secondFound

theorem surjOn_shifting :
    Set.SurjOn (shifting part.start piece forest) {inner | inner < piece.size}
      (forest.under id) := by
  intro other reached
  obtain ⟨_, otherFound, mentioned⟩ :=
    (excerpt.wholeExplained.mem_under_iff excerpt.wholeConnected excerpt.found).mp reached
  obtain ⟨inner, item, innerFound, rfl⟩ := excerpt.reaches_iff.mp mentioned
  exact ⟨inner, Numbering.get?_lt_size innerFound,
    Numbering.get?_injective excerpt.wholeExplained.distinct (excerpt.get?_shifting innerFound)
      otherFound⟩

theorem shifting_root : shifting part.start piece forest piece.root = id :=
  Numbering.get?_injective excerpt.wholeExplained.distinct
    (excerpt.get?_shifting excerpt.pieceRoot) excerpt.found

/-! ### Kinds -/

theorem denotes_rename {item : Item} {pairing : Pairing} {derivation : Derivation}
    (denotes : derivation.Denotes piece.items item.span pairing) :
    (derivation.rename (shifting part.start piece forest)).Denotes forest.items
      (item.shift part.start).span pairing where
  split := denotes.split
  left := by
    rw [Pairing.items_shift]
    exact excerpt.get?_shifting denotes.left
  right := by
    rw [Pairing.items_shift]
    exact excerpt.get?_shifting denotes.right

theorem eq_rename {inner : Nat} {item : Item} (innerFound : piece.items.get? inner = some item)
    {kind otherKind : NodeKind}
    (explains : kind.Explains
      (.fill grammar (symbols.extract part.start part.stop) separator) piece.items item)
    (otherExplains : otherKind.Explains (.fill grammar symbols separator) forest.items
      (item.shift part.start)) :
    otherKind = kind.rename (shifting part.start piece forest) := by
  have within := Item.within_of_member (excerpt.explained.members innerFound)
  rw [Span.size_extract excerpt.inside] at within
  cases explains with
  | leaf single named =>
      cases otherExplains with
      | leaf _ otherNamed =>
          rw [Chart.terminal?_extract excerpt.inside within.start_lt] at named
          cases named.symm.trans otherNamed
          rfl
      | branch long _ => exact absurd single long
  | branch long denoted =>
      cases otherExplains with
      | leaf single _ => exact absurd single long
      | branch _ otherDenoted =>
          rw [Chart.pairingsOf_extract separator excerpt.formed excerpt.inside within.inside]
            at denoted
          have renamed := List.forall₂_map_right_iff.mpr
            (denoted.imp fun _ _ denotes => excerpt.denotes_rename denotes)
          have unique : Relator.RightUnique
              (Derivation.Denotes forest.items (item.shift part.start).span) :=
            fun _ _ _ denotes otherDenotes =>
              denotes.unique excerpt.wholeExplained.distinct otherDenotes
          exact congrArg NodeKind.branch (List.right_unique_forall₂' unique otherDenoted renamed)

/-- The forest of the part is what is reached from the node over the part. -/
theorem standsUnder :
    piece.StandsUnder part.start (shifting part.start piece forest) forest id where
  bijective := ⟨excerpt.mapsTo_shifting, excerpt.injOn_shifting, excerpt.surjOn_shifting⟩
  root := excerpt.shifting_root
  nodes := by
    intro inner node placed
    obtain ⟨innerFound, explains⟩ := excerpt.explained.explains_of_node? placed
    obtain ⟨otherKind, otherPlaced, otherExplains⟩ :=
      excerpt.wholeExplained.node? (excerpt.get?_shifting innerFound)
    rw [otherPlaced, excerpt.eq_rename innerFound explains otherExplains]
    rfl

end Excerpt

/-- What a chart holds over a part of an input depends on that part only.  The chart of
the part has the same cells.  What is a member over the part has a forest there, and
wherever it has a node in a forest of the whole, what is reached from this node is that
forest, further on.  The part of a text can be had as a substring of its chart. -/
theorem part_is_local {grammar : Grammar} (reachable : grammar.Reachable)
    (symbols : Array String) (separator : String) (start length : Nat)
    (inside : start + length ≤ symbols.size) :
    (∀ position size, position + size ≤ length →
      (Chart.fill grammar (symbols.extract start (start + length)) separator).cell
          ⟨position, size⟩ =
        (Chart.fill grammar symbols separator).cell ⟨start + position, size⟩) ∧
      (∀ nonterminal ∈ (Chart.fill grammar symbols separator).cell ⟨start, length⟩,
        ∃ piece, extract? (Chart.fill grammar (symbols.extract start (start + length)) separator)
            nonterminal = some piece ∧
          ∀ root forest id kind,
            extract? (Chart.fill grammar symbols separator) root = some forest →
            forest.node? id = some ⟨⟨nonterminal, ⟨start, length⟩⟩, kind⟩ →
            ∃ place, piece.StandsUnder start place forest id) ∧
      (∀ text : String, symbols = (text.toList.map String.singleton).toArray →
        Chart.ofText grammar ((Chart.ofText grammar text).substring ⟨start, length⟩) =
          Chart.fill grammar (symbols.extract start (start + length)) "") := by
  have formed := reachable.wellFormed
  have partInside : (⟨start, length⟩ : Span).stop ≤ symbols.size := inside
  have cells : ∀ span : Span, span.stop ≤ length →
      (Chart.fill grammar (symbols.extract start (start + length)) separator).cell span =
        (Chart.fill grammar symbols separator).cell (span.shift start) := by
    intro span short
    have same := Chart.cell_extract separator formed partInside short
    exact same
  refine ⟨fun position size short => cells ⟨position, size⟩ short, ?_, ?_⟩
  · intro nonterminal member
    have size : (symbols.extract start (start + length)).size = length :=
      Span.size_extract partInside
    have whole : (⟨0, length⟩ : Span).stop ≤ length := Nat.le_of_eq (Nat.zero_add length)
    have accepted : (Chart.fill grammar (symbols.extract start (start + length)) separator).accepts
        nonterminal = true := by
      rw [Chart.accepts_iff, Chart.span, Chart.size_fill, size, cells _ whole]
      exact member
    obtain ⟨piece, extracted, _⟩ := extract?_of_accepts Chart.finished_fill accepted
    refine ⟨piece, extracted, ?_⟩
    intro root forest id kind wholeExtracted placed
    have found := ((explained_of_extract? Chart.finished_fill
      wholeExtracted).explains_of_node? placed).1
    have excerpt : Excerpt grammar symbols separator ⟨start, length⟩ root nonterminal piece forest
        id := ⟨formed, partInside, extracted, wholeExtracted, found⟩
    exact ⟨_, excerpt.standsUnder⟩
  · rintro text rfl
    have short : (⟨start, length⟩ : Span).stop ≤ text.toList.length := by simpa using partInside
    exact Chart.ofText_substring grammar text short

/-- The last two of three letters have a node of their own in the forest over
all of them. -/
theorem part_is_local_sample :
    Construction.sample.Reachable ∧ 1 + 2 ≤ #["a", "a", "a"].size ∧
      (⟨0⟩ : Nonterminal) ∈
        (Chart.fill Construction.sample #["a", "a", "a"] "").cell ⟨1, 2⟩ ∧
      (∃ piece forest place,
        extract? (Chart.fill Construction.sample (#["a", "a", "a"].extract 1 (1 + 2)) "") ⟨0⟩ =
          some piece ∧
        extract? (Chart.fill Construction.sample #["a", "a", "a"] "") ⟨0⟩ = some forest ∧
        forest.node? 2 = some ⟨⟨⟨0⟩, ⟨1, 2⟩⟩, .branch [⟨1, 5, 4⟩]⟩ ∧
        piece.StandsUnder 1 place forest 2) ∧
      #["a", "a", "a"] = ("aaa".toList.map String.singleton).toArray ∧
      Chart.ofText Construction.sample ((Chart.ofText Construction.sample "aaa").substring ⟨1, 2⟩) =
        Chart.fill Construction.sample (#["a", "a", "a"].extract 1 (1 + 2)) "" := by
  have reachable := Construction.reachable_sample
  have member : (⟨0⟩ : Nonterminal) ∈
      (Chart.fill Construction.sample #["a", "a", "a"] "").cell ⟨1, 2⟩ := by decide +kernel
  have placed : (extract? (Chart.fill Construction.sample #["a", "a", "a"] "") ⟨0⟩).map
      (fun forest => forest.node? 2) =
        some (some ⟨⟨⟨0⟩, ⟨1, 2⟩⟩, .branch [⟨1, 5, 4⟩]⟩) := by decide +kernel
  have letters : #["a", "a", "a"] = ("aaa".toList.map String.singleton).toArray := by
    decide +kernel
  obtain ⟨_, forests, text⟩ :=
    part_is_local reachable #["a", "a", "a"] "" 1 2 (by decide)
  obtain ⟨piece, extracted, stands⟩ := forests ⟨0⟩ member
  obtain ⟨forest, wholeExtracted, found⟩ := Option.map_eq_some_iff.mp placed
  obtain ⟨place, standsUnder⟩ := stands ⟨0⟩ forest 2 _ wholeExtracted found
  exact ⟨reachable, by decide, member,
    ⟨piece, forest, place, extracted, wholeExtracted, found, standsUnder⟩, letters,
    text "aaa" letters⟩

end Forest

end ChartParsing
