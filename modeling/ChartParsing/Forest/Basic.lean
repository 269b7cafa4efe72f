import ChartParsing.Numbering
import ChartParsing.Span
import ChartParsing.Symbol

/-!
# Forests

A forest shows every way in which a nonterminal derives an input.  A node stands
for a nonterminal over a span and is shared by all derivations that use it; its
identifier is its place in the order in which the nodes were first mentioned, so
the root comes first.
-/

namespace ChartParsing

structure Item where
  nonterminal : Nonterminal
  span : Span
  deriving DecidableEq, Repr

instance : Bucketed Item where
  bucket item := (item.span.start * 1009 + item.span.length) * 31 + item.nonterminal.index

/-- One way to derive a node: the length of the first part, and a node for each part. -/
structure Derivation where
  split : Nat
  left : Nat
  right : Nat
  deriving DecidableEq, Repr

inductive NodeKind where
  /-- The node covers a single position and derives the terminal there. -/
  | leaf (terminal : Terminal)
  /-- The node covers two positions or more and is derived in each of these ways. -/
  | branch (derivations : List Derivation)
  deriving DecidableEq, Repr

/-- The ways to derive a branch; a leaf has none. -/
def NodeKind.derivations : NodeKind → List Derivation
  | .leaf _ => []
  | .branch derivations => derivations

structure Node where
  item : Item
  kind : NodeKind
  deriving DecidableEq, Repr

/-- A shared forest of derivations. -/
structure Forest where
  /-- What the nodes stand for. -/
  items : Numbering Item
  kinds : Array NodeKind
  /-- The nodes in the order in which their derivations were found. -/
  order : List Nat
  deriving DecidableEq, Repr

namespace Forest

def root (_ : Forest) : Nat := 0

def size (forest : Forest) : Nat :=
  forest.items.size

/-- The nodes in the order of their identifiers. -/
def nodes (forest : Forest) : List Node :=
  List.zipWith Node.mk forest.items.toList forest.kinds.toList

def node? (forest : Forest) (id : Nat) : Option Node := do
  let item ← forest.items.get? id
  let kind ← forest.kinds[id]?
  return ⟨item, kind⟩

/-- The identifier of the node for a nonterminal over a span. -/
def find? (forest : Forest) (item : Item) : Option Nat :=
  forest.items.position? item

/-- Whether some node is derived in two ways or more. -/
def isAmbiguous (forest : Forest) : Bool :=
  forest.kinds.any fun kind => 1 < kind.derivations.length

end Forest

end ChartParsing
