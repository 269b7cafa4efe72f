import ChartParsing.Forest.Basic

/-!
# Counting the trees of a forest

A leaf is one tree, and a derivation stands for as many trees as its children
have pairs of trees.  Children cover shorter spans than their parent, so nodes
are counted by increasing length.  Counts are capped: one that would exceed
`maxCount` stays there.
-/

namespace ChartParsing.Forest

/-- The greatest count, that of sixty-four set bits. -/
def maxCount : Nat := 0xffffffffffffffff

def cap (count : Nat) : Nat :=
  min count maxCount

/-- The number of trees of a node, given the numbers of its children. -/
def countKind (counts : Array Nat) : NodeKind → Nat
  | .leaf _ => 1
  | .branch derivations =>
      derivations.foldl
        (fun count derivation =>
          cap (count + cap (counts.getD derivation.left 0 * counts.getD derivation.right 0)))
        0

def nodesOfLength (forest : Forest) (length : Nat) : List Nat :=
  (forest.items.toList.zipIdx.filter fun (item, _) => item.span.length = length).map (·.2)

def maxLength (forest : Forest) : Nat :=
  forest.items.toList.foldl (fun longest item => max longest item.span.length) 0

def byLength (forest : Forest) : List Nat :=
  (List.range (forest.maxLength + 1)).flatMap forest.nodesOfLength

def countNode (forest : Forest) (counts : Array Nat) (id : Nat) : Array Nat :=
  match forest.kinds[id]? with
  | some kind => counts.setIfInBounds id (countKind counts kind)
  | none => counts

def counts (forest : Forest) : Array Nat :=
  forest.byLength.foldl forest.countNode (Array.replicate forest.size 0)

def treeCount (forest : Forest) : Nat :=
  forest.counts.getD forest.root 0

end ChartParsing.Forest
