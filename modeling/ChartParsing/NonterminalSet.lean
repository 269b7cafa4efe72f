import ChartParsing.Symbol

/-!
# Sets of nonterminals

A finite set of nonterminals is kept as the list of its members in increasing
order.  Two sets with the same members are therefore equal, and a set takes as
much room as it has members, however large their numbers are.
-/

namespace ChartParsing

structure NonterminalSet where
  /-- The members in increasing order. -/
  toList : List Nonterminal
  increasing : toList.Pairwise fun left right => left.index < right.index
  deriving DecidableEq, Repr

namespace NonterminalSet

/-! ## Increasing lists -/

/-- A list with one more nonterminal at its place among larger and smaller ones, or the
same list if the nonterminal stands there already. -/
def place (nonterminal : Nonterminal) : List Nonterminal → List Nonterminal
  | [] => [nonterminal]
  | first :: rest =>
      if nonterminal.index < first.index then nonterminal :: first :: rest
      else if nonterminal.index = first.index then first :: rest
      else first :: place nonterminal rest

private theorem index_injective {left right : Nonterminal} (same : left.index = right.index) :
    left = right := by
  cases left
  cases right
  exact congrArg Nonterminal.mk same

theorem mem_place {nonterminal other : Nonterminal} {members : List Nonterminal} :
    other ∈ place nonterminal members ↔ other ∈ members ∨ other = nonterminal := by
  induction members with
  | nil => simp [place]
  | cons first rest ih =>
      by_cases before : nonterminal.index < first.index
      · simp [place, before, or_comm]
      · by_cases present : nonterminal.index = first.index
        · have same : nonterminal = first := index_injective present
          simp [place, same]
          exact fun equal => .inl equal
        · simp [place, before, present, ih, or_assoc]

theorem pairwise_place {nonterminal : Nonterminal} {members : List Nonterminal}
    (increasing : members.Pairwise fun left right => left.index < right.index) :
    (place nonterminal members).Pairwise fun left right => left.index < right.index := by
  induction members with
  | nil => simp [place]
  | cons first rest ih =>
      have above := (List.pairwise_cons.mp increasing).1
      by_cases before : nonterminal.index < first.index
      · rw [place, if_pos before]
        refine List.pairwise_cons.mpr ⟨?_, increasing⟩
        intro other member
        rcases List.mem_cons.mp member with head | tail
        · rwa [head]
        · exact Nat.lt_trans before (above other tail)
      · by_cases present : nonterminal.index = first.index
        · rwa [place, if_neg before, if_pos present]
        · rw [place, if_neg before, if_neg present]
          refine List.pairwise_cons.mpr ⟨?_, ih (List.pairwise_cons.mp increasing).2⟩
          intro other member
          rcases mem_place.mp member with tail | new
          · exact above other tail
          · rw [new]
            omega

/-! ## Operations -/

def empty : NonterminalSet := ⟨[], .nil⟩

def contains (set : NonterminalSet) (nonterminal : Nonterminal) : Bool :=
  set.toList.contains nonterminal

instance : Membership Nonterminal NonterminalSet where
  mem set nonterminal := nonterminal ∈ set.toList

instance (nonterminal : Nonterminal) (set : NonterminalSet) :
    Decidable (nonterminal ∈ set) :=
  inferInstanceAs (Decidable (nonterminal ∈ set.toList))

def insert (set : NonterminalSet) (nonterminal : Nonterminal) : NonterminalSet :=
  ⟨place nonterminal set.toList, pairwise_place set.increasing⟩

def union (left right : NonterminalSet) : NonterminalSet :=
  right.toList.foldl insert left

def unions (sets : List NonterminalSet) : NonterminalSet :=
  sets.foldl union empty

/-- Whether every member of the left set is a member of the right one. -/
def isSubset (left right : NonterminalSet) : Bool :=
  left.toList.all right.contains

def isEmpty (set : NonterminalSet) : Bool :=
  set.toList.isEmpty

def size (set : NonterminalSet) : Nat :=
  set.toList.length

/-! ## Members -/

theorem mem_toList {set : NonterminalSet} {nonterminal : Nonterminal} :
    nonterminal ∈ set.toList ↔ nonterminal ∈ set :=
  Iff.rfl

theorem contains_iff {set : NonterminalSet} {nonterminal : Nonterminal} :
    set.contains nonterminal = true ↔ nonterminal ∈ set :=
  List.contains_iff_mem

/-- Members are listed in strictly increasing order. -/
theorem pairwise_toList (set : NonterminalSet) :
    set.toList.Pairwise fun left right => left.index < right.index :=
  set.increasing

theorem nodup_toList (set : NonterminalSet) : set.toList.Nodup := by
  refine List.Pairwise.imp ?_ set.increasing
  intro left right below same
  exact Nat.ne_of_lt below (congrArg Nonterminal.index same)

theorem ext {left right : NonterminalSet}
    (same : ∀ nonterminal, nonterminal ∈ left ↔ nonterminal ∈ right) : left = right := by
  have permuted : left.toList.Perm right.toList :=
    (List.perm_ext_iff_of_nodup left.nodup_toList right.nodup_toList).mpr same
  have equal : left.toList = right.toList :=
    permuted.eq_of_pairwise
      (fun _ _ _ _ below above => absurd below (Nat.lt_asymm above))
      left.increasing right.increasing
  cases left
  cases right
  cases equal
  rfl

theorem not_mem_empty (nonterminal : Nonterminal) : nonterminal ∉ empty :=
  List.not_mem_nil

theorem mem_insert {set : NonterminalSet} {nonterminal other : Nonterminal} :
    other ∈ set.insert nonterminal ↔ other ∈ set ∨ other = nonterminal :=
  mem_place

private theorem mem_foldl_insert {set : NonterminalSet} {members : List Nonterminal}
    {nonterminal : Nonterminal} :
    nonterminal ∈ members.foldl insert set ↔ nonterminal ∈ set ∨ nonterminal ∈ members := by
  induction members generalizing set with
  | nil => simp
  | cons first rest ih => simp [ih, mem_insert, or_assoc]

theorem mem_union {left right : NonterminalSet} {nonterminal : Nonterminal} :
    nonterminal ∈ left.union right ↔ nonterminal ∈ left ∨ nonterminal ∈ right :=
  mem_foldl_insert

private theorem mem_foldl_union {start : NonterminalSet} {sets : List NonterminalSet}
    {nonterminal : Nonterminal} :
    nonterminal ∈ sets.foldl union start ↔
      nonterminal ∈ start ∨ ∃ set ∈ sets, nonterminal ∈ set := by
  induction sets generalizing start with
  | nil => simp
  | cons first rest ih => simp [ih, mem_union, or_assoc]

theorem mem_unions {sets : List NonterminalSet} {nonterminal : Nonterminal} :
    nonterminal ∈ unions sets ↔ ∃ set ∈ sets, nonterminal ∈ set := by
  simp [unions, mem_foldl_union, not_mem_empty]

theorem isEmpty_iff {set : NonterminalSet} : set.isEmpty = true ↔ set = empty := by
  cases set
  simp [isEmpty, empty]

end NonterminalSet

end ChartParsing
