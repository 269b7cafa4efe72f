import ChartParsing.BucketMap
import ChartParsing.NonterminalSet

/-!
# Look-up tables

A table maps right-hand sides to sets of nonterminals.  A key without an entry
has the empty set, and an addition changes the set of its own key only.
-/

namespace ChartParsing

instance : Bucketed Terminal where
  bucket terminal := terminal.index

instance : Bucketed (Nonterminal × Nonterminal) where
  bucket pair := pair.1.index * 37 + pair.2.index

/-- A set for each key. -/
structure LookupTable (κ : Type) where
  sets : BucketMap κ NonterminalSet
  deriving DecidableEq, Repr

namespace LookupTable

variable {κ : Type}

def empty : LookupTable κ := ⟨.empty 63⟩

variable [DecidableEq κ] [Bucketed κ]

def lookup (table : LookupTable κ) (key : κ) : NonterminalSet :=
  (table.sets.find? key).getD .empty

/-- The table after a nonterminal joined the set of a key. -/
def add (table : LookupTable κ) (key : κ) (nonterminal : Nonterminal) : LookupTable κ :=
  ⟨table.sets.put key ((table.lookup key).insert nonterminal)⟩

theorem lookup_empty (key : κ) : (empty : LookupTable κ).lookup key = .empty := by
  rw [lookup, empty, BucketMap.find?_empty, Option.getD_none]

/-- An addition inserts into the set of its own key and leaves every other set alone. -/
theorem lookup_add (table : LookupTable κ) (key other : κ) (nonterminal : Nonterminal) :
    (table.add key nonterminal).lookup other =
      if other = key then (table.lookup other).insert nonterminal else table.lookup other := by
  rw [lookup, add, BucketMap.find?_put]
  by_cases same : other = key
  · rw [if_pos same, if_pos same, Option.getD_some, same]
  · rw [if_neg same, if_neg same, lookup]

end LookupTable

end ChartParsing
