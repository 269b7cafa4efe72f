/-!
# Bucket maps

A map with its entries spread over buckets, so that a look-up compares its key
with few others.  Where an entry is kept never shows: an entry that is put is
found under its own key, and what is found under any other key stays the same.
-/

namespace ChartParsing

/-- Keys that are spread by a number. -/
class Bucketed (κ : Type) where
  /-- The number of a key, taken modulo the number of buckets. -/
  bucket : κ → Nat

instance : Bucketed String where
  bucket text := text.toList.foldl (fun number c => (number * 31 + c.toNat) % 65536) 0

/-- Entries in buckets, of which there is at least one. -/
structure BucketMap (κ β : Type) where
  buckets : Array (List (κ × β))
  nonempty : 0 < buckets.size
  deriving DecidableEq, Repr

namespace BucketMap

variable {κ β : Type}

/-- The map without an entry, with one bucket more than the number given. -/
def empty (room : Nat) : BucketMap κ β :=
  ⟨Array.replicate (room + 1) [], by simp⟩

/-- The entry of a key among the entries of a bucket. -/
def search [DecidableEq κ] (key : κ) : List (κ × β) → Option β
  | [] => none
  | (other, value) :: rest => if other = key then some value else search key rest

/-- The entries of a bucket after one is put, which replaces that of the same key. -/
def assign [DecidableEq κ] (key : κ) (value : β) : List (κ × β) → List (κ × β)
  | [] => [(key, value)]
  | (other, present) :: rest =>
      if other = key then (key, value) :: rest else (other, present) :: assign key value rest

variable [DecidableEq κ] [Bucketed κ]

def place (map : BucketMap κ β) (key : κ) : Nat :=
  Bucketed.bucket key % map.buckets.size

def find? (map : BucketMap κ β) (key : κ) : Option β :=
  search key (map.buckets.getD (map.place key) [])

/-- Keep a value under a key, in place of what was kept there. -/
def put (map : BucketMap κ β) (key : κ) (value : β) : BucketMap κ β :=
  ⟨map.buckets.modify (map.place key) (assign key value), by simpa using map.nonempty⟩

omit [Bucketed κ] in
private theorem search_assign (key other : κ) (value : β) (entries : List (κ × β)) :
    search other (assign key value entries) =
      if other = key then some value else search other entries := by
  induction entries with
  | nil => simp [assign, search, eq_comm]
  | cons entry rest ih =>
      rcases entry with ⟨present, old⟩
      by_cases hit : present = key
      · subst hit
        by_cases same : other = present
        · simp [assign, search, same]
        · simp [assign, search, same, Ne.symm same]
      · by_cases found : present = other
        · subst found
          simp [assign, search, hit]
        · simp [assign, search, hit, found, ih]

theorem find?_empty (room : Nat) (key : κ) :
    (empty room : BucketMap κ β).find? key = none := by
  have inside : Bucketed.bucket key % (room + 1) < room + 1 := Nat.mod_lt _ (Nat.succ_pos room)
  simp [find?, empty, place, search, Array.getD_eq_getD_getElem?, inside]

/-- A value that is put is found under its own key, and no other look-up changes. -/
theorem find?_put (map : BucketMap κ β) (key other : κ) (value : β) :
    (map.put key value).find? other = if other = key then some value else map.find? other := by
  have inside : map.place key < map.buckets.size := Nat.mod_lt _ map.nonempty
  have samePlace : (map.put key value).place other = map.place other := by
    simp [place, put]
  rw [find?, samePlace, put, Array.getD_eq_getD_getElem?, Array.getElem?_modify]
  by_cases shared : map.place key = map.place other
  · rw [if_pos shared, ← shared]
    simp only [Array.getElem?_eq_getElem inside, Option.map_some, Option.getD_some,
      search_assign]
    simp [find?, ← shared, Array.getD_eq_getD_getElem?, inside]
  · have different : other ≠ key := fun same => shared (by rw [same])
    rw [if_neg shared, if_neg different, find?, Array.getD_eq_getD_getElem?]

end BucketMap

end ChartParsing
