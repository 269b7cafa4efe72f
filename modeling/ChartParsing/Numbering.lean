import ChartParsing.BucketMap

/-!
# Numberings

A numbering gives numbers to values in the order in which they arrive, starting
at zero.  A value that arrives again keeps its number, so the values of a
numbering built by `insert` are distinct, and `position?` and `get?` are inverse
to each other on them.  An index that agrees with the values spares `position?`
the way through all of them.
-/

namespace ChartParsing

structure Numbering (α : Type) [DecidableEq α] [Bucketed α] where
  values : Array α
  /-- The number under which each value stands first. -/
  index : BucketMap α Nat
  indexed : ∀ value, index.find? value = values.toList.idxOf? value
  deriving Repr

namespace Numbering

variable {α : Type} [DecidableEq α] [Bucketed α]

private theorem eq_of_values_index {left right : Numbering α}
    (values : left.values = right.values) (index : left.index = right.index) :
    left = right := by
  cases left
  cases right
  cases values
  cases index
  rfl

instance : DecidableEq (Numbering α) := fun left right =>
  if same : left.values = right.values ∧ left.index = right.index then
    .isTrue (eq_of_values_index same.1 same.2)
  else
    .isFalse fun equal => same ⟨congrArg values equal, congrArg index equal⟩

/-- The numbering without a value, with room for about so many. -/
def empty (room : Nat) : Numbering α :=
  ⟨#[], .empty room, fun value => BucketMap.find?_empty room value⟩

def toList (numbering : Numbering α) : List α :=
  numbering.values.toList

/-- How many values are numbered, which is also the next free number. -/
def size (numbering : Numbering α) : Nat :=
  numbering.values.size

def get? (numbering : Numbering α) (number : Nat) : Option α :=
  numbering.values[number]?

def position? (numbering : Numbering α) (value : α) : Option Nat :=
  numbering.index.find? value

omit [Bucketed α] in
private theorem idxOf?_concat {values : List α} {value : α} (absent : value ∉ values)
    (other : α) :
    (values ++ [value]).idxOf? other =
      if other = value then some values.length else values.idxOf? other := by
  induction values with
  | nil =>
      by_cases same : other = value
      · simp [List.idxOf?_cons, same]
      · simp [List.idxOf?_cons, same, Ne.symm same]
  | cons first rest ih =>
      have later := ih fun member => absent (List.mem_cons_of_mem _ member)
      by_cases hit : first = other
      · subst hit
        have apart : first ≠ value := fun same => absent (by simp [same])
        simp [List.idxOf?_cons, apart]
      · simp only [List.cons_append, List.idxOf?_cons, beq_iff_eq, if_neg hit, later]
        by_cases same : other = value
        · simp [same]
        · simp [same]

/-- The numbering after a value that it does not have yet. -/
def append (numbering : Numbering α) (value : α)
    (fresh : numbering.position? value = none) : Numbering α where
  values := numbering.values.push value
  index := numbering.index.put value numbering.values.size
  indexed other := by
    have absent : value ∉ numbering.values.toList :=
      List.idxOf?_eq_none_iff.mp (numbering.indexed value ▸ fresh)
    rw [BucketMap.find?_put, Array.toList_push, idxOf?_concat absent, numbering.indexed,
      Array.length_toList]

/-- The number of a value, which is the next free number if the value is new, and the
numbering that holds it. -/
def insert (numbering : Numbering α) (value : α) : Nat × Numbering α :=
  match found : numbering.position? value with
  | some number => (number, numbering)
  | none => (numbering.size, numbering.append value found)

def Distinct (numbering : Numbering α) : Prop :=
  numbering.toList.Nodup

theorem distinct_empty (room : Nat) : (empty room : Numbering α).Distinct :=
  List.nodup_nil

theorem position?_eq_idxOf? (numbering : Numbering α) (value : α) :
    numbering.position? value = numbering.toList.idxOf? value :=
  numbering.indexed value

theorem get?_eq_getElem? (numbering : Numbering α) (number : Nat) :
    numbering.get? number = numbering.toList[number]? :=
  (Array.getElem?_toList).symm

theorem isSome_get?_iff {numbering : Numbering α} {number : Nat} :
    (numbering.get? number).isSome ↔ number < numbering.size := by
  simp [get?, size]

theorem get?_lt_size {numbering : Numbering α} {number : Nat} {value : α}
    (found : numbering.get? number = some value) : number < numbering.size :=
  isSome_get?_iff.mp (Option.isSome_of_eq_some found)

theorem exists_get? {numbering : Numbering α} {number : Nat}
    (inside : number < numbering.size) : ∃ value, numbering.get? number = some value :=
  Option.isSome_iff_exists.mp (isSome_get?_iff.mpr inside)

theorem position?_eq_none_iff {numbering : Numbering α} {value : α} :
    numbering.position? value = none ↔ value ∉ numbering.toList := by
  rw [position?_eq_idxOf?]
  exact List.idxOf?_eq_none_iff

theorem get?_of_position? {numbering : Numbering α} {value : α} {number : Nat}
    (found : numbering.position? value = some number) :
    numbering.get? number = some value := by
  rw [position?_eq_idxOf?] at found
  obtain ⟨inside, same, _⟩ := List.idxOf?_eq_some_iff.mp found
  rw [get?_eq_getElem?]
  exact List.getElem?_eq_some_iff.mpr ⟨inside, same⟩

theorem insert_of_position? {numbering : Numbering α} {value : α} {number : Nat}
    (found : numbering.position? value = some number) :
    numbering.insert value = (number, numbering) := by
  unfold insert
  split
  · next other present =>
      rw [found] at present
      rw [Option.some.inj present]
  · next fresh =>
      rw [found] at fresh
      cases fresh

theorem insert_of_position?_eq_none {numbering : Numbering α} {value : α}
    (fresh : numbering.position? value = none) :
    numbering.insert value = (numbering.size, numbering.append value fresh) := by
  unfold insert
  split
  · next other present =>
      rw [fresh] at present
      cases present
  · rfl

theorem toList_append {numbering : Numbering α} {value : α}
    (fresh : numbering.position? value = none) :
    (numbering.append value fresh).toList = numbering.toList ++ [value] :=
  Array.toList_push

theorem size_append {numbering : Numbering α} {value : α}
    (fresh : numbering.position? value = none) :
    (numbering.append value fresh).size = numbering.size + 1 :=
  Array.size_push ..

theorem length_toList (numbering : Numbering α) : numbering.toList.length = numbering.size :=
  Array.length_toList

theorem get?_append {numbering : Numbering α} {value : α}
    (fresh : numbering.position? value = none) (number : Nat) :
    (numbering.append value fresh).get? number =
      if number = numbering.size then some value else numbering.get? number :=
  Array.getElem?_push

theorem distinct_append {numbering : Numbering α} {value : α}
    (fresh : numbering.position? value = none) (distinct : numbering.Distinct) :
    (numbering.append value fresh).Distinct := by
  have absent := position?_eq_none_iff.mp fresh
  rw [Distinct, toList_append]
  refine List.nodup_append.mpr ⟨distinct, by simp, ?_⟩
  intro other member value' single same
  rw [List.mem_singleton.mp single] at same
  exact absent (same ▸ member)

/-- The number returned by an insertion denotes the value inserted. -/
theorem get?_insert (numbering : Numbering α) (value : α) :
    (numbering.insert value).2.get? (numbering.insert value).1 = some value := by
  cases found : numbering.position? value with
  | none =>
      rw [insert_of_position?_eq_none found, get?_eq_getElem?, toList_append,
        ← numbering.length_toList, List.getElem?_concat_length]
  | some number => simpa [insert_of_position? found] using get?_of_position? found

theorem mem_toList_insert {numbering : Numbering α} {value other : α} :
    other ∈ (numbering.insert value).2.toList ↔ other ∈ numbering.toList ∨ other = value := by
  cases found : numbering.position? value with
  | none => simp [insert_of_position?_eq_none found, toList_append]
  | some number =>
      have member : value ∈ numbering.toList :=
        List.mem_of_getElem? (numbering.get?_eq_getElem? number ▸ get?_of_position? found)
      simp only [insert_of_position? found]
      exact ⟨.inl, fun either => either.elim id fun same => same ▸ member⟩

/-- Among distinct values, the number of a value is the place where it stands. -/
theorem position?_eq_some_iff {numbering : Numbering α} {value : α} {number : Nat}
    (distinct : numbering.Distinct) :
    numbering.position? value = some number ↔ numbering.get? number = some value := by
  constructor
  · exact get?_of_position?
  · intro named
    rw [get?_eq_getElem?] at named
    obtain ⟨inside, same⟩ := List.getElem?_eq_some_iff.mp named
    rw [position?_eq_idxOf?]
    refine List.idxOf?_eq_some_iff.mpr ⟨inside, same, ?_⟩
    intro earlier before equal
    have pairwise := List.pairwise_iff_getElem.mp distinct
    exact pairwise earlier number (Nat.lt_trans before inside) inside before
      (equal.trans same.symm)

theorem get?_injective {numbering : Numbering α} (distinct : numbering.Distinct) {value : α}
    {first second : Nat} (firstNamed : numbering.get? first = some value)
    (secondNamed : numbering.get? second = some value) : first = second := by
  rw [← position?_eq_some_iff distinct] at firstNamed secondNamed
  exact Option.some.inj (firstNamed.symm.trans secondNamed)

end Numbering

end ChartParsing
