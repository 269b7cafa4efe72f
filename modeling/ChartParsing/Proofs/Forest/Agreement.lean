import ChartParsing.Proofs.Forest.Nodes

/-!
# Charts with the same forests

Extraction reads the terminals and pairings of the items that it has mentioned,
and nothing else of a chart.  Two charts that agree on these make the same
steps, though one of them may hold more members and therefore allow for more
expansions; what a run has found does not change with further steps to spare.
-/

namespace ChartParsing

/-- Two charts agree on a class of items from which none leads out. -/
structure Chart.AgreeOn (scope : Item → Prop) (first second : Chart) : Prop where
  terminal : ∀ position, second.terminal? position = first.terminal? position
  pairings : ∀ item, scope item → second.pairingsOf item = first.pairingsOf item
  mentions : ∀ item other, scope item → first.Mentions item other → scope other

namespace Extraction

variable {chart first second : Chart} {scope : Item → Prop} {state final : Extraction}

theorem run?_add {steps : Nat} (ran : run? chart steps state = some final) (spare : Nat) :
    run? chart (steps + spare) state = some final := by
  induction ran using run?_induction with
  | ended _ ended => exact run?_of_ended ended _
  | turn _ _ stepped induction =>
      rw [Nat.succ_add, run?, stepped]
      exact induction

theorem expand?_congr (agree : Chart.AgreeOn scope first second) {id : Nat}
    (inScope : ∀ item, state.items.get? id = some item → scope item) :
    expand? second id state = expand? first id state := by
  rw [expand?, expand?]
  cases found : state.items.get? id with
  | none => rfl
  | some item =>
      simp only [Option.bind_eq_bind, Option.bind_some, agree.terminal,
        agree.pairings item (inScope item found)]

theorem run?_congr (agree : Chart.AgreeOn scope first second) (steps : Nat)
    (inScope : ∀ id item, state.items.get? id = some item → scope item) :
    run? second steps state = run? first steps state := by
  induction steps generalizing state with
  | zero => rcases state with ⟨items, kinds, _ | ⟨id, pending⟩, expanded⟩ <;> rfl
  | succ steps induction =>
      rcases state with ⟨items, kinds, pending, expanded⟩
      cases pending with
      | nil => rfl
      | cons id pending =>
          have popped : expand? second id ⟨items, kinds, pending, expanded⟩
              = expand? first id ⟨items, kinds, pending, expanded⟩ :=
            expand?_congr agree (inScope id)
          rw [run?, run?, popped]
          cases stepped : expand? first id ⟨items, kinds, pending, expanded⟩ with
          | none => rfl
          | some after =>
              apply induction
              intro other otherItem known
              obtain ⟨item, found, grows⟩ := growsBy_expand? stepped
              rcases grows.origin known with earlier | ⟨_, mentions⟩
              · exact inScope other otherItem earlier
              · exact agree.mentions item otherItem (inScope id item found) mentions

end Extraction

/-- Charts of one size that agree on what is reached from the root have
the same forest. -/
theorem Forest.extract?_congr {first second : Chart} {scope : Item → Prop} {start : Nonterminal}
    (firstFinished : first.Finished) (secondFinished : second.Finished)
    (agree : Chart.AgreeOn scope first second) (span : second.span = first.span)
    (room : second.cells.size = first.cells.size)
    (accepts : second.accepts start = first.accepts start)
    (root : first.accepts start = true → scope ⟨start, first.span⟩) :
    extract? second start = extract? first start := by
  cases accepted : first.accepts start with
  | false =>
      rw [extract?_of_not_accepts accepted, extract?_of_not_accepts (accepts.trans accepted)]
  | true =>
      have begun : Extraction.begin second start = Extraction.begin first start := by
        rw [Extraction.begin, Extraction.begin, span, room]
      obtain ⟨firstFinal, firstRan, _⟩ := Extraction.exists_run_begin firstFinished accepted
      obtain ⟨secondFinal, secondRan, _⟩ :=
        Extraction.exists_run_begin secondFinished (accepts.trans accepted)
      have inScope : ∀ id item,
          (Extraction.begin first start).items.get? id = some item → scope item := by
        intro id item found
        rw [(Extraction.get?_begin_iff.mp found).2]
        exact root accepted
      have same : secondFinal = firstFinal := by
        have firstLonger := Extraction.run?_add firstRan (second.memberCount second.spans)
        have secondLonger := Extraction.run?_add secondRan (first.memberCount first.spans)
        rw [begun, Extraction.run?_congr agree _ inScope, Nat.add_comm] at secondLonger
        exact Option.some.inj (secondLonger.symm.trans firstLonger)
      rw [extract?_of_run? accepted firstRan, extract?_of_run? (accepts.trans accepted) secondRan,
        same]

end ChartParsing
