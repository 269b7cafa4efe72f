import ChartParsing.Proofs.Usefulness.SententialForm

/-!
# The work lists of the analysis

Both sets are found by working through lists that grow meanwhile.  Before each round of
marking, whatever is due and not yet marked is waiting, and what is marked is productive;
since every round but the last marks something, there is at most one round more than there
are productive nonterminals.  The search takes nonterminals off a stack.  Those taken and
those on the stack are at every time the ones reached, each once, so in the end each
reachable nonterminal has been taken off once.
-/

namespace ChartParsing

namespace Usefulness

variable {grammar : Grammar}

namespace Search

/-- Turns of the search that take these nonterminals off the stack, the latest in front,
and lead from one state to another one. -/
inductive Follows (grammar : Grammar) (before : Search) : List Nonterminal → Search → Prop where
  | nothing : Follows grammar before [] before
  | follow {taken pending : List Nonterminal} {reached : NonterminalSet} {current : Nonterminal}
      {rules : List Rule} : Follows grammar before taken ⟨reached, current :: pending⟩ →
      grammar.rulesFor? current = some rules →
      Follows grammar before (current :: taken)
        ((rules.flatMap Rule.nonterminals).foldl visit ⟨reached, pending⟩)

variable {before search : Search} {taken : List Nonterminal}

theorem Follows.exists_run {steps : Nat} {reached : NonterminalSet}
    (follows : Follows grammar before taken search)
    (ran : run grammar steps search = some reached) :
    ∃ later, Follows grammar before later ⟨reached, []⟩ := by
  induction steps generalizing taken search with
  | zero =>
      rcases search with ⟨known, pending⟩
      cases pending with
      | nil =>
          cases ran
          exact ⟨taken, follows⟩
      | cons current pending => cases ran
  | succ steps induction =>
      rcases search with ⟨known, pending⟩
      cases pending with
      | nil =>
          cases ran
          exact ⟨taken, follows⟩
      | cons current pending =>
          obtain ⟨rules, found, later⟩ := Option.bind_eq_some_iff.mp ran
          exact induction (follows.follow found) later

/-- What is reached has been taken off the stack or is still on it, and only once. -/
def Disposed (taken : List Nonterminal) (search : Search) : Prop :=
  (taken ++ search.pending).Perm search.reached.toList

theorem disposed_begin (start : Nonterminal) : Disposed [] (begin start) :=
  .refl [start]

theorem Disposed.visit (disposed : Disposed taken search) (nonterminal : Nonterminal) :
    Disposed taken (search.visit nonterminal) := by
  rw [Search.visit]
  by_cases known : nonterminal ∈ search.reached
  · rw [if_pos (NonterminalSet.contains_iff.mpr known)]
    exact disposed
  · rw [if_neg (mt NonterminalSet.contains_iff.mp known)]
    exact List.perm_middle.trans ((disposed.cons nonterminal).trans
      (NonterminalSet.perm_insert known).symm)

theorem Disposed.foldl_visit (disposed : Disposed taken search) (visited : List Nonterminal) :
    Disposed taken (visited.foldl Search.visit search) := by
  induction visited generalizing search with
  | nil => exact disposed
  | cons first rest induction => exact induction (disposed.visit first)

theorem Follows.disposed (follows : Follows grammar before taken search)
    (begun : Disposed [] before) : Disposed taken search := by
  induction follows with
  | nothing => exact begun
  | @follow taken pending reached current rules _ _ earlier =>
      have onward : Disposed (current :: taken) ⟨reached, pending⟩ :=
        List.perm_middle.symm.trans earlier
      exact onward.foldl_visit _

/-- The search takes each nonterminal that it reaches off the stack once. -/
theorem exists_taken {start : Nonterminal} {reached : NonterminalSet}
    (searched : reachable? grammar start = some reached) :
    ∃ taken, Follows grammar (begin start) taken ⟨reached, []⟩ ∧ taken.Perm reached.toList := by
  rw [reachable?] at searched
  split at searched
  · obtain ⟨taken, follows⟩ := Follows.nothing.exists_run searched
    have disposed := follows.disposed (disposed_begin start)
    rw [Disposed, List.append_nil] at disposed
    exact ⟨taken, follows, disposed⟩
  · cases searched

end Search

/-- In a grammar of which all rules mention nonterminals with names, whatever is due
before a round and not yet marked is waiting, and what is marked derives a sequence of
terminals.  There is at most one round more than there are productive nonterminals, and
with the last one these are marked, which are the least set closed under the rules.  The
search never takes a nonterminal off the stack twice, and when the stack is empty it has
taken off the reachable ones. -/
theorem work_lists_come_to_an_end (reachable : grammar.Reachable) (closed : grammar.Closed)
    (start : Nonterminal) (named : start.index < grammar.nonterminalBound) :
    ∃ table productive reached,
      dependents? grammar = some table ∧ productive? grammar = some productive ∧
      reachable? grammar start = some reached ∧
      (∀ nonterminal, nonterminal ∈ productive ↔
        ∃ letters : List Terminal,
          grammar.Derives [.nonterminal nonterminal] (letters.map .terminal)) ∧
      IsLeast {set | grammar.ClosedUnderRules set} {nonterminal | nonterminal ∈ productive} ∧
      (∀ count marking, Rounds grammar table (.begin grammar) count marking →
        (∀ nonterminal, nonterminal ∉ marking.productive →
          grammar.Due marking.productive nonterminal → nonterminal ∈ marking.next) ∧
        (∀ nonterminal ∈ marking.productive,
          ∃ letters : List Terminal,
            grammar.Derives [.nonterminal nonterminal] (letters.map .terminal)) ∧
        count ≤ productive.size + 1) ∧
      (∃ count, Rounds grammar table (.begin grammar) count ⟨productive, .empty⟩) ∧
      (∀ taken search, Search.Follows grammar (.begin start) taken search →
        (taken ++ search.pending).Nodup) ∧
      ∃ taken, Search.Follows grammar (.begin start) taken ⟨reached, []⟩ ∧
        ∀ nonterminal, nonterminal ∈ taken ↔ grammar.OccursFrom start nonterminal := by
  have formed := reachable.wellFormed
  obtain ⟨table, total, ⟨productive, next⟩, noted, complete, rounds, done, found⟩ :=
    exists_rounds formed closed
  obtain ⟨reached, searched, leads⟩ := exists_reachable? formed closed named
  have marked : ∀ nonterminal, nonterminal ∈ productive ↔ grammar.Productive nonterminal :=
    fun _ => rounds.mem_iff formed complete done
  refine ⟨table, productive, reached, noted, found, searched, ?_, ?_, ?_, ?_, ?_, ?_⟩
  · exact fun nonterminal => (marked nonterminal).trans Grammar.productive_iff_derives
  · have same : {nonterminal | nonterminal ∈ productive} =
        {nonterminal | grammar.Productive nonterminal} := Set.ext marked
    exact same ▸ Grammar.isLeast_productive grammar
  · intro count marking earlier
    have marks := earlier.marks formed complete (marks_begin grammar)
    refine ⟨marks.waits, ?_, ?_⟩
    · exact fun _ member => Grammar.productive_iff_derives.mp (marks.productive _ member)
    · have few : marking.productive.size ≤ productive.size :=
        NonterminalSet.size_le_of_subset fun _ member =>
          (marked _).mpr (marks.productive _ member)
      rcases earlier.count_le formed with below | ⟨below, _⟩ <;> omega
  · cases done
    exact ⟨total, rounds⟩
  · intro taken search follows
    exact (follows.disposed (Search.disposed_begin start)).nodup_iff.mpr search.reached.nodup_toList
  · obtain ⟨taken, follows, once⟩ := Search.exists_taken searched
    refine ⟨taken, follows, fun nonterminal => ?_⟩
    rw [once.mem_iff, NonterminalSet.mem_toList, leads, Grammar.occursFrom_iff_leads]

/-- A grammar in which `A` is looked at before `B` is marked, and `S` before `A` is. -/
def ladder : Grammar :=
  (Construction.performAll? .empty (sampleNames ++
    [.pairRule ⟨0⟩ ⟨1⟩ ⟨2⟩, .pairRule ⟨1⟩ ⟨2⟩ ⟨2⟩, .terminalRule ⟨2⟩ ⟨0⟩])).getD .empty

/-- The first round marks `B` only.  Then `A` is due, and it is waiting. -/
theorem work_lists_come_to_an_end_sample :
    ladder.Reachable ∧ ladder.Closed ∧ 0 < ladder.nonterminalBound ∧
      ∃ table productive marking,
        productive? ladder = some productive ∧ productive.toList = [⟨0⟩, ⟨1⟩, ⟨2⟩] ∧
        Rounds ladder table (.begin ladder) 1 marking ∧ marking.productive.toList = [⟨2⟩] ∧
        ladder.Due marking.productive ⟨1⟩ ∧ ⟨1⟩ ∈ marking.next ∧
        ∃ taken search, Search.Follows ladder (.begin ⟨0⟩) taken search ∧ search.pending = [] ∧
          taken.Nodup ∧ ⟨2⟩ ∈ taken := by
  have built : ladder.Reachable := Construction.reachable_performAll? _
  have closed : ladder.Closed := by
    unfold Grammar.Closed
    decide +kernel
  have named : 0 < ladder.nonterminalBound := by decide +kernel
  obtain ⟨table, productive, reached, noted, found, _, _, _, before, _, once, taken, follows,
    all⟩ := work_lists_come_to_an_end built closed ⟨0⟩ named
  have whole : (productive? ladder).map NonterminalSet.toList = some [⟨0⟩, ⟨1⟩, ⟨2⟩] := by
    decide +kernel
  have first : (dependents? ladder).map (fun table =>
      (markRound ladder table .empty (leftHandSides ladder)).productive.toList) =
      some [⟨2⟩] := by decide +kernel
  rw [found, Option.map_some, Option.some.injEq] at whole
  rw [noted, Option.map_some, Option.some.injEq] at first
  have waiting : (Marking.begin ladder).next ≠ .empty := by decide +kernel
  have round := Rounds.more (.none : Rounds ladder table (.begin ladder) 0 _) waiting
  have due : ladder.Due (markRound ladder table .empty (leftHandSides ladder)).productive ⟨1⟩ := by
    refine ⟨⟨⟨1⟩, .pair ⟨2⟩ ⟨2⟩⟩, by decide +kernel, rfl, ?_⟩
    intro other mentioned
    rw [← NonterminalSet.mem_toList, first]
    simpa [Rule.nonterminals, RightHandSide.nonterminals] using mentioned
  have unmarked : ⟨1⟩ ∉ (markRound ladder table .empty (leftHandSides ladder)).productive := by
    rw [← NonterminalSet.mem_toList, first]
    decide
  have uses : ladder.Uses ⟨0⟩ ⟨2⟩ :=
    ⟨⟨⟨0⟩, .pair ⟨1⟩ ⟨2⟩⟩, by decide +kernel, rfl, by decide⟩
  have distinct := once taken _ follows
  rw [List.append_nil] at distinct
  exact ⟨built, closed, named, table, productive, _, found, whole, round, first, due,
    (before 1 _ round).1 ⟨1⟩ unmarked due, taken, _, follows, rfl, distinct,
    (all ⟨2⟩).mpr ((Grammar.occursFrom_self ladder ⟨0⟩).tail uses)⟩

end Usefulness

end ChartParsing
