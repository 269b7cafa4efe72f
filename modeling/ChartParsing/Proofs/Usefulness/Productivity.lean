import Mathlib.Order.Bounds.Defs
import ChartParsing.Proofs.Grammar.Rewriting
import ChartParsing.Proofs.Usefulness.Basic

/-!
# Productive nonterminals

A nonterminal is due if all nonterminals of one of its rules are marked.  What
is due and not marked is always waiting to be looked at, although marks are added
in the middle of a round: whatever a new mark makes due mentions the nonterminal
marked, and such nonterminals are looked at in the next round.  When nothing is
waiting, the marks are closed under the rules, and they hold exactly the
nonterminals with a derivation tree.  Every round but the last marks something,
so this happens before the rounds are used up.
-/

namespace ChartParsing

namespace Grammar

/-- The nonterminal derives some sequence of terminals. -/
def Productive (grammar : Grammar) (nonterminal : Nonterminal) : Prop :=
  ∃ tree : DerivationTree, tree.Valid grammar ∧ tree.root = nonterminal

/-- All nonterminals of some rule of the nonterminal are marked. -/
def Due (grammar : Grammar) (marked : NonterminalSet) (nonterminal : Nonterminal) : Prop :=
  ∃ rule ∈ grammar.rules.toList, rule.lhs = nonterminal ∧
    ∀ other ∈ rule.nonterminals, other ∈ marked

/-- With all nonterminals of a rule, its left-hand side is in the set. -/
def ClosedUnderRules (grammar : Grammar) (set : Set Nonterminal) : Prop :=
  ∀ rule ∈ grammar.rules.toList, (∀ other ∈ rule.nonterminals, other ∈ set) → rule.lhs ∈ set

variable {grammar : Grammar} {nonterminal : Nonterminal}

theorem productive_of_rule {rule : Rule} (member : rule ∈ grammar.rules.toList)
    (all : ∀ other ∈ rule.nonterminals, grammar.Productive other) :
    grammar.Productive rule.lhs := by
  rcases rule with ⟨lhs, rhs⟩
  cases rhs with
  | terminal letter => exact ⟨.leaf lhs letter, member, rfl⟩
  | pair left right =>
      obtain ⟨leftTree, leftValid, rfl⟩ := all left (by simp [Rule.nonterminals,
        RightHandSide.nonterminals])
      obtain ⟨rightTree, rightValid, rfl⟩ := all right (by simp [Rule.nonterminals,
        RightHandSide.nonterminals])
      exact ⟨.branch lhs leftTree rightTree, ⟨member, leftValid, rightValid⟩, rfl⟩

theorem ClosedUnderRules.root_mem {set : Set Nonterminal} (closed : grammar.ClosedUnderRules set)
    {tree : DerivationTree} (valid : tree.Valid grammar) : tree.root ∈ set := by
  induction tree with
  | leaf lhs letter => exact closed _ valid fun _ absent => absurd absent List.not_mem_nil
  | branch lhs left right leftIn rightIn =>
      obtain ⟨member, leftValid, rightValid⟩ := valid
      apply closed _ member
      simp [Rule.nonterminals, RightHandSide.nonterminals, leftIn leftValid, rightIn rightValid]

/-- The productive nonterminals are the least set that is closed under the rules. -/
theorem isLeast_productive (grammar : Grammar) :
    IsLeast {set | grammar.ClosedUnderRules set}
      {nonterminal | grammar.Productive nonterminal} := by
  constructor
  · exact fun rule member all => productive_of_rule member all
  · rintro set closed _ ⟨tree, valid, rfl⟩
    exact ClosedUnderRules.root_mem closed valid

theorem Productive.named (formed : grammar.WellFormed)
    (productive : grammar.Productive nonterminal) :
    nonterminal.index < grammar.nonterminalBound := by
  obtain ⟨tree, valid, rfl⟩ := productive
  cases tree with
  | leaf lhs letter => exact formed.lhsNamed _ valid
  | branch lhs left right => exact formed.lhsNamed _ valid.1

end Grammar

namespace Usefulness

variable {grammar : Grammar} {table : Dependents} {nonterminal other : Nonterminal}

/-! ## Dependents -/

/-- The left-hand sides that a table gives for a nonterminal. -/
def dependentsOf (table : Dependents) (nonterminal : Nonterminal) : NonterminalSet :=
  (table[nonterminal.index]?).getD .empty

theorem mem_dependentsOf_modify {lhs mentioned : Nonterminal}
    (inside : mentioned.index < table.length) :
    other ∈ dependentsOf (table.modify mentioned.index (·.insert lhs)) nonterminal ↔
      other ∈ dependentsOf table nonterminal ∨ (other = lhs ∧ nonterminal = mentioned) := by
  rw [dependentsOf, List.getElem?_modify, dependentsOf]
  by_cases same : nonterminal = mentioned
  · simp [same, inside, NonterminalSet.mem_insert]
  · have apart : mentioned.index ≠ nonterminal.index := by
      intro equal
      apply same
      cases nonterminal
      exact congrArg Nonterminal.mk equal.symm
    simp [same, apart]

theorem exists_noteMentions (lhs : Nonterminal) {mentioned : List Nonterminal}
    (inside : ∀ nonterminal ∈ mentioned, nonterminal.index < table.length) :
    ∃ after, mentioned.foldlM (noteMention lhs) table = some after ∧
      after.length = table.length ∧
      ∀ nonterminal other, other ∈ dependentsOf after nonterminal ↔
        other ∈ dependentsOf table nonterminal ∨ (other = lhs ∧ nonterminal ∈ mentioned) := by
  induction mentioned generalizing table with
  | nil => exact ⟨table, rfl, rfl, by simp⟩
  | cons first rest induction =>
      obtain ⟨here, later⟩ := List.forall_mem_cons.mp inside
      have kept : (table.modify first.index (·.insert lhs)).length = table.length :=
        List.length_modify ..
      rw [← kept] at later
      obtain ⟨after, noted, length, members⟩ := induction later
      refine ⟨after, ?_, length.trans kept, ?_⟩
      · rw [List.foldlM_cons, noteMention, if_pos here]
        exact noted
      · intro nonterminal other
        rw [members, mem_dependentsOf_modify here, List.mem_cons, or_assoc, ← and_or_left]

theorem exists_noteRules {rules : List Rule}
    (inside : ∀ rule ∈ rules, ∀ nonterminal ∈ rule.nonterminals,
      nonterminal.index < table.length) :
    ∃ after, rules.foldlM noteRule table = some after ∧
      ∀ nonterminal other, other ∈ dependentsOf after nonterminal ↔
        other ∈ dependentsOf table nonterminal ∨
          ∃ rule ∈ rules, rule.lhs = other ∧ nonterminal ∈ rule.nonterminals := by
  induction rules generalizing table with
  | nil => exact ⟨table, rfl, by simp⟩
  | cons first rest induction =>
      obtain ⟨here, later⟩ := List.forall_mem_cons.mp inside
      obtain ⟨middle, noted, length, members⟩ := exists_noteMentions first.lhs here
      rw [← length] at later
      obtain ⟨after, laterNoted, laterMembers⟩ := induction later
      refine ⟨after, ?_, ?_⟩
      · rw [List.foldlM_cons, noteRule, noted]
        exact laterNoted
      · intro nonterminal other
        rw [laterMembers, members, or_assoc, List.exists_mem_cons_iff, eq_comm]

theorem exists_dependents? (closed : grammar.Closed) :
    ∃ table, dependents? grammar = some table ∧
      ∀ nonterminal other, other ∈ dependentsOf table nonterminal ↔
        ∃ rule ∈ grammar.rules.toList, rule.lhs = other ∧ nonterminal ∈ rule.nonterminals := by
  have room : (List.replicate grammar.nonterminalBound NonterminalSet.empty).length =
      grammar.nonterminalBound := List.length_replicate
  obtain ⟨table, noted, members⟩ := exists_noteRules (by rw [room]; exact closed)
  refine ⟨table, noted, ?_⟩
  intro nonterminal other
  have absent : other ∉
      dependentsOf (List.replicate grammar.nonterminalBound .empty) nonterminal := by
    rw [dependentsOf, List.getElem?_replicate]
    split <;> exact NonterminalSet.not_mem_empty other
  rw [members, or_iff_right absent]

theorem named_of_noteMentions {lhs : Nonterminal} {mentioned : List Nonterminal}
    {after : Dependents} (noted : mentioned.foldlM (noteMention lhs) table = some after) :
    after.length = table.length ∧
      ∀ nonterminal ∈ mentioned, nonterminal.index < table.length := by
  induction mentioned generalizing table with
  | nil =>
      cases noted
      exact ⟨rfl, fun _ absent => absurd absent List.not_mem_nil⟩
  | cons first rest induction =>
      rw [List.foldlM_cons, noteMention] at noted
      split at noted
      · next here =>
          obtain ⟨length, later⟩ := induction noted
          rw [List.length_modify] at length later
          exact ⟨length, List.forall_mem_cons.mpr ⟨here, later⟩⟩
      · cases noted

theorem named_of_noteRules {rules : List Rule} {after : Dependents}
    (noted : rules.foldlM noteRule table = some after) :
    ∀ rule ∈ rules, ∀ nonterminal ∈ rule.nonterminals, nonterminal.index < table.length := by
  induction rules generalizing table with
  | nil => exact fun _ absent => absurd absent List.not_mem_nil
  | cons first rest induction =>
      rw [List.foldlM_cons, Option.bind_eq_bind, Option.bind_eq_some_iff] at noted
      obtain ⟨middle, firstNoted, laterNoted⟩ := noted
      obtain ⟨length, here⟩ := named_of_noteMentions firstNoted
      exact List.forall_mem_cons.mpr ⟨here, length ▸ induction laterNoted⟩

theorem closed_of_dependents? (noted : dependents? grammar = some table) : grammar.Closed := by
  have named := named_of_noteRules noted
  rwa [List.length_replicate] at named

/-! ## Looking at one nonterminal -/

theorem hasMarkedRule_iff (formed : grammar.WellFormed) {marked : NonterminalSet} :
    hasMarkedRule grammar marked nonterminal = true ↔ grammar.Due marked nonterminal := by
  have all : ∀ rule : Rule, rule.nonterminals.all marked.contains = true ↔
      ∀ other ∈ rule.nonterminals, other ∈ marked := by
    intro rule
    simp only [List.all_eq_true, NonterminalSet.contains_iff]
  rw [hasMarkedRule, Grammar.Due, List.any_eq_true]
  cases found : grammar.rulesFor? nonterminal with
  | some rules =>
      simp only [Option.getD_some, Grammar.mem_rulesFor? formed found, all, and_assoc]
  | none =>
      constructor
      · simp
      · intro due
        obtain ⟨rule, member, rfl, _⟩ := due
        obtain ⟨rules, listed⟩ := Grammar.exists_rulesFor? formed (formed.lhsNamed rule member)
        cases found.symm.trans listed

/-- A nonterminal that is looked at joins the marks if it is due, and
its dependents wait. -/
theorem examine_cases (formed : grammar.WellFormed) (table : Dependents) (marking : Marking)
    (current : Nonterminal) :
    (examine grammar table marking current = marking ∧
        (current ∈ marking.productive ∨ ¬grammar.Due marking.productive current)) ∨
      (examine grammar table marking current =
          ⟨marking.productive.insert current, marking.next.union (dependentsOf table current)⟩ ∧
        current ∉ marking.productive ∧ grammar.Due marking.productive current) := by
  rw [examine, ← dependentsOf]
  by_cases known : current ∈ marking.productive
  · rw [if_pos (NonterminalSet.contains_iff.mpr known)]
    exact .inl ⟨rfl, .inl known⟩
  · rw [if_neg (mt NonterminalSet.contains_iff.mp known)]
    by_cases due : grammar.Due marking.productive current
    · rw [if_pos ((hasMarkedRule_iff formed).mpr due)]
      exact .inr ⟨rfl, known, due⟩
    · rw [if_neg (mt (hasMarkedRule_iff formed).mp due)]
      exact .inl ⟨rfl, .inr due⟩

/-! ## Rounds -/

/-- What is marked is productive, and what is due and not marked is waiting. -/
structure Marks (grammar : Grammar) (marked : NonterminalSet) (waiting : Nonterminal → Prop) :
    Prop where
  productive : ∀ nonterminal ∈ marked, grammar.Productive nonterminal
  waits : ∀ nonterminal, nonterminal ∉ marked → grammar.Due marked nonterminal →
    waiting nonterminal

/-- A table that gives at least the left-hand sides of the rules that
mention a nonterminal. -/
def Complete (grammar : Grammar) (table : Dependents) : Prop :=
  ∀ rule ∈ grammar.rules.toList, ∀ nonterminal ∈ rule.nonterminals,
    rule.lhs ∈ dependentsOf table nonterminal

theorem Marks.examine (formed : grammar.WellFormed) (complete : Complete grammar table)
    {marking : Marking} {current : Nonterminal} {rest : List Nonterminal}
    (marks : Marks grammar marking.productive fun nonterminal =>
      nonterminal ∈ current :: rest ∨ nonterminal ∈ marking.next) :
    Marks grammar (examine grammar table marking current).productive fun nonterminal =>
      nonterminal ∈ rest ∨
        nonterminal ∈ (Usefulness.examine grammar table marking current).next := by
  rcases examine_cases formed table marking current with ⟨same, settled⟩ | ⟨same, fresh, due⟩
  · rw [same]
    refine ⟨marks.productive, ?_⟩
    intro nonterminal unmarked due
    rcases marks.waits nonterminal unmarked due with listed | next
    · rcases List.mem_cons.mp listed with rfl | later
      · exact absurd due (settled.resolve_left unmarked)
      · exact .inl later
    · exact .inr next
  · rw [same]
    constructor
    · intro nonterminal marked
      rcases NonterminalSet.mem_insert.mp marked with old | rfl
      · exact marks.productive nonterminal old
      · obtain ⟨rule, member, rfl, all⟩ := due
        exact Grammar.productive_of_rule member fun other inside =>
          marks.productive other (all other inside)
    · intro nonterminal unmarked laterDue
      obtain ⟨rule, member, rfl, all⟩ := laterDue
      by_cases mentioned : current ∈ rule.nonterminals
      · exact .inr (NonterminalSet.mem_union.mpr (.inr (complete rule member current mentioned)))
      · -- The new mark has nothing to do with this rule.
        have unmarkedBefore := fun old => unmarked (NonterminalSet.mem_insert.mpr (.inl old))
        have allBefore : ∀ other ∈ rule.nonterminals, other ∈ marking.productive := by
          intro other inside
          rcases NonterminalSet.mem_insert.mp (all other inside) with old | rfl
          · exact old
          · exact absurd inside mentioned
        rcases marks.waits rule.lhs unmarkedBefore ⟨rule, member, rfl, allBefore⟩ with listed | next
        · rcases List.mem_cons.mp listed with here | later
          · exact absurd (NonterminalSet.mem_insert.mpr (.inr here)) unmarked
          · exact .inl later
        · exact .inr (NonterminalSet.mem_union.mpr (.inl next))

theorem Marks.foldl_examine (formed : grammar.WellFormed) (complete : Complete grammar table)
    {marking : Marking} {update : List Nonterminal}
    (marks : Marks grammar marking.productive fun nonterminal =>
      nonterminal ∈ update ∨ nonterminal ∈ marking.next) :
    Marks grammar (update.foldl (Usefulness.examine grammar table) marking).productive
      (· ∈ (update.foldl (Usefulness.examine grammar table) marking).next) := by
  induction update generalizing marking with
  | nil => simpa using marks
  | cons current rest induction => exact induction (marks.examine formed complete)

theorem Marks.markRound (formed : grammar.WellFormed) (complete : Complete grammar table)
    {marked update : NonterminalSet} (marks : Marks grammar marked (· ∈ update)) :
    Marks grammar (markRound grammar table marked update).productive
      (· ∈ (Usefulness.markRound grammar table marked update).next) := by
  apply Marks.foldl_examine formed complete
  exact ⟨marks.productive, fun nonterminal unmarked due =>
    .inl (marks.waits nonterminal unmarked due)⟩

/-- A round that marks nothing leaves nothing waiting. -/
theorem markRound_grows (formed : grammar.WellFormed) (table : Dependents)
    (marked update : NonterminalSet) :
    marked.size < (markRound grammar table marked update).productive.size ∨
      markRound grammar table marked update = ⟨marked, .empty⟩ := by
  suffices grown : ∀ (current : List Nonterminal) (marking : Marking),
      marked.size < marking.productive.size ∨ marking = ⟨marked, .empty⟩ →
      marked.size < (current.foldl (examine grammar table) marking).productive.size ∨
        current.foldl (examine grammar table) marking = ⟨marked, .empty⟩ from
    grown update.toList ⟨marked, .empty⟩ (.inr rfl)
  intro current
  induction current with
  | nil => exact fun _ earlier => earlier
  | cons first rest induction =>
      intro marking earlier
      apply induction
      rcases examine_cases formed table marking first with ⟨same, _⟩ | ⟨same, fresh, _⟩
      · rw [same]
        exact earlier
      · rw [same]
        left
        rw [NonterminalSet.size_insert fresh]
        rcases earlier with larger | rfl
        · exact Nat.lt_succ_of_lt larger
        · exact Nat.lt_succ_self _

theorem Marks.mem_iff {marked : NonterminalSet} {waiting : Nonterminal → Prop}
    (marks : Marks grammar marked waiting) (done : ∀ nonterminal, ¬waiting nonterminal) :
    nonterminal ∈ marked ↔ grammar.Productive nonterminal := by
  have closed : grammar.ClosedUnderRules {nonterminal | nonterminal ∈ marked} := by
    intro rule member all
    apply Classical.byContradiction
    intro unmarked
    exact done rule.lhs (marks.waits rule.lhs unmarked ⟨rule, member, rfl, all⟩)
  constructor
  · exact marks.productive nonterminal
  · intro productive
    exact (Grammar.isLeast_productive grammar).2 closed productive

theorem Marks.size_le (formed : grammar.WellFormed) {marked : NonterminalSet}
    {waiting : Nonterminal → Prop} (marks : Marks grammar marked waiting) :
    marked.size ≤ grammar.nonterminalBound :=
  NonterminalSet.size_le fun nonterminal member =>
    (marks.productive nonterminal member).named formed

/-- Before the first round nothing is marked, and all left-hand sides are waiting. -/
def Marking.begin (grammar : Grammar) : Marking :=
  ⟨.empty, leftHandSides grammar⟩

/-- So many rounds, before each of which something is waiting, lead from one marking
to another one. -/
inductive Rounds (grammar : Grammar) (table : Dependents) (before : Marking) :
    Nat → Marking → Prop where
  | none : Rounds grammar table before 0 before
  | more {count : Nat} {marking : Marking} : Rounds grammar table before count marking →
      marking.next ≠ .empty →
      Rounds grammar table before (count + 1)
        (markRound grammar table marking.productive marking.next)

variable {before marking : Marking} {count : Nat}

theorem Rounds.marks (formed : grammar.WellFormed) (complete : Complete grammar table)
    (rounds : Rounds grammar table before count marking)
    (marks : Marks grammar before.productive (· ∈ before.next)) :
    Marks grammar marking.productive (· ∈ marking.next) := by
  induction rounds with
  | none => exact marks
  | more _ _ earlier => exact earlier.markRound formed complete

/-- Every round marks something, unless it leaves nothing waiting. -/
theorem Rounds.count_le (formed : grammar.WellFormed)
    (rounds : Rounds grammar table before count marking) :
    count ≤ marking.productive.size ∨
      count ≤ marking.productive.size + 1 ∧ marking.next = .empty := by
  induction rounds with
  | none => exact .inl (Nat.zero_le _)
  | @more count marking _ waiting earlier =>
      have few := earlier.resolve_right fun done => waiting done.2
      rcases markRound_grows formed table marking.productive marking.next with grown | stuck
      · exact .inl (Nat.lt_of_le_of_lt few grown)
      · rw [stuck]
        exact .inr ⟨Nat.succ_le_succ few, rfl⟩

/-- Marking goes on as long as something is waiting and rounds are left. -/
theorem Rounds.exists_markRounds (rounds : Rounds grammar table before count marking)
    (left : Nat) :
    ∃ total final, Rounds grammar table before total final ∧
      markRounds grammar table left marking.productive marking.next = final.productive ∧
      (final.next = .empty ∨ total = count + left) := by
  induction left generalizing count marking with
  | zero => exact ⟨count, marking, rounds, rfl, .inr rfl⟩
  | succ left induction =>
      rw [markRounds]
      by_cases done : marking.next = .empty
      · rw [if_pos (NonterminalSet.isEmpty_iff.mpr done)]
        exact ⟨count, marking, rounds, rfl, .inl done⟩
      · rw [if_neg (mt NonterminalSet.isEmpty_iff.mp done)]
        obtain ⟨total, final, later, same, stopped⟩ := induction (rounds.more done)
        exact ⟨total, final, later, same, stopped.imp_right fun all => by omega⟩

theorem mem_leftHandSides {rule : Rule} (member : rule ∈ grammar.rules.toList) :
    rule.lhs ∈ leftHandSides grammar := by
  apply NonterminalSet.mem_unions.mpr
  exact ⟨_, List.mem_map.mpr ⟨rule, member, rfl⟩, NonterminalSet.mem_insert.mpr (.inr rfl)⟩

theorem marks_begin (grammar : Grammar) :
    Marks grammar (Marking.begin grammar).productive (· ∈ (Marking.begin grammar).next) := by
  constructor
  · exact fun nonterminal absent => absurd absent (NonterminalSet.not_mem_empty nonterminal)
  · intro nonterminal _ due
    obtain ⟨rule, member, rfl, _⟩ := due
    exact mem_leftHandSides member

theorem Rounds.mem_iff (formed : grammar.WellFormed) (complete : Complete grammar table)
    (rounds : Rounds grammar table (.begin grammar) count marking)
    (done : marking.next = .empty) :
    nonterminal ∈ marking.productive ↔ grammar.Productive nonterminal := by
  apply (rounds.marks formed complete (marks_begin grammar)).mem_iff
  rw [done]
  exact NonterminalSet.not_mem_empty

/-- If all nonterminals that rules mention have names, there are enough rounds for
nothing to be left waiting: one more than there are nonterminals to mark. -/
theorem exists_rounds (formed : grammar.WellFormed) (closed : grammar.Closed) :
    ∃ table count final, dependents? grammar = some table ∧ Complete grammar table ∧
      Rounds grammar table (.begin grammar) count final ∧ final.next = .empty ∧
      productive? grammar = some final.productive := by
  obtain ⟨table, noted, members⟩ := exists_dependents? closed
  have complete : Complete grammar table := fun rule member nonterminal mentioned =>
    (members nonterminal rule.lhs).mpr ⟨rule, member, rfl, mentioned⟩
  obtain ⟨count, final, rounds, same, stopped⟩ :=
    Rounds.exists_markRounds (.none : Rounds grammar table (.begin grammar) 0 _)
      (grammar.nonterminalBound + 1)
  refine ⟨table, count, final, noted, complete, rounds, ?_, ?_⟩
  · rcases stopped with done | all
    · exact done
    · have room := (rounds.marks formed complete (marks_begin grammar)).size_le formed
      rcases rounds.count_le formed with few | ⟨_, done⟩
      · omega
      · exact done
  · rw [productive?, noted, ← same]
    rfl

theorem exists_productive? (formed : grammar.WellFormed) (closed : grammar.Closed) :
    ∃ marked, productive? grammar = some marked ∧
      ∀ nonterminal, nonterminal ∈ marked ↔ grammar.Productive nonterminal := by
  obtain ⟨table, count, final, _, complete, rounds, done, found⟩ := exists_rounds formed closed
  exact ⟨final.productive, found, fun _ => rounds.mem_iff formed complete done⟩

end Usefulness

end ChartParsing
