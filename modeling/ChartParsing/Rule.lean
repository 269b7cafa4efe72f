import ChartParsing.BucketMap
import ChartParsing.Symbol

/-!
# Rules in normal form

The right-hand side of a rule is one terminal or two nonterminals.  Any other
sequence of symbols is turned away, and the reason depends on its shape alone.
-/

namespace ChartParsing

/-- A right-hand side in normal form. -/
inductive RightHandSide where
  | terminal (terminal : Terminal)
  | pair (left right : Nonterminal)
  deriving DecidableEq, Repr

/-- A rule that replaces a nonterminal by a right-hand side in normal form. -/
structure Rule where
  lhs : Nonterminal
  rhs : RightHandSide
  deriving DecidableEq, Repr

instance : Bucketed Rule where
  bucket rule :=
    match rule.rhs with
    | .terminal letter => rule.lhs.index * 31 + letter.index
    | .pair left right => (rule.lhs.index * 31 + left.index) * 37 + right.index

/-- Why a sequence of symbols is no right-hand side in normal form. -/
inductive Misfit where
  | empty
  | unit (nonterminal : Nonterminal)
  /-- There are two symbols, and one of them is a terminal. -/
  | terminalInPair
  | tooMany (count : Nat)
  deriving DecidableEq, Repr

/-- Why a rule cannot join a grammar, with nonterminals by name. -/
inductive RuleError where
  | emptyRule (lhs : String)
  | unitRule (lhs rhs : String)
  /-- The right-hand side has two symbols, at least one of them a terminal. -/
  | terminalInPair (lhs : String)
  /-- The right-hand side has more than two symbols. -/
  | tooManySymbols (lhs : String) (count : Nat)
  /-- A nonterminal whose name is needed has none. -/
  | unnamed (nonterminal : Nonterminal)
  deriving DecidableEq, Repr

def RuleError.message : RuleError → String
  | .emptyRule lhs => s!"rule for `{lhs}` has an empty right-hand side"
  | .unitRule lhs rhs => s!"rule `{lhs} -> {rhs}` rewrites into a single nonterminal"
  | .terminalInPair lhs =>
      s!"rule for `{lhs}` mixes terminals into a two-symbol right-hand side"
  | .tooManySymbols lhs count =>
      s!"rule for `{lhs}` has {count} symbols on its right-hand side, at most 2 are allowed"
  | .unnamed nonterminal => s!"nonterminal {nonterminal.index} has no name"

namespace RightHandSide

def symbols : RightHandSide → List Symbol
  | .terminal letter => [.terminal letter]
  | .pair left right => [.nonterminal left, .nonterminal right]

def nonterminals : RightHandSide → List Nonterminal
  | .terminal _ => []
  | .pair left right => [left, right]

/-- A sequence of symbols as a right-hand side. -/
def ofSymbols : List Symbol → Except Misfit RightHandSide
  | [] => .error .empty
  | [.terminal letter] => .ok (.terminal letter)
  | [.nonterminal nonterminal] => .error (.unit nonterminal)
  | [.nonterminal left, .nonterminal right] => .ok (.pair left right)
  | [_, _] => .error .terminalInPair
  | symbols => .error (.tooMany symbols.length)

theorem ofSymbols_symbols (rhs : RightHandSide) : ofSymbols rhs.symbols = .ok rhs := by
  cases rhs <;> rfl

theorem ofSymbols_eq_ok_iff {symbols : List Symbol} {rhs : RightHandSide} :
    ofSymbols symbols = .ok rhs ↔ symbols = rhs.symbols := by
  constructor
  · intro success
    unfold ofSymbols at success
    split at success <;> cases success <;> rfl
  · intro same
    rw [same, ofSymbols_symbols]

theorem symbols_injective {left right : RightHandSide} (same : left.symbols = right.symbols) :
    left = right := by
  simpa only [ofSymbols_symbols, Except.ok.injEq] using congrArg ofSymbols same

end RightHandSide

namespace Rule

def symbols (rule : Rule) : List Symbol :=
  rule.rhs.symbols

def nonterminals (rule : Rule) : List Nonterminal :=
  rule.rhs.nonterminals

theorem symbols_cases (rule : Rule) : (∃ letter, rule.symbols = [.terminal letter]) ∨
    ∃ left right, rule.symbols = [.nonterminal left, .nonterminal right] := by
  rcases rule with ⟨lhs, rhs⟩
  cases rhs with
  | terminal letter => exact .inl ⟨letter, rfl⟩
  | pair left right => exact .inr ⟨left, right, rfl⟩

theorem mem_iff_exists_symbols {rules : List Rule} (lhs : Nonterminal) (rhs : RightHandSide) :
    ⟨lhs, rhs⟩ ∈ rules ↔ ∃ rule ∈ rules, rule.lhs = lhs ∧ rule.symbols = rhs.symbols := by
  constructor
  · intro member
    exact ⟨_, member, rfl, rfl⟩
  · intro stated
    obtain ⟨⟨_, found⟩, member, rfl, shape⟩ := stated
    cases RightHandSide.symbols_injective shape
    exact member

end Rule

end ChartParsing
