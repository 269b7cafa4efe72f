import ChartParsing.Proofs.Description.Outline

/-!
# Beginnings of descriptions

Tokens are viable if further tokens make them a sequence of statements, with
alternatives of any shape.  These are exactly the tokens that have an outline,
and no tokens have two.  So viable tokens show which alternatives they close.
-/

namespace ChartParsing.Description

/-- Some tokens are the beginning of a sequence of statements. -/
def Viable (tokens : List Token) : Prop :=
  ∃ statements : List Statement, tokens <+: statements.flatMap Statement.tokens

/-- The alternatives that are closed in some viable tokens. -/
def Closes (tokens : List Token) (rules : List NamedRule) : Prop :=
  ∃ outline : Outline, outline.tokens = tokens ∧ outline.denotes = rules

/-- Tokens with which a statement that is not complete can end. -/
def Progress.completion : Progress → List Token
  | .statement => []
  | .startName => [.identifier "", .semicolon]
  | .startEnd _ => [.semicolon]
  | .colon _ => [.colon, .semicolon]
  | .alternative _ _ _ => [.semicolon]

namespace Outline

variable {tokens : List Token} {outline after : Outline} {token : Token}

theorem run?_progress (statements : List Statement) (progress : Progress) :
    run? ⟨statements, .statement⟩ progress.tokens = some ⟨statements, progress⟩ := by
  cases progress with
  | alternative lhs earlier symbols => exact run?_alternativeTokens symbols
  | _ => rfl

theorem run?_tokens (outline : Outline) : empty.run? outline.tokens = some outline := by
  have complete : empty.run? (outline.statements.flatMap Statement.tokens) =
      some ⟨outline.statements, .statement⟩ := run?_empty_iff.mpr rfl
  rw [Outline.tokens, run?_append, complete, Option.bind_some, run?_progress]

theorem run?_empty_eq_some_iff : empty.run? tokens = some outline ↔ outline.tokens = tokens := by
  constructor
  · exact tokens_run?
  · rintro rfl
    exact outline.run?_tokens

theorem exists_run?_completion (outline : Outline) :
    ∃ statements, outline.run? outline.progress.completion = some ⟨statements, .statement⟩ := by
  rcases outline with ⟨statements, progress⟩
  cases progress <;> exact ⟨_, rfl⟩

end Outline

variable {tokens : List Token} {rules : List NamedRule} {outline : Outline}

theorem Viable.of_isPrefix {first : List Token} (viable : Viable tokens)
    (isFirst : first <+: tokens) : Viable first := by
  obtain ⟨statements, written⟩ := viable
  exact ⟨statements, isFirst.trans written⟩

/-- The viable tokens are those that have an outline. -/
theorem viable_iff_exists_outline :
    Viable tokens ↔ ∃ outline : Outline, outline.tokens = tokens := by
  constructor
  · intro viable
    obtain ⟨statements, rest, written⟩ := viable
    have complete := Outline.run?_empty_iff.mpr written
    rw [Outline.run?_append, Option.bind_eq_some_iff] at complete
    obtain ⟨outline, reached, _⟩ := complete
    exact ⟨outline, Outline.run?_empty_eq_some_iff.mp reached⟩
  · intro outlined
    obtain ⟨outline, rfl⟩ := outlined
    obtain ⟨statements, completed⟩ := outline.exists_run?_completion
    refine ⟨statements, outline.progress.completion, ?_⟩
    apply Outline.run?_empty_iff.mp
    rw [Outline.run?_append, outline.run?_tokens]
    exact completed

theorem Outline.viable (outline : Outline) : Viable outline.tokens :=
  viable_iff_exists_outline.mpr ⟨outline, rfl⟩

theorem closes_tokens_iff : Closes outline.tokens rules ↔ outline.denotes = rules := by
  constructor
  · intro closes
    obtain ⟨other, same, rfl⟩ := closes
    have read := Outline.run?_empty_eq_some_iff.mpr same
    cases outline.run?_tokens.symm.trans read
    rfl
  · exact fun denoted => ⟨outline, rfl, denoted⟩

/-- A token can follow the tokens of an outline exactly if it extends the outline. -/
theorem viable_concat_iff {token : Token} :
    Viable (outline.tokens ++ [token]) ↔ (outline.step? token).isSome := by
  rw [viable_iff_exists_outline, Option.isSome_iff_exists]
  apply exists_congr
  intro after
  rw [← Outline.run?_empty_eq_some_iff, Outline.run?_append, outline.run?_tokens,
    Option.bind_some, Outline.run?_cons]
  exact Eq.congr_left (Option.bind_fun_some _)

end ChartParsing.Description
