import ChartParsing.Description.Token
import ChartParsing.Proofs.Grammar.Naming

/-!
# The language of descriptions

A description is a sequence of statements, and a statement is written with
tokens.  An outline is what a sequence of tokens shows of them: the statements
that are complete, and how far the last one has come.  Each token either extends
the outline or cannot stand there, so the outlines are the beginnings of
descriptions.  Here alternatives may be of any shape.
-/

namespace ChartParsing.Description

/-- How a symbol is written. -/
def symbolToken : NamedSymbol → Token
  | .nonterminal name => .identifier name
  | .terminal name => .quoted name

/-- A statement.  Rules consist of a left-hand side, the alternatives that are followed
by a bar, and the last alternative. -/
inductive Statement where
  | empty
  | start (name : String)
  | rules (lhs : String) (earlier : List (List NamedSymbol)) (last : List NamedSymbol)
  deriving DecidableEq, Repr

/-- The statement that is not complete, as far as it is known. -/
inductive Progress where
  | statement
  | startName
  | startEnd (name : String)
  | colon (lhs : String)
  | alternative (lhs : String) (earlier : List (List NamedSymbol)) (symbols : List NamedSymbol)
  deriving DecidableEq, Repr

/-- The tokens from a left-hand side to the latest symbol. -/
def alternativeTokens (lhs : String) (earlier : List (List NamedSymbol))
    (symbols : List NamedSymbol) : List Token :=
  .identifier lhs :: .colon ::
    (earlier.flatMap (fun alternative => alternative.map symbolToken ++ [.pipe]) ++
      symbols.map symbolToken)

/-- The rules that alternatives denote. -/
def alternativeRules (lhs : String) (alternatives : List (List NamedSymbol)) : List NamedRule :=
  alternatives.map (NamedRule.mk lhs)

namespace Statement

def tokens : Statement → List Token
  | .empty => [.semicolon]
  | .start name => [.start, .identifier name, .semicolon]
  | .rules lhs earlier last => alternativeTokens lhs earlier last ++ [.semicolon]

/-- The rules of a statement, in the order of its alternatives. -/
def denotes : Statement → List NamedRule
  | .rules lhs earlier last => alternativeRules lhs (earlier ++ [last])
  | _ => []

def declares? : Statement → Option String
  | .start name => some name
  | _ => none

def lhs? : Statement → Option String
  | .rules lhs _ _ => some lhs
  | _ => none

end Statement

namespace Progress

def tokens : Progress → List Token
  | .statement => []
  | .startName => [.start]
  | .startEnd name => [.start, .identifier name]
  | .colon lhs => [.identifier lhs]
  | .alternative lhs earlier symbols => alternativeTokens lhs earlier symbols

/-- The rules of the alternatives that are closed. -/
def denotes : Progress → List NamedRule
  | .alternative lhs earlier _ => alternativeRules lhs earlier
  | _ => []

def lhs? : Progress → Option String
  | .colon lhs => some lhs
  | .alternative lhs _ _ => some lhs
  | _ => none

/-- The tokens but for the name of a start symbol, which counts only when
it is declared. -/
def known : Progress → List Token
  | .startEnd _ => [.start]
  | progress => progress.tokens

end Progress

/-- What a sequence of tokens shows of the statements of a description. -/
structure Outline where
  statements : List Statement
  progress : Progress
  deriving DecidableEq, Repr

namespace Outline

def empty : Outline :=
  ⟨[], .statement⟩

def tokens (outline : Outline) : List Token :=
  outline.statements.flatMap Statement.tokens ++ outline.progress.tokens

def known (outline : Outline) : List Token :=
  outline.statements.flatMap Statement.tokens ++ outline.progress.known

def denotes (outline : Outline) : List NamedRule :=
  outline.statements.flatMap Statement.denotes ++ outline.progress.denotes

def declared? (outline : Outline) : Option String :=
  (outline.statements.filterMap Statement.declares?).getLast?

def first? (outline : Outline) : Option String :=
  (outline.statements.filterMap Statement.lhs?).head? <|> outline.progress.lhs?

/-- The outline with one more token, if the token can stand there. -/
def step? (outline : Outline) (token : Token) : Option Outline :=
  match outline.progress, token with
  | .statement, .semicolon => some ⟨outline.statements ++ [.empty], .statement⟩
  | .statement, .start => some ⟨outline.statements, .startName⟩
  | .statement, .identifier name => some ⟨outline.statements, .colon name⟩
  | .startName, .identifier name => some ⟨outline.statements, .startEnd name⟩
  | .startEnd name, .semicolon => some ⟨outline.statements ++ [.start name], .statement⟩
  | .colon lhs, .colon => some ⟨outline.statements, .alternative lhs [] []⟩
  | .alternative lhs earlier symbols, .identifier name =>
      some ⟨outline.statements, .alternative lhs earlier (symbols ++ [.nonterminal name])⟩
  | .alternative lhs earlier symbols, .quoted name =>
      some ⟨outline.statements, .alternative lhs earlier (symbols ++ [.terminal name])⟩
  | .alternative lhs earlier symbols, .pipe =>
      some ⟨outline.statements, .alternative lhs (earlier ++ [symbols]) []⟩
  | .alternative lhs earlier symbols, .semicolon =>
      some ⟨outline.statements ++ [.rules lhs earlier symbols], .statement⟩
  | _, _ => none

/-- The rule of the alternative that a token closes. -/
def closes? (outline : Outline) (token : Token) : Option NamedRule :=
  match outline.progress, token with
  | .alternative lhs _ symbols, .pipe => some ⟨lhs, symbols⟩
  | .alternative lhs _ symbols, .semicolon => some ⟨lhs, symbols⟩
  | _, _ => none

/-- The left-hand side of rules that a token begins. -/
def opens? (outline : Outline) (token : Token) : Option String :=
  match outline.progress, token with
  | .statement, .identifier name => some name
  | _, _ => none

/-- The start symbol whose declaration a token completes. -/
def fixes? (outline : Outline) (token : Token) : Option String :=
  match outline.progress, token with
  | .startEnd name, .semicolon => some name
  | _, _ => none

/-- The outline with further tokens, if they can stand there. -/
def run? (outline : Outline) (tokens : List Token) : Option Outline :=
  tokens.foldlM step? outline

theorem tokens_step? {outline after : Outline} {token : Token}
    (stepped : outline.step? token = some after) : after.tokens = outline.tokens ++ [token] := by
  rcases outline with ⟨statements, progress⟩
  unfold step? at stepped
  split at stepped
  all_goals cases stepped
  all_goals simp_all [tokens, Progress.tokens, Statement.tokens, alternativeTokens, symbolToken]

theorem run?_cons (outline : Outline) (token : Token) (rest : List Token) :
    outline.run? (token :: rest) = (outline.step? token).bind (·.run? rest) :=
  rfl

theorem run?_append (outline : Outline) (first second : List Token) :
    outline.run? (first ++ second) = (outline.run? first).bind (·.run? second) :=
  List.foldlM_append

theorem tokens_run? {outline after : Outline} {read : List Token}
    (ran : outline.run? read = some after) : after.tokens = outline.tokens ++ read := by
  induction read generalizing outline with
  | nil =>
      cases ran
      exact (List.append_nil _).symm
  | cons token rest induction =>
      rw [run?_cons, Option.bind_eq_some_iff] at ran
      obtain ⟨next, stepped, later⟩ := ran
      rw [induction later, tokens_step? stepped, List.append_assoc, List.singleton_append]

/-! ## Reading what is written -/

variable {statements : List Statement} {lhs : String} {earlier : List (List NamedSymbol)}

theorem run?_symbols (symbols more : List NamedSymbol) :
    run? ⟨statements, .alternative lhs earlier symbols⟩ (more.map symbolToken) =
      some ⟨statements, .alternative lhs earlier (symbols ++ more)⟩ := by
  induction more generalizing symbols with
  | nil => rw [List.append_nil]; rfl
  | cons symbol rest induction =>
      have stepped : step? ⟨statements, .alternative lhs earlier symbols⟩ (symbolToken symbol) =
          some ⟨statements, .alternative lhs earlier (symbols ++ [symbol])⟩ := by
        cases symbol <;> rfl
      rw [List.map_cons, run?_cons, stepped, Option.bind_some, induction, List.append_assoc,
        List.singleton_append]

theorem run?_alternatives (more : List (List NamedSymbol)) :
    run? ⟨statements, .alternative lhs earlier []⟩
        (more.flatMap fun alternative => alternative.map symbolToken ++ [.pipe]) =
      some ⟨statements, .alternative lhs (earlier ++ more) []⟩ := by
  induction more generalizing earlier with
  | nil => rw [List.append_nil]; rfl
  | cons alternative rest induction =>
      have closed : run? ⟨statements, .alternative lhs earlier alternative⟩ [.pipe] =
          some ⟨statements, .alternative lhs (earlier ++ [alternative]) []⟩ := rfl
      rw [List.flatMap_cons, run?_append, run?_append, run?_symbols, List.nil_append,
        Option.bind_some, closed, Option.bind_some, induction, List.append_assoc,
        List.singleton_append]

theorem run?_alternativeTokens (symbols : List NamedSymbol) :
    run? ⟨statements, .statement⟩ (alternativeTokens lhs earlier symbols) =
      some ⟨statements, .alternative lhs earlier symbols⟩ := by
  have opened : ∀ rest, run? ⟨statements, .statement⟩ (.identifier lhs :: .colon :: rest) =
      run? ⟨statements, .alternative lhs [] []⟩ rest := fun _ => rfl
  rw [alternativeTokens, opened, run?_append, run?_alternatives, Option.bind_some, run?_symbols,
    List.nil_append, List.nil_append]

theorem run?_statement (statement : Statement) :
    run? ⟨statements, .statement⟩ statement.tokens =
      some ⟨statements ++ [statement], .statement⟩ := by
  cases statement with
  | empty => rfl
  | start name => rfl
  | rules lhs earlier last =>
      rw [Statement.tokens, run?_append, run?_alternativeTokens]
      rfl

theorem run?_statements (more : List Statement) :
    run? ⟨statements, .statement⟩ (more.flatMap Statement.tokens) =
      some ⟨statements ++ more, .statement⟩ := by
  induction more generalizing statements with
  | nil => rw [List.append_nil]; rfl
  | cons statement rest induction =>
      rw [List.flatMap_cons, run?_append, run?_statement, Option.bind_some, induction,
        List.append_assoc, List.singleton_append]

theorem run?_empty_iff {tokens : List Token} {statements : List Statement} :
    empty.run? tokens = some ⟨statements, .statement⟩ ↔
      tokens = statements.flatMap Statement.tokens := by
  constructor
  · intro ran
    have written := tokens_run? ran
    simpa [Outline.tokens, empty, Progress.tokens] using written.symm
  · intro written
    rw [written]
    exact run?_statements statements

theorem known_complete (statements : List Statement) :
    known ⟨statements, .statement⟩ = statements.flatMap Statement.tokens :=
  List.append_nil _

theorem denotes_complete (statements : List Statement) :
    denotes ⟨statements, .statement⟩ = statements.flatMap Statement.denotes :=
  List.append_nil _

theorem first?_complete (statements : List Statement) :
    first? ⟨statements, .statement⟩ = (statements.filterMap Statement.lhs?).head? := by
  simp [first?, Progress.lhs?]

/-! ## What is known early -/

theorem denotes_step? {outline after : Outline} {token : Token}
    (stepped : outline.step? token = some after) :
    after.denotes = (outline.closes? token).elim outline.denotes (outline.denotes ++ [·]) := by
  rcases outline with ⟨statements, progress⟩
  unfold step? at stepped
  split at stepped
  all_goals cases stepped
  all_goals simp_all [denotes, Progress.denotes, Statement.denotes, alternativeRules, closes?]

theorem mem_denotes_of_closes? {outline after : Outline} {token : Token} {rule : NamedRule}
    (stepped : outline.step? token = some after) (closed : outline.closes? token = some rule) :
    rule ∈ after.denotes := by
  rw [denotes_step? stepped, closed]
  exact List.mem_concat_self

theorem declared?_step? {outline after : Outline} {token : Token}
    (stepped : outline.step? token = some after) :
    after.declared? = (outline.fixes? token).elim outline.declared? some := by
  rcases outline with ⟨statements, progress⟩
  unfold step? at stepped
  split at stepped
  all_goals cases stepped
  all_goals simp_all [declared?, fixes?, Statement.declares?]

theorem first?_step? {outline after : Outline} {token : Token}
    (stepped : outline.step? token = some after) :
    after.first? = (outline.opens? token).elim outline.first? (outline.first? <|> some ·) := by
  rcases outline with ⟨statements, progress⟩
  unfold step? at stepped
  split at stepped
  all_goals cases stepped
  all_goals simp_all [first?, opens?, Statement.lhs?, Progress.lhs?]

/-- The tokens of which a token makes the names known. -/
def reveals (outline : Outline) (token : Token) : List Token :=
  match outline.progress, token with
  | .startName, _ => []
  | .startEnd name, _ => [.identifier name, token]
  | _, _ => [token]

theorem known_step? {outline after : Outline} {token : Token}
    (stepped : outline.step? token = some after) :
    after.known = outline.known ++ outline.reveals token := by
  rcases outline with ⟨statements, progress⟩
  unfold step? at stepped
  split at stepped
  all_goals cases stepped
  all_goals
    simp_all [known, reveals, Progress.known, Progress.tokens, Statement.tokens,
      alternativeTokens, symbolToken]

theorem denotes_run? {outline after : Outline} {read : List Token}
    (ran : outline.run? read = some after) : ∀ rule ∈ outline.denotes, rule ∈ after.denotes := by
  induction read generalizing outline with
  | nil =>
      cases ran
      exact fun _ member => member
  | cons token rest induction =>
      rw [run?_cons, Option.bind_eq_some_iff] at ran
      obtain ⟨next, stepped, later⟩ := ran
      intro rule member
      apply induction later
      rw [denotes_step? stepped]
      cases outline.closes? token with
      | none => exact member
      | some closed => exact List.mem_append_left _ member

end Outline

end ChartParsing.Description
