import ChartParsing.Description.Token
import ChartParsing.Rule

/-!
# Errors of a description

Reading stops at the first lexeme that cannot continue a description, at the
end of a text that is not complete, or at an alternative that is not in normal
form.
-/

namespace ChartParsing.Description

/-- What could have stood in the place of an unexpected lexeme. -/
inductive Expectation where
  | statement
  | startSymbol
  | semicolon
  | colon
  /-- A symbol, or what closes an alternative. -/
  | alternative
  deriving DecidableEq, Repr

def Expectation.describe : Expectation → String
  | .statement => "rule or `start` declaration"
  | .startSymbol => "start symbol"
  | .semicolon => "`;`"
  | .colon => "`:`"
  | .alternative => "symbol, `|` or `;`"

/-- Why a text is no description. -/
inductive Error where
  /-- The lexeme at an offset cannot stand there; without a token, the text ends there. -/
  | unexpected (offset : Nat) (expected : Expectation) (found : Option Token)
  /-- An alternative is no right-hand side of a rule. -/
  | rule (cause : RuleError)
  deriving DecidableEq, Repr

def detail (expected : Expectation) (found : Option Token) : String :=
  let instead := match found with
    | some token => token.describe
    | none => "end of input"
  s!"expected {expected.describe}, found {instead}"

def Error.message : Error → String
  | .unexpected offset expected found =>
      s!"syntax error at offset {offset}: {detail expected found}"
  | .rule cause => s!"invalid rule: {cause.message}"

end ChartParsing.Description
