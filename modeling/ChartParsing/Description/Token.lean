/-!
# Tokens of a description

A description is written with names of nonterminals, quoted names of terminals,
the keyword `start` and three punctuation marks.  A lexeme is a token together
with the bytes it takes up in the text.
-/

namespace ChartParsing.Description

inductive Token where
  | colon
  | semicolon
  | pipe
  /-- The keyword that declares the start symbol. -/
  | start
  /-- A bare name, which stands for a nonterminal. -/
  | identifier (name : String)
  /-- A quoted name, which stands for a terminal, without its quotes and escapes. -/
  | quoted (name : String)
  /-- A quoted name whose closing quote is missing. -/
  | unterminated (name : String)
  deriving DecidableEq, Repr

structure Lexeme where
  start : Nat
  stop : Nat
  token : Token
  deriving DecidableEq, Repr

def Token.describe : Token → String
  | .colon => "`:`"
  | .semicolon => "`;`"
  | .pipe => "`|`"
  | .start => "keyword `start`"
  | .identifier name => s!"`{name}`"
  | .quoted name => s!"`'{name}'`"
  | .unterminated _ => "unterminated quote"

end ChartParsing.Description
