import ChartParsing.Description.Error
import ChartParsing.Description.Lexer
import ChartParsing.Grammar.Printer
import ChartParsing.Log

/-!
# Reading a description

A description is a sequence of statements: a lone semicolon, a declaration of
the start symbol, or a nonterminal with the alternatives that may replace it.
The reader takes one lexeme at a time.  Names are numbered as they are met, and
an alternative becomes a rule as soon as it is closed.
-/

namespace ChartParsing

structure Description where
  grammar : Grammar
  /-- The start symbol declared last, or else that of the first rule. -/
  start : Option Nonterminal
  deriving DecidableEq, Repr

namespace Description

/-- The nonterminal of a name, or the start symbol if no name is given. -/
def startFor (description : Description) : Option String → Option Nonterminal
  | some name => description.grammar.nonterminal? name
  | none => description.start

/-- What the next lexeme belongs to. -/
inductive Mode where
  | statement
  /-- The name in a declaration of the start symbol. -/
  | startName
  | startEnd (name : String)
  /-- The colon after the left-hand side of rules. -/
  | colon (lhs : Nonterminal)
  /-- An alternative of which some symbols are read. -/
  | alternative (lhs : Nonterminal) (symbols : List Symbol)
  deriving DecidableEq, Repr

/-- What is known after some lexemes. -/
structure Reader where
  grammar : Grammar
  declared : Option Nonterminal
  /-- The left-hand side of the first rule. -/
  first : Option Nonterminal
  /-- The numbers of the rules that the alternatives so far denote. -/
  accepted : List Nat
  mode : Mode
  deriving DecidableEq, Repr

namespace Reader

def empty : Reader :=
  ⟨.empty, none, none, [], .statement⟩

def expected (reader : Reader) : Expectation :=
  match reader.mode with
  | .statement => .statement
  | .startName => .startSymbol
  | .startEnd _ => .semicolon
  | .colon _ => .colon
  | .alternative _ _ => .alternative

def missing? (reader : Reader) : Option Expectation :=
  match reader.mode with
  | .statement => none
  | .startName => some .startSymbol
  | .startEnd _ => some .semicolon
  | .colon _ => some .colon
  | .alternative _ _ => some .semicolon

def close (reader : Reader) (lhs : Nonterminal) (symbols : List Symbol) (next : Mode) :
    Except Error Reader :=
  match reader.grammar.addProduction lhs symbols with
  | .ok (number, grammar) =>
      .ok { reader with
        grammar := grammar
        accepted := reader.accepted ++ [number]
        mode := next }
  | .error cause => .error (.rule cause)

def step (reader : Reader) (lexeme : Lexeme) : Except Error Reader :=
  match reader.mode, lexeme.token with
  | .statement, .semicolon => .ok reader
  | .statement, .start => .ok { reader with mode := .startName }
  | .statement, .identifier name =>
      let (lhs, grammar) := reader.grammar.addNonterminal name
      .ok { reader with
        grammar := grammar
        first := reader.first <|> some lhs
        mode := .colon lhs }
  | .startName, .identifier name => .ok { reader with mode := .startEnd name }
  | .startEnd name, .semicolon =>
      let (start, grammar) := reader.grammar.addNonterminal name
      .ok { reader with grammar := grammar, declared := some start, mode := .statement }
  | .colon lhs, .colon => .ok { reader with mode := .alternative lhs [] }
  | .alternative lhs symbols, .identifier name =>
      let (nonterminal, grammar) := reader.grammar.addNonterminal name
      .ok { reader with
        grammar := grammar
        mode := .alternative lhs (symbols ++ [.nonterminal nonterminal]) }
  | .alternative lhs symbols, .quoted name =>
      let (letter, grammar) := reader.grammar.addTerminal name
      .ok { reader with
        grammar := grammar
        mode := .alternative lhs (symbols ++ [.terminal letter]) }
  | .alternative lhs symbols, .pipe => reader.close lhs symbols (.alternative lhs [])
  | .alternative lhs symbols, .semicolon => reader.close lhs symbols .statement
  | _, token => .error (.unexpected lexeme.start reader.expected (some token))

/-- Read lexemes up to the first one that is in error. -/
def run (reader : Reader) : List Lexeme → Reader × Option Error
  | [] => (reader, none)
  | lexeme :: rest =>
      match reader.step lexeme with
      | .ok next => next.run rest
      | .error error => (reader, some error)

def description (reader : Reader) : Description :=
  ⟨reader.grammar, reader.declared <|> reader.first⟩

/-- The records of the rules accepted, in the order of their alternatives. -/
def log? (reader : Reader) : Option (List Log.Record) :=
  reader.accepted.mapM fun number => do
    let rule ← reader.grammar.rule? number
    let text ← reader.grammar.ruleText? rule
    return ⟨.trace, s!"added rule {text}"⟩

end Reader

/-- Where reading a text ended, and the error if there is one. -/
structure Reading where
  reader : Reader
  error? : Option Error
  deriving DecidableEq, Repr

/-- Read a text to its end or to the first error. -/
def read (text : String) : Reading :=
  match Reader.empty.run (lexemes text) with
  | (reader, some error) => ⟨reader, some error⟩
  | (reader, none) =>
      ⟨reader, reader.missing?.map fun expected =>
        .unexpected text.utf8ByteSize expected none⟩

def Reading.result (reading : Reading) : Except Error Description :=
  match reading.error? with
  | some error => .error error
  | none => .ok reading.reader.description

def parse (text : String) : Except Error Description :=
  (read text).result

end Description

end ChartParsing
