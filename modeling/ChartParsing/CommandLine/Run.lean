import ChartParsing.Chart.Fill
import ChartParsing.Chart.Printer
import ChartParsing.CommandLine.Arguments
import ChartParsing.Description.Reader
import ChartParsing.Forest.Count
import ChartParsing.Forest.Extraction
import ChartParsing.Forest.Printer
import ChartParsing.Grammar.Usefulness
import ChartParsing.Text.Quoted
import ChartParsing.Text.Utf8

/-!
# A run of the program

The program loads a grammar, warns about what is of no use in it, and then says
of each input whether the start symbol derives it.  All that it does is computed
from its arguments and the contents of the grammar file: what is printed, what
is logged, and whether it failed.
-/

namespace ChartParsing.CommandLine

/-- What a run prints, what it logs, and whether it fails. -/
structure Report where
  printed : List String
  logged : List Log.Record
  failed : Bool
  deriving DecidableEq, Repr

structure Outcome where
  exitCode : Nat
  stdout : String
  stderr : String
  deriving DecidableEq, Repr

/-- Why the contents of a file are not to be had, in the words of the operating system. -/
inductive FileFault where
  | unopened (reason : String)
  /-- The length of what was opened is not to be had. -/
  | unmeasured (reason : String)
  /-- What was opened has no contents, as is the case for a directory. -/
  | unmapped (reason : String)
  deriving DecidableEq, Repr

def FileFault.message (path : String) : FileFault → String
  | .unopened reason => s!"unable to open {path}: {reason}"
  | .unmeasured reason => s!"unable to stat {path}: {reason}"
  | .unmapped reason => s!"unable to map {path}: {reason}"

def unlines (lines : List String) : String :=
  String.join (lines.map (· ++ "\n"))

namespace Report

/-- A run that fails with a message, after what was logged before. -/
def failure (logged : List Log.Record) (message : String) : Report :=
  ⟨[], logged ++ [⟨.error, message⟩], true⟩

def append (first second : Report) : Report :=
  ⟨first.printed ++ second.printed, first.logged ++ second.logged,
    first.failed || second.failed⟩

/-- What is seen of a run: messages only as far as they were asked for. -/
def outcome (report : Report) (arguments : Arguments) : Outcome :=
  let shown := if arguments.quiet then [] else Log.visible arguments.verbosity report.logged
  ⟨if report.failed then 1 else 0, unlines report.printed, unlines (shown.map (·.line))⟩

end Report

/-! ## The grammar -/

def loadedRecord (grammar : Grammar) : Log.Record :=
  ⟨.debug, s!"loaded {grammar.rules.size} rules over {grammar.nonterminalBound} nonterminals" ++
    s!" and {grammar.terminalBound} terminals"⟩

/-- The warning that the start symbol asked for does not exist. -/
def startWarnings (arguments : Arguments) (grammar : Grammar) : List Log.Record :=
  match arguments.start with
  | some name =>
      if (grammar.nonterminal? name).isSome then []
      else [⟨.warn, s!"start symbol `{name}` does not occur in the grammar"⟩]
  | none => []

def uselessWarnings? (grammar : Grammar) (start : Nonterminal) (found : Usefulness)
    (nonterminal : Nonterminal) : Option (List Log.Record) := do
  let name ← grammar.nonterminalName? nonterminal
  let root ← grammar.nonterminalName? start
  let unproductive : List Log.Record :=
    if found.isProductive nonterminal then []
    else [⟨.warn, s!"nonterminal `{name}` derives no terminal string"⟩]
  let unreachable : List Log.Record :=
    if found.isReachable nonterminal then []
    else [⟨.warn, s!"nonterminal `{name}` is unreachable from `{root}`"⟩]
  return unproductive ++ unreachable

def grammarWarnings? (grammar : Grammar) : Option Nonterminal → Option (List Log.Record)
  | none => some [⟨.warn, "no start symbol, all inputs will be rejected"⟩]
  | some start => do
      let found ← Usefulness.analyse? grammar start
      let warnings ← found.useless.mapM (uselessWarnings? grammar start found)
      return warnings.flatten

/-! ## The inputs -/

def chartOf (arguments : Arguments) (grammar : Grammar) (input : String) : Chart :=
  if arguments.tokens then Chart.ofTokens grammar (Text.words input)
  else Chart.ofText grammar input

/-- Whether there is a start symbol and it derives an input. -/
def verdict (chart : Chart) (start : Option Nonterminal) : Bool :=
  start.any chart.accepts

def forestLine : Option Forest → String
  | none => "forest: none"
  | some forest =>
      let suffix := if forest.isAmbiguous then ", ambiguous" else ""
      s!"forest: {forest.size} nodes, {forest.treeCount} trees{suffix}"

/-- The report on the forest of an input, if it is asked for. -/
def forestReport? (arguments : Arguments) (chart : Chart) (start : Option Nonterminal) :
    Option Report := do
  if arguments.forest then
    let forest := start.bind (Forest.extract? chart)
    let logged ← (forest.mapM (Forest.log? chart.grammar)).map (·.getD [])
    return ⟨[forestLine forest], logged, false⟩
  else
    return ⟨[], [], false⟩

/-- The report on the chart of an input, if it is asked for. -/
def tableReport? (arguments : Arguments) (chart : Chart) : Option Report := do
  if arguments.table then
    let text ← chart.text?
    return ⟨[text], [], false⟩
  else
    return ⟨[], [], false⟩

def inputReport? (arguments : Arguments) (grammar : Grammar) (start : Option Nonterminal)
    (input : String) : Option Report := do
  let chart := chartOf arguments grammar input
  let logged ← chart.log?
  let word := if verdict chart start then "ACCEPTED" else "REJECTED"
  let table ← tableReport? arguments chart
  let forest ← forestReport? arguments chart start
  return (Report.append ⟨[s!"{Text.quote input}: {word}"], logged, false⟩ table).append forest

/-! ## The whole run -/

/-- The report on a grammar file whose text is known. -/
def reportText? (arguments : Arguments) (text : String) : Option Report := do
  let reading := Description.read text
  let readLog ← reading.reader.log?
  match reading.result with
  | .error error => return Report.failure readLog s!"{arguments.path}: {error.message}"
  | .ok description =>
      let grammar := description.grammar
      let start := description.startFor arguments.start
      let warnings ← grammarWarnings? grammar start
      let reports ← arguments.inputs.mapM (inputReport? arguments grammar start)
      let logged :=
        readLog ++ [loadedRecord grammar] ++ startWarnings arguments grammar ++ warnings
      return reports.foldl Report.append ⟨[], logged, false⟩

/-- The report of a run, given the bytes of the grammar file or why there are none.
There is no report exactly if something without a name would have to be printed. -/
def report? (arguments : Arguments) (content : Except FileFault (List UInt8)) : Option Report :=
  match content with
  | .error fault => some (.failure [] (fault.message arguments.path))
  | .ok bytes =>
      match Text.Utf8.decode bytes with
      | .error fault => some (.failure [] s!"{arguments.path} is not UTF-8: {fault.message}")
      | .ok text => reportText? arguments text

def run? (arguments : Arguments) (content : Except FileFault (List UInt8)) :
    Option Outcome := do
  let report ← report? arguments content
  return report.outcome arguments

def versionLine : String := "cyk 0.1.0"

def usageLine : String :=
  "usage: cyk [-v]... [-q] [--start NONTERMINAL] [--tokens] [--table] [--forest] GRAMMAR [INPUT]..."

/-- What the program does, given how the contents of a file are found. -/
def respond? (arguments : List String) (open? : String → Except FileFault (List UInt8)) :
    Option Outcome :=
  match Request.ofArguments arguments with
  | .error error => some ⟨1, "", unlines [s!"error: {error.message}", "", usageLine]⟩
  | .ok .showVersion => some ⟨0, unlines [versionLine], ""⟩
  | .ok .showHelp => some ⟨0, unlines [versionLine, "", usageLine], ""⟩
  | .ok (.run arguments) => run? arguments (open? arguments.path)

end ChartParsing.CommandLine
