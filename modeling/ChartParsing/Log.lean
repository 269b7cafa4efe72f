/-!
# Log records

What a computation reports beside its result is a list of records in the order
in which they arise.  Each record has a level; the more verbose a reader is, the
more levels are shown.
-/

namespace ChartParsing.Log

/-- How much a record matters, from the most to the least. -/
inductive Level where
  | error
  | warn
  | info
  | debug
  | trace
  deriving DecidableEq, Repr

def Level.label : Level → String
  | .error => "ERROR"
  | .warn => "WARN"
  | .info => "INFO"
  | .debug => "DEBUG"
  | .trace => "TRACE"

/-- The least verbosity that shows records of a level. -/
def Level.verbosity : Level → Nat
  | .error => 0
  | .warn => 1
  | .info => 2
  | .debug => 3
  | .trace => 4

structure Record where
  level : Level
  text : String
  deriving DecidableEq, Repr

def Record.line (record : Record) : String :=
  s!"{record.level.label} - {record.text}"

/-- The records that a reader of the given verbosity is shown. -/
def visible (verbosity : Nat) (records : List Record) : List Record :=
  records.filter (·.level.verbosity ≤ verbosity)

end ChartParsing.Log
