/-!
# Arguments of the command line

Options may stand anywhere before a lone `--`; what is no option is positional.
The first positional argument names the grammar file and the others are inputs.
Short options may share a dash, and the value of a long option follows in the
next argument or after an equals sign.

Arguments are read from left to right up to one that asks for the version or for
help.  An unknown option before it is an error.  Whether an option is repeated or
lacks its value is looked at only after all arguments have been read.
-/

namespace ChartParsing.CommandLine

structure Arguments where
  verbosity : Nat
  quiet : Bool
  /-- The name of the start symbol to use. -/
  start : Option String
  /-- Whether inputs are split into words instead of characters. -/
  tokens : Bool
  table : Bool
  forest : Bool
  path : String
  inputs : List String
  deriving DecidableEq, Repr

inductive Request where
  | run (arguments : Arguments)
  | showVersion
  | showHelp
  deriving DecidableEq, Repr

inductive UsageError where
  | unknownOption (text : String)
  | repeatedOption (name : String)
  | missingValue (name : String)
  | missingPath
  deriving DecidableEq, Repr

def UsageError.message : UsageError → String
  | .unknownOption text => s!"unknown option: {text}"
  | .repeatedOption name => s!"option given more than once: {name}"
  | .missingValue name => s!"option without a value: {name}"
  | .missingPath => "no grammar description file given"

/-! ## Single arguments -/

/-- An option that changes a run. -/
inductive Setting where
  | verbose
  | quiet
  /-- Use the start symbol of a name, which is missing until the next
  argument gives it. -/
  | start (name : Option String)
  | tokens
  | table
  | forest
  deriving DecidableEq, Repr

/-- The spelling of an option that must not be repeated. -/
def Setting.onceName? : Setting → Option String
  | .verbose => none
  | .quiet => some "-q"
  | .start _ => some "--start"
  | .tokens => some "--tokens"
  | .table => some "--table"
  | .forest => some "--forest"

def Setting.startName? : Setting → Option String
  | .start name => name
  | _ => none

/-- What an argument means. -/
inductive Meaning where
  | positional
  | settings (settings : List Setting)
  /-- Do this whatever follows. -/
  | stop (request : Request)
  deriving DecidableEq, Repr

namespace Meaning

/-- The meaning of the letters of short options, after the options found so far. -/
def ofShort (found : List Setting) : List Char → Except UsageError Meaning
  | [] => .ok (.settings found)
  | 'v' :: rest => ofShort (found ++ [.verbose]) rest
  | 'q' :: rest => ofShort (found ++ [.quiet]) rest
  | 'V' :: _ => .ok (.stop .showVersion)
  | 'h' :: _ => .ok (.stop .showHelp)
  | c :: _ => .error (.unknownOption (String.ofList ['-', c]))

/-- The meaning of a long option: its name, and the text from the first equals sign on.
All equals signs in front of a value belong to the sign, and an option that takes no
value ignores it. -/
def ofLong (name value : List Char) : Except UsageError Meaning :=
  match String.ofList name with
  | "start" =>
      if value.isEmpty then .ok (.settings [.start none])
      else .ok (.settings [.start (some (String.ofList (value.dropWhile (· == '='))))])
  | "tokens" => .ok (.settings [.tokens])
  | "table" => .ok (.settings [.table])
  | "forest" => .ok (.settings [.forest])
  | "version" => .ok (.stop .showVersion)
  | "help" => .ok (.stop .showHelp)
  | other => .error (.unknownOption ("--" ++ other))

/-- The meaning of an argument that is neither a value nor a lone `--`.  A lone dash is
positional, and two dashes or more start a long option. -/
def ofArgument (argument : String) : Except UsageError Meaning :=
  match argument.toList with
  | '-' :: '-' :: rest =>
      let text := rest.dropWhile (· == '-')
      ofLong (text.takeWhile (· != '=')) (text.dropWhile (· != '='))
  | '-' :: c :: rest => ofShort [] (c :: rest)
  | _ => .ok .positional

end Meaning

/-- Whether an argument is an option, a lone `--` included, and not the value of one. -/
def isOption (argument : String) : Bool :=
  match argument.toList with
  | '-' :: _ :: _ => true
  | _ => false

/-! ## All arguments -/

/-- The options read so far, and the positional arguments. -/
structure Progress where
  settings : List Setting
  positional : List String
  deriving DecidableEq, Repr

namespace Progress

def empty : Progress :=
  ⟨[], []⟩

def addSettings (progress : Progress) (settings : List Setting) : Progress :=
  { progress with settings := progress.settings ++ settings }

def addPositional (progress : Progress) (arguments : List String) : Progress :=
  { progress with positional := progress.positional ++ arguments }

/-- Whether the last option still lacks its value. -/
def lacksValue (progress : Progress) : Bool :=
  progress.settings.getLast? = some (.start none)

def supply (progress : Progress) (value : String) : Progress :=
  { progress with settings := progress.settings.dropLast ++ [.start (some value)] }

/-- The first of some names that occurs again. -/
def firstRepeated? : List String → Option String
  | [] => none
  | name :: rest => if rest.contains name then some name else firstRepeated? rest

/-- What is wrong with the options as a whole: the last one lacks its value, or one is
repeated.  An option without a value that others follow counts as giving none. -/
def fault? (progress : Progress) : Option UsageError :=
  if progress.lacksValue then
    some (.missingValue "--start")
  else
    (firstRepeated? (progress.settings.filterMap Setting.onceName?)).map .repeatedOption

def arguments (settings : List Setting) (path : String) (inputs : List String) : Arguments where
  verbosity := settings.count .verbose
  quiet := settings.contains .quiet
  start := settings.findSome? Setting.startName?
  tokens := settings.contains .tokens
  table := settings.contains .table
  forest := settings.contains .forest
  path := path
  inputs := inputs

/-- What the options and positional arguments ask for together. -/
def finish (progress : Progress) : Except UsageError Request :=
  match progress.fault?, progress.positional with
  | some error, _ => .error error
  | none, [] => .error .missingPath
  | none, path :: inputs => .ok (.run (arguments progress.settings path inputs))

def readAll (progress : Progress) : List String → Except UsageError Request
  | [] => progress.finish
  | "--" :: rest => (progress.addPositional rest).finish
  | argument :: rest =>
      if progress.lacksValue && !isOption argument then
        readAll (progress.supply argument) rest
      else
        match Meaning.ofArgument argument with
        | .error error => .error error
        | .ok (.stop request) => .ok request
        | .ok .positional => readAll (progress.addPositional [argument]) rest
        | .ok (.settings settings) => readAll (progress.addSettings settings) rest

end Progress

def Request.ofArguments (arguments : List String) : Except UsageError Request :=
  Progress.empty.readAll arguments

end ChartParsing.CommandLine
