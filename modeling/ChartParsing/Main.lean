import ChartParsing.CommandLine.Run

/-!
# The program

Reads the grammar file, computes the outcome and passes it on to the streams and
the exit code.  Nothing is decided here.
-/

namespace ChartParsing.CommandLine

/-- The fault that an error of the operating system stands for. -/
def fileFault : IO.Error → FileFault
  | .inappropriateType none .. => .unmapped "No such device (os error 19)"
  | .inappropriateType (some _) .. => .unopened "Not a directory (os error 20)"
  | .noFileOrDirectory .. => .unopened "No such file or directory (os error 2)"
  | .permissionDenied .. => .unopened "Permission denied (os error 13)"
  | error => .unopened (toString error)

/-- The bytes of a file, or why there are none. -/
def readContent (path : String) : IO (Except FileFault (List UInt8)) := do
  try
    let bytes ← IO.FS.readBinFile path
    return .ok bytes.toList
  catch error =>
    return .error (fileFault error)

/-- The bytes of the file that the arguments ask for, if they ask for one. -/
def requestedContent (arguments : List String) : IO (Except FileFault (List UInt8)) :=
  match Request.ofArguments arguments with
  | .ok (.run parsed) => readContent parsed.path
  | _ => pure (.ok [])

end ChartParsing.CommandLine

/-- Do what the arguments ask for. -/
def main (arguments : List String) : IO UInt32 := do
  let content ← ChartParsing.CommandLine.requestedContent arguments
  match ChartParsing.CommandLine.respond? arguments fun _ => content with
  | some outcome =>
      IO.print outcome.stdout
      IO.eprint outcome.stderr
      return outcome.exitCode.toUInt32
  | none =>
      IO.eprintln "something without a name cannot be printed"
      return 1
