import PredictiveParsing.CommandLine

/-!
# The program

Reads the arguments and the files, runs the command line and prints what it leaves behind.
-/

open PredictiveParsing

/-- Whether an error has this number; systems give it with its sign or without. -/
def isNumber (code number : UInt32) : Bool :=
  code == number || code == 0 - number

/-- Reads a file of the system. -/
def readSystemFile (path : String) : IO (Except CommandLine.ReadError CommandLine.TextFile) := do
  try
    let bytes ← IO.FS.readBinFile path
    match String.fromUTF8? bytes with
    | some text =>
        let full ← IO.FS.realPath path
        return .ok { path := full.toString, text := text }
    | none => return .error .notText
  catch
    | .noFileOrDirectory .. => return .error .notFound
    | .inappropriateType _ code _ =>
        return .error (if isNumber code 20 then .notDirectory else .isDirectory)
    | .invalidArgument _ code details =>
        return .error (if isNumber code 36 then .nameTooLong else .system details)
    | e => return .error (.system (toString e))

def main (args : List String) : IO UInt32 := do
  let paths :=
    match CommandLine.task args with
    | .job job => job.grammar :: job.input.toList
    | .answer _ => []
  let files ← paths.mapM fun path => return (path, ← readSystemFile path)
  let lookUp : CommandLine.Files := fun path =>
    (files.lookup path).getD (.error .notFound)
  match CommandLine.run lookUp args Parser.stepLimit with
  | none => return 1
  | some result =>
      IO.print result.out
      IO.eprint result.err
      return result.code.toUInt32
