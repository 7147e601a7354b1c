import PredictiveParsing.CommandLine.Files
import PredictiveParsing.CommandLine.Options
import PredictiveParsing.Report

/-!
# The command line

The program takes the path of a grammar and, if an input is to be parsed, its path.  It says whether
the grammar has a table, and whether the input is derived; with `-v` it also shows the table and the
input.  Its exit status is zero when nothing is wrong.
-/

namespace PredictiveParsing
namespace CommandLine

/-- What a run of the program leaves behind. -/
structure Result where
  code : Nat
  out : String := ""
  err : String := ""
deriving DecidableEq, Repr

namespace Result

def success (out : String) : Result where
  code := 0
  out := out

/-- The result of a run that ends with a message. -/
def failure (err : String) : Result where
  code := 1
  err := err

/-- The result with an output before its own. -/
def after (out : String) (r : Result) : Result :=
  { r with out := out ++ r.out }

end Result

def programName : String :=
  "ll1gen"

def usage : String :=
  "Usage: " ++ programName ++ " [options] GRAMMAR [INPUT]\n\n" ++
    "Options:\n" ++
    "    -v, --verbose       Print the LL(1) table and the input\n" ++
    "    -n, --history N     Number of processed symbols to show when parsing\n" ++
    "                        fails. Defaults to " ++ toString Parser.defaultHistoryLimit ++ "\n" ++
    "    -h, --help          Print this message\n"

/-- The line between the parts of a verbose output. -/
def rule : String :=
  "-----------------------------------------------\n"

/-- What the arguments ask for. -/
structure Job where
  verbose : Bool
  historyLimit : Nat
  grammar : String
  input : Option String
deriving DecidableEq, Repr

/-- What the program is to do: a job, or an answer that needs no files. -/
inductive Task where
  | job (job : Job)
  | answer (result : Result)
deriving DecidableEq, Repr

/-- The number of tokens to remember; an error is the text that is no number. -/
def historyLimit (a : Arguments) : Except String Nat :=
  match a.value? .history with
  | none => .ok Parser.defaultHistoryLimit
  | some text =>
      match count? text with
      | some n => .ok n
      | none => .error text

/-- The task that the arguments set. -/
def task (args : List String) : Task :=
  match Arguments.read args with
  | .error e => .answer (.failure (e.message ++ "\n"))
  | .ok a =>
      if a.has .help then .answer (.success usage)
      else
        match historyLimit a with
        | .error text =>
            .answer (.failure (programName ++ ": invalid history length `" ++ text ++ "`\n"))
        | .ok limit =>
            match a.free with
            | [grammar] =>
                .job
                  { verbose := a.has .verbose, historyLimit := limit, grammar := grammar,
                    input := none }
            | [grammar, input] =>
                .job
                  { verbose := a.has .verbose, historyLimit := limit, grammar := grammar,
                    input := some input }
            | _ => .answer { code := 1, out := usage }

/-- Reads a file with something in it; `what` is what the file is for. -/
def readFile (files : Files) (what path : String) : Except Result TextFile :=
  match files path with
  | .error e =>
      .error (.failure
        (programName ++ ": cannot read " ++ what ++ " '" ++ path ++ "': " ++ e.message ++ "\n"))
  | .ok file =>
      if Text.allBlank file.text.toList then
        .error (.failure (programName ++ ": " ++ what ++ " '" ++ path ++ "' is empty\n"))
      else .ok file

/-- The failure on the text of a file. -/
def failed (file : TextFile) (f : Failure) : Result :=
  .failure (Report.failure file.path file.text f)

/-- Loads the grammar of a file and builds its table. -/
def compile (file : TextFile) : Except Result (Grammar × Table) := do
  let g ← (Grammar.load file.text).mapError (failed file)
  let t ← g.table.mapError (failed file)
  return (g, t)

/-- The result of parsing the text of a file; nothing if it takes more than `limit` steps. -/
def parse (g : Grammar) (t : Table) (job : Job) (file : TextFile) (limit : Nat) :
    Option Result :=
  (g.lexAndParse t file.text job.historyLimit limit).map fun
    | .error f => failed file f
    | .ok outcome =>
        if outcome.accepted then
          .success
            ("Parsing was successful.\n" ++ if job.verbose then Report.outcome outcome else "")
        else .failure ("Parsing encountered an error.\n" ++ Report.outcome outcome)

/-- The table as part of the output. -/
def tableBlock (job : Job) (g : Grammar) (t : Table) : String :=
  if job.verbose then rule ++ "LL1 Table (Verbose Mode):\n" ++ Report.table g t ++ rule else ""

/-- The input as part of the output. -/
def inputBlock (job : Job) (file : TextFile) : String :=
  if job.verbose then "Input (Verbose Mode):\n" ++ file.text ++ rule else ""

/-- Does a job. -/
def runJob (files : Files) (job : Job) (limit : Nat) : Option Result :=
  match readFile files "grammar file" job.grammar with
  | .error r => some r
  | .ok file =>
      match compile file with
      | .error r => some r
      | .ok (g, t) =>
          let out := "Grammar is LL(1)\n" ++ tableBlock job g t
          match job.input with
          | none => some (.success out)
          | some path =>
              match readFile files "input file" path with
              | .error r => some (r.after out)
              | .ok file =>
                  (parse g t job file limit).map (Result.after (out ++ inputBlock job file))

/-- Runs the program on its arguments; nothing if a parse takes more than `limit` steps. -/
def run (files : Files) (args : List String) (limit : Nat) : Option Result :=
  match task args with
  | .answer r => some r
  | .job job => runJob files job limit

end CommandLine
end PredictiveParsing
