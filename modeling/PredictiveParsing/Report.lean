import PredictiveParsing.Outcome
import PredictiveParsing.Text.Position

/-!
# Reports

Failures, outcomes and tables as texts of one or more lines, with the place of each failure.
-/

namespace PredictiveParsing
namespace Report

/-- A place in a file: path, line, column. -/
def place (path text : String) (offset : Nat) : String :=
  let p := Text.position text.toList offset
  path ++ ":" ++ toString p.line ++ ":" ++ toString p.column

/-- One line for a fault. -/
def fault (path text : String) (f : PlacedFault) : String :=
  match f.span with
  | some span => "error at " ++ place path text span.first ++ ": " ++ f.fault.message ++ "\n"
  | none => "error in " ++ path ++ ": " ++ f.fault.message ++ "\n"

/-- One line for each fault. -/
def faults (path text : String) (fs : List PlacedFault) : String :=
  String.join (fs.map (fault path text))

/-- The cell of a conflict and the two productions that claim it. -/
def conflict (c : Conflict String String) : String :=
  "conflict at TABLE[" ++ c.nonterminal ++ ", " ++ c.lookahead ++ "]:\n\n  " ++ c.kept ++
    "\n\nor:\n\n  " ++ c.refused ++ "\n\n"

/-- All conflicts, and their number. -/
def conflicts (cs : List (Conflict String String)) : String :=
  String.join (cs.map conflict) ++ (Failure.conflicts cs).message ++ "\n"

def lexError (path text : String) (e : LexError) : String :=
  "invalid character " ++ Text.quoteChar e.char ++ " at " ++ place path text e.span.first ++ "\n"

/-- The report of a failure on a text that was read from `path`. -/
def failure (path text : String) : Failure → String
  | .grammar fs => faults path text fs
  | .conflicts cs => conflicts cs
  | .lexer e => e.message ++ "\n"
  | .lex e => lexError path text e

/-- A rejection in words. -/
def rejection : Rejection String → String
  | .mismatch expected found => "expected " ++ expected ++ ", found " ++ found
  | .noProduction nonterminal lookahead =>
      "no production of " ++ nonterminal ++ " starts with " ++ lookahead
  | .trailingInput found => "unexpected " ++ found ++ " after a complete derivation"
  | .cycle nonterminal => nonterminal ++ " derives itself without consuming input"
  | .missingStart => "missing start symbol"

/-- Names between brackets. -/
def bracketed (names : List String) : String :=
  if names.isEmpty then "[ ]" else "[ " ++ " ".intercalate names ++ " ]"

/-- Why a parse stopped, what was left on the stack, and the last tokens. -/
def outcome (o : Outcome) : String :=
  (match o.rejection with
    | some r => rejection r ++ "\n"
    | none => "") ++
  "Parser stack trace : " ++ bracketed o.stack ++ "\n" ++
  "Last " ++ toString o.history.length ++ " processed symbols : " ++ bracketed o.history ++ "\n"

/-- One line for each filled cell of a table. -/
def table (g : Grammar) (t : Table) : String :=
  String.join <| t.rows.flatMap fun (nt, row) =>
    row.map fun (terminal, ix) =>
      "TABLE[" ++ g.name nt ++ ", " ++ g.name terminal ++ "] = " ++ g.showIndex ix ++ "\n"

end Report
end PredictiveParsing
