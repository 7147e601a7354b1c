import PredictiveParsing.Document.Line
import PredictiveParsing.Fault

/-!
# Grammar texts

A grammar text has two parts, first its symbol lines and then its rule lines, each closed by a line
with nothing but a semicolon or by the end of the text.  Reading goes through all lines and collects
every line that is wrong; blank lines count for nothing, and whatever follows the second part is
ignored.
-/

namespace PredictiveParsing

open Text

/-- The declarations of a text and where they stand. -/
abbrev Document := List (Spanned Declaration)

namespace Document

/-- The pieces of a text between its line feeds. -/
def lines : List Char → List (List Char)
  | [] => [[]]
  | c :: cs =>
      if c = '\n' then [] :: lines cs
      else
        match lines cs with
        | [] => [[c]]
        | line :: rest => (c :: line) :: rest

/-- A piece of a text without the carriage returns at its end. -/
def stripReturns (line : List Char) : List Char :=
  dropEndWhile (· == '\r') line

/-- The lines with their places, when the first begins at `offset`. -/
def placeLines (offset : Nat) : List (List Char) → List (Spanned (List Char))
  | [] => []
  | raw :: rest =>
      let line := stripReturns raw
      { span := { first := offset, stop := offset + byteCount line }, item := line } ::
        placeLines (offset + byteCount raw + 1) rest

/-- Where a line stands: among the symbol lines, among the rule lines, or after both. -/
inductive Part where
  | symbols | rules | done
deriving DecidableEq, Repr

namespace Part

/-- The part after a separating line. -/
def next : Part → Part
  | .symbols => .rules
  | .rules => .done
  | .done => .done

/-- What a line declares in this part. -/
def declaration? (part : Part) (line : List Char) : Option Declaration :=
  match part with
  | .symbols => Declaration.ofSymbolLine? line
  | _ => Declaration.ofRuleLine? line

/-- What is wrong with a line that declares nothing. -/
def fault (part : Part) (line : List Char) : Fault :=
  let shown := String.ofList (trim line)
  match part with
  | .symbols => .malformed ("invalid symbol declaration `" ++ shown ++ "`")
  | _ => .malformed ("invalid production `" ++ shown ++ "`")

end Part

/-- All that a text gives: declarations, faults, and the first line that was ignored. -/
structure Reading where
  declarations : Document := []
  faults : List PlacedFault := []
  ignored : Option (List Char) := none
deriving DecidableEq, Repr

namespace Reading

def addDeclaration (r : Reading) (d : Spanned Declaration) : Reading :=
  { r with declarations := d :: r.declarations }

def addFault (r : Reading) (f : PlacedFault) : Reading :=
  { r with faults := f :: r.faults }

/-- The document, if nothing is wrong with the text. -/
def result (r : Reading) : Except (List PlacedFault) Document :=
  if r.faults.isEmpty then .ok r.declarations else .error r.faults

end Reading

/-- Whether a line closes a part. -/
def isSeparator (line : List Char) : Bool :=
  trim line == [';']

/-- Reads the lines from the given part on. -/
def readFrom : Part → List (Spanned (List Char)) → Reading
  | _, [] => {}
  | part, line :: rest =>
      if allBlank line.item then readFrom part rest
      else if part = .done then { ignored := some line.item }
      else if isSeparator line.item then readFrom part.next rest
      else
        match part.declaration? line.item with
        | some d => (readFrom part rest).addDeclaration { span := line.span, item := d }
        | none => (readFrom part rest).addFault ((part.fault line.item).placed line.span)

/-- Reads a grammar text. -/
def read (text : String) : Reading :=
  readFrom .symbols (placeLines 0 (lines text.toList))

end Document
end PredictiveParsing
