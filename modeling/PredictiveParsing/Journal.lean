import PredictiveParsing.Document.Loading
import PredictiveParsing.Outcome

/-!
# Journals

What the parts of the library note down while they work, one line for each note, in the order of the
work.  A journal is a function of the input of the work, so that the work itself need not write.
-/

namespace PredictiveParsing

/-- How much a note matters. -/
inductive Level where
  | warning | debug | trace
deriving DecidableEq, Repr

/-- A line of a journal. -/
structure Note where
  level : Level
  text : String
deriving DecidableEq, Repr

namespace Note

def debug (text : String) : Note where
  level := .debug
  text := text

def trace (text : String) : Note where
  level := .trace
  text := text

/-- The note with its level in front. -/
def line (n : Note) : String :=
  (match n.level with
    | .warning => "WARN "
    | .debug => "DEBUG "
    | .trace => "TRACE ") ++ n.text

end Note

namespace Journal

/-- Reading notes the text that it ignores. -/
def reading (r : Document.Reading) : List Note :=
  match r.ignored with
  | some line =>
      [{ level := .warning
         text :=
           "ignoring text after the end of the grammar: " ++ Text.quote (String.ofList line) }]
  | none => []

/-- A registration notes the number of the symbol. -/
def registration (t : SymbolTable) (id : SymbolId) : Note :=
  let kind := if t.isTerminal id then "terminal " else "non-terminal "
  .debug (kind ++ t.name id ++ " = " ++ toString id)

/-- Loading notes every registration, and how much there is in the end. -/
def loading (l : Loading) : List Note :=
  let t := l.grammar.symbols
  (t.ids.drop SymbolTable.initial.size).map (registration t) ++
    [.debug
      ("loaded " ++ toString t.size ++ " symbols, " ++
        toString l.grammar.productions.length ++ " productions")]

/-- All notes on the way from a text to its grammar. -/
def text (text : String) : List Note :=
  let r := Document.read text
  reading r ++
    match r.result with
    | .ok document => loading document.load
    | .error _ => []

/-- Saturation notes the number of passes. -/
def passes (kind : String) {α : Type} (s : Saturated α) : Note :=
  .debug (kind ++ " sets stable after " ++ toString s.passes ++ " passes")

def firstSets (g : Grammar) : List Note :=
  [passes "FIRST" g.firstSets]

def followSets (g : Grammar) (first : SetMap) : List Note :=
  match g.followSets first with
  | .ok s => [passes "FOLLOW" s]
  | .error _ => []

/-- The notes on the computation of both kinds of sets. -/
def sets (g : Grammar) : List Note :=
  firstSets g ++ followSets g g.firstSets.value

/-- Filling a table notes its size and the number of conflicts. -/
def filling (f : Filling) : List Note :=
  [.debug
    ("LL(1) table: " ++ toString f.table.size ++ " cells, " ++
      toString f.conflicts.length ++ " conflicts")]

/-- All notes on the way from a grammar to its table. -/
def table (g : Grammar) : List Note :=
  sets g ++
    match FirstFollow.ofGrammar g with
    | .ok s => filling (Filling.ofSets g s)
    | .error _ => []

/-- A rejection as a value with its fields. -/
def rejection : Rejection String → String
  | .mismatch expected found =>
      "Mismatch \x7b expected: " ++ Text.quote expected ++ ", found: " ++ Text.quote found ++
        " \x7d"
  | .noProduction nonterminal lookahead =>
      "NoProduction \x7b nonterminal: " ++ Text.quote nonterminal ++ ", lookahead: " ++
        Text.quote lookahead ++ " \x7d"
  | .trailingInput found => "TrailingInput \x7b found: " ++ Text.quote found ++ " \x7d"
  | .cycle nonterminal => "Cycle \x7b nonterminal: " ++ Text.quote nonterminal ++ " \x7d"
  | .missingStart => "MissingAxiom"

/-- The parser notes every event. -/
def event (g : Grammar) : Event → Note
  | .popped top lookahead => .trace ("pop " ++ g.name top ++ " lookahead " ++ g.name lookahead)
  | .expanded ix => .trace ("expand " ++ g.showIndex ix)
  | .vanished nt => .trace (g.name nt ++ " derives EPSILON")
  | .accepted => .trace "accept"
  | .rejected r => .trace ("reject: " ++ rejection (r.map g.name))

/-- The notes on a run. -/
def run {σ ε : Type} (g : Grammar) (r : Parser.Run σ ε) : List Note :=
  r.events.reverse.map (event g)

end Journal
end PredictiveParsing
