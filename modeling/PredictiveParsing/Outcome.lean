import PredictiveParsing.Document.Loading
import PredictiveParsing.Parser.Sources

/-!
# Outcomes

What is left to say of a parse when it is over, in names, and the ways in which the work on a grammar
and an input can fail.
-/

namespace PredictiveParsing

/-- The result of a parse that came to an end. -/
structure Outcome where
  accepted : Bool
  rejection : Option (Rejection String)
  /-- the names of what is left on the stack, top first -/
  stack : List String
  /-- the names of the last tokens, oldest first -/
  history : List String
deriving DecidableEq, Repr

namespace Parser

/-- The outcome of a parser, in the names of its grammar. -/
def outcome {σ : Type} (g : Grammar) (p : Parser σ) : Outcome where
  accepted := p.status == .accepted
  rejection := p.rejection?.map (Rejection.map g.name)
  stack := g.symbols.names p.stack
  history := g.symbols.names p.history

/-- The outcome of a whole run, the error of its source, or nothing if the limit was reached. -/
def Run.outcome? {σ ε : Type} (g : Grammar) (r : Run σ ε) : Option (Except ε Outcome) :=
  match r.ending with
  | .stopped => some (.ok (r.parser.outcome g))
  | .failed e => some (.error e)
  | .unfinished => none

end Parser

/-- A conflict in the texts of its productions. -/
def Conflict.inNames (g : Grammar) (c : Conflict SymbolId Nat) : Conflict String String where
  nonterminal := g.name c.nonterminal
  lookahead := g.name c.lookahead
  kept := g.showIndex c.kept
  refused := g.showIndex c.refused

/-- Why the work on a grammar or an input has no result. -/
inductive Failure where
  | grammar (faults : List PlacedFault)
  | conflicts (conflicts : List (Conflict String String))
  | lexer (error : LexerError)
  | lex (error : LexError)
deriving DecidableEq, Repr

namespace Failure

def message : Failure → String
  | .grammar faults => toString faults.length ++ " error(s) in grammar"
  | .conflicts cs => "grammar is not LL(1): " ++ toString cs.length ++ " conflicting cell(s)"
  | .lexer e => e.message
  | .lex e => e.message

/-- The failure of a table, in the names of its grammar. -/
def ofTableError (g : Grammar) : TableError → Failure
  | .fault fault => .grammar [fault.unplaced]
  | .conflicts cs => .conflicts (cs.map (Conflict.inNames g))

end Failure

namespace Grammar

/-- Loads a grammar from its text. -/
def load (text : String) : Except Failure Grammar :=
  (ofText text).mapError .grammar

/-- Builds the table of a grammar. -/
def table (g : Grammar) : Except Failure Table :=
  (Table.ofGrammar g).mapError (.ofTableError g)

/-- Runs the parser over the names of terminals. -/
def parseNames (g : Grammar) (t : Table) (names : List String) (historyLimit limit : Nat) :
    Parser.Run (List String) Fault :=
  (Parser.start g names historyLimit).run (.ofNames g.symbols) g t limit

/-- Runs the parser over the tokens of a text. -/
def parseText (g : Grammar) (t : Table) (lexer : Lexer) (text : String)
    (historyLimit limit : Nat) : Parser.Run Cursor LexError :=
  (Parser.start g (Cursor.start text) historyLimit).run (.ofLexer lexer) g t limit

/-- Lexes a text by the patterns of the grammar and parses it; nothing if the limit was reached. -/
def lexAndParse (g : Grammar) (t : Table) (text : String) (historyLimit limit : Nat) :
    Option (Except Failure Outcome) :=
  match Lexer.ofSymbols g.symbols with
  | .error e => some (.error (.lexer e))
  | .ok lexer =>
      ((g.parseText t lexer text historyLimit limit).outcome? g).map (Except.mapError .lex)

end Grammar
end PredictiveParsing
