import PredictiveParsing.Lexing
import PredictiveParsing.Parser

/-!
# Sources of tokens

Tokens from a text by way of a lexer, and tokens from a list of terminals' names.
-/

namespace PredictiveParsing
namespace Source

/-- The terminals of the tokens of a text. -/
def ofLexer (lexer : Lexer) : Source Cursor LexError where
  pull cursor :=
    match lexer.next? cursor with
    | none => (.ok none, cursor)
    | some (.ok token, cursor) => (.ok (some token.terminal), cursor)
    | some (.error e, cursor) => (.error e, cursor)

/-- The terminal of this name; `EPSILON` is no token. -/
def tokenNamed (t : SymbolTable) (name : String) : Except Fault SymbolId := do
  let id ← t.resolve name
  if t.isTerminal id && id != epsilon then return id else throw (.notTerminal name)

/-- The terminals that have the names of a list. -/
def ofNames (t : SymbolTable) : Source (List String) Fault where
  pull
    | [] => (.ok none, [])
    | name :: rest => ((tokenNamed t name).map some, rest)

end Source
end PredictiveParsing
