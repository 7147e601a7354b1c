import PredictiveParsing.Pattern.Meaning
import PredictiveParsing.Symbol
import PredictiveParsing.Text.Quoted

/-!
# Lexing

A lexer cuts a text into tokens.  Blanks, tabs and line ends between tokens are skipped.  At every
place the terminal with the longest match wins, and of several the one registered first; a character
that begins no token is an error of its own, and lexing goes on after it.
-/

namespace PredictiveParsing

/-- A token: its terminal, its text, and the bytes it takes up. -/
structure Token where
  terminal : SymbolId
  text : List Char
  span : Span
deriving DecidableEq, Repr

/-- A character that begins no token, and the bytes it takes up. -/
structure LexError where
  char : Char
  span : Span
deriving DecidableEq, Repr

def LexError.message (e : LexError) : String :=
  "invalid character " ++ Text.quoteChar e.char ++ " at " ++ toString e.span.first

/-- A terminal whose pattern gives no regular expression. -/
structure LexerError where
  terminal : String
  cause : PatternError
deriving DecidableEq, Repr

def LexerError.message (e : LexerError) : String :=
  "invalid pattern for terminal `" ++ e.terminal ++ "`: " ++ e.cause.message

/-- A terminal and what its tokens look like. -/
structure LexRule where
  terminal : SymbolId
  regex : Regex
deriving DecidableEq, Repr

/-- A lexer, its rules in the order of registration. -/
structure Lexer where
  rules : List LexRule
deriving DecidableEq, Repr

/-- A place in a text that is being lexed: the rest of the text and the bytes before it. -/
structure Cursor where
  rest : List Char
  offset : Nat
deriving DecidableEq, Repr

namespace Cursor

def start (text : String) : Cursor where
  rest := text.toList
  offset := 0

/-- The cursor after the next `n` characters. -/
def advance (c : Cursor) (n : Nat) : Cursor where
  rest := c.rest.drop n
  offset := c.offset + Text.byteCount (c.rest.take n)

/-- What may stand between tokens. -/
def isSkipped (c : Char) : Bool :=
  c == ' ' || c == '\t' || c == '\r' || c == '\n'

/-- The cursor after all that may stand between tokens. -/
def skip (c : Cursor) : Cursor :=
  c.advance (c.rest.takeWhile isSkipped).length

/-- What the next `n` characters take up. -/
def spanOf (c : Cursor) (n : Nat) : Span where
  first := c.offset
  stop := (c.advance n).offset

end Cursor

namespace Lexer

/-- The rule of a terminal; `EPSILON` has none. -/
def rule? (t : SymbolTable) (id : SymbolId) : Except LexerError (Option LexRule) :=
  match t.pattern? id with
  | some pattern =>
      if id = epsilon then .ok none
      else
        match Pattern.compile pattern with
        | .ok regex => .ok (some { terminal := id, regex := regex })
        | .error cause => .error { terminal := t.name id, cause := cause }
  | none => .ok none

/-- The lexer for the terminals of a symbol table. -/
def ofSymbols (t : SymbolTable) : Except LexerError Lexer := do
  let rules ← t.ids.mapM (rule? t)
  return { rules := rules.filterMap id }

/-- The better of two matches: the longer, and of equals the first. -/
def better (best : Option (SymbolId × Nat)) (next : SymbolId × Nat) : Option (SymbolId × Nat) :=
  match best with
  | none => some next
  | some b => if b.2 < next.2 then some next else some b

/-- The matches of the rules at the beginning of a text, without the empty ones. -/
def candidates (lexer : Lexer) (text : List Char) : List (SymbolId × Nat) :=
  lexer.rules.filterMap fun rule =>
    match rule.regex.longest? text with
    | some length => if length = 0 then none else some (rule.terminal, length)
    | none => none

/-- The terminal with the longest match at the beginning of a text, and the length. -/
def longestMatch? (lexer : Lexer) (text : List Char) : Option (SymbolId × Nat) :=
  (lexer.candidates text).foldl better none

/-- The next token or error, and the cursor after it; nothing at the end of the text. -/
def next? (lexer : Lexer) (cursor : Cursor) : Option (Except LexError Token × Cursor) :=
  let cursor := cursor.skip
  match cursor.rest with
  | [] => none
  | c :: _ =>
      match lexer.longestMatch? cursor.rest with
      | some (terminal, length) =>
          some
            (.ok
              { terminal := terminal, text := cursor.rest.take length,
                span := cursor.spanOf length },
              cursor.advance length)
      | none => some (.error { char := c, span := cursor.spanOf 1 }, cursor.advance 1)

/-- All tokens and errors from a cursor on; each takes at least one character. -/
def itemsFrom (lexer : Lexer) : Nat → Cursor → List (Except LexError Token)
  | 0, _ => []
  | steps + 1, cursor =>
      match lexer.next? cursor with
      | none => []
      | some (item, cursor) => item :: lexer.itemsFrom steps cursor

/-- All tokens and errors of a text. -/
def lex (lexer : Lexer) (text : String) : List (Except LexError Token) :=
  lexer.itemsFrom text.toList.length (.start text)

end Lexer
end PredictiveParsing
